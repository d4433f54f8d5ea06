/-
This file gives the shape of a whole fetch.

Main statement: whatever the transport answers, the requests of a fetch part into attempts, each of
them a chain of redirects from the URL that was asked for; all of them but the last have timed out,
and between two of them there is one pause.
-/
import FeedCache.Fetch.Run
import FeedCache.Proofs.Fetch.Counters
import FeedCache.Proofs.Fetch.Transcript
import Mathlib.Algebra.Group.Action.Defs
import Mathlib.Algebra.Order.BigOperators.Group.List
import Mathlib.Algebra.Order.Ring.Nat

namespace FeedCache.Fetch

variable {State : Type}

/-- The requests of one attempt with their replies: no more than the budget allows, the first one to
the URL, and each other one to where the reply before it redirects. -/
structure IsAttempt (policy : Policy) (url : Url) (log : List Exchange) : Prop where
  bounded : log.length ≤ policy.maxRedirects
  starts : log.head?.map Exchange.url = if policy.maxRedirects = 0 then none else some url
  chained : log.IsChain fun first second => first.RedirectsTo second.url

theorem Attempt.Follows.isAttempt {transport : Transport State} {policy : Policy} {url : Url}
    {state : State} {done : Attempt State}
    (follows : done.Follows transport policy.maxRedirects policy.timeout url state) :
    IsAttempt policy url (transcript transport state done.requests) where
  bounded := by
    have lengths := congrArg List.length (transcript_urls transport state done.requests)
    rw [List.length_map] at lengths
    rw [lengths]
    exact follows.bounded
  starts := by rw [← List.head?_map, transcript_urls, follows.starts]
  chained := follows.chained

/-- The attempts of a fetch with the requests in them, from a state of the transport and with as
many attempts as may be made. -/
structure Run.Shape (transport : Transport State) (policy : Policy) (url : Url) (budget : Nat)
    (state : State) (run : Run State) : Prop where
  /-- No attempt is made beyond the budget, and one is made if there is any. -/
  bounded : run.attempts.length ≤ budget
  begun : budget ≠ 0 → run.attempts ≠ []
  /-- One pause stands between two attempts, and none before or after all of them. -/
  paused : run.steps = (run.attempts.map .attempt).intersperse (.pause policy.retryBackoff)
  /-- All attempts but the last one end in a timeout. -/
  parted : ∃ parts : List (List Exchange), transcript transport state run.requests = parts.flatten ∧
    parts.map (fun part => part.map Exchange.url) = run.attempts.map Attempt.requests ∧
    (∀ part ∈ parts, IsAttempt policy url part) ∧
    ∀ part ∈ parts.dropLast, EndsInTimeout policy.timeout part
  /-- The transport is asked for nothing else. -/
  moved : run.state = stateAfter transport state run.requests
  attempted : ∀ done ∈ run.attempts, ∃ before, done = attempt transport policy url before

theorem Attempt.outcome?_eq_none {done : Attempt State} {url : Url} {number : Nat} :
    done.outcome? url number = none ↔ done.ending = .timedOut := by
  unfold Attempt.outcome?
  cases done.ending <;> simp

/-- A fetch is over with an attempt that has not timed out. -/
theorem retry_ended (transport : Transport State) (policy : Policy) (url : Url) (left made : Nat)
    (state : State) {outcome : Outcome}
    (ended : (attempt transport policy url state).outcome? url (made + 1) = some outcome) :
    retry transport policy url (left + 1) made state =
      ⟨outcome, [.attempt (attempt transport policy url state)],
        (attempt transport policy url state).state⟩ := by
  rw [retry]
  dsimp only
  rw [ended]

/-- After an attempt that has timed out the fetch goes on with what is left. -/
theorem retry_again (transport : Transport State) (policy : Policy) (url : Url) (left made : Nat)
    (state : State)
    (again : (attempt transport policy url state).outcome? url (made + 1) = none) :
    let done := attempt transport policy url state
    let rest := retry transport policy url left (made + 1) done.state
    let run := retry transport policy url (left + 1) made state
    run.steps =
        .attempt done :: ((if left = 0 then [] else [.pause policy.retryBackoff]) ++ rest.steps) ∧
      run.attempts = done :: rest.attempts ∧ run.requests = done.requests ++ rest.requests ∧
      run.state = rest.state := by
  intro done rest run
  have unfolded : run = { rest with
      steps := .attempt done ::
        ((if left = 0 then [] else [.pause policy.retryBackoff]) ++ rest.steps) } := by
    simp only [run, retry, again, rest, done]
  have attempts : run.attempts = done :: rest.attempts := by
    rw [unfolded]
    by_cases last : left = 0
    · simp [Run.attempts, last, Step.attempt?]
    · simp [Run.attempts, last, List.filterMap_cons, Step.attempt?]
  refine ⟨by rw [unfolded], attempts, ?_, by rw [unfolded]⟩
  rw [Run.requests, attempts, List.flatMap_cons]
  rfl

/-- One attempt is a whole fetch. -/
theorem Run.Shape.single (transport : Transport State) (policy : Policy) (url : Url) (budget : Nat)
    (state : State) (outcome : Outcome) :
    (Run.mk outcome [.attempt (attempt transport policy url state)]
        (attempt transport policy url state).state).Shape
      transport policy url (budget + 1) state := by
  have follows := follow_follows transport policy.maxRedirects policy.maxRedirects policy.timeout
    url state
  rw [← attempt] at follows
  generalize same : attempt transport policy url state = done at follows ⊢
  have attempts : (Run.mk outcome [.attempt done] done.state).attempts = [done] := rfl
  have requests : (Run.mk outcome [.attempt done] done.state).requests = done.requests :=
    List.append_nil _
  constructor
  · rw [attempts]
    exact Nat.le_add_left 1 budget
  · rw [attempts]
    simp
  · rfl
  · rw [attempts, requests]
    exact ⟨[transcript transport state done.requests], by simp, by simp,
      by simpa using follows.isAttempt, by simp⟩
  · rw [requests]
    exact follows.moved
  · rw [attempts]
    rintro other member
    exact ⟨state, (List.mem_singleton.1 member).trans same.symm⟩

/-- A fetch goes on after an attempt that has timed out. -/
theorem Run.Shape.again {transport : Transport State} {policy : Policy} {url : Url} {budget : Nat}
    {state : State} {done : Attempt State} {rest run : Run State}
    (made : done = attempt transport policy url state) (timedOut : done.ending = .timedOut)
    (steps : run.steps =
      .attempt done :: ((if budget = 0 then [] else [.pause policy.retryBackoff]) ++ rest.steps))
    (attempts : run.attempts = done :: rest.attempts)
    (requests : run.requests = done.requests ++ rest.requests) (moved : run.state = rest.state)
    (shape : rest.Shape transport policy url budget done.state) :
    run.Shape transport policy url (budget + 1) state := by
  have follows := follow_follows transport policy.maxRedirects policy.maxRedirects policy.timeout
    url state
  rw [← attempt, ← made] at follows
  obtain ⟨parts, flat, urls, chains, timeouts⟩ := shape.parted
  constructor
  · rw [attempts]
    exact Nat.succ_le_succ shape.bounded
  · rw [attempts]
    simp
  · rw [steps, attempts, shape.paused]
    by_cases last : budget = 0
    · have nothing := shape.bounded
      rw [last, Nat.le_zero, List.length_eq_zero_iff] at nothing
      simp [last, nothing]
    · obtain ⟨first, others, next⟩ := List.exists_cons_of_ne_nil (shape.begun last)
      simp [last, next]
  · refine ⟨transcript transport state done.requests :: parts, ?_, ?_, ?_, ?_⟩
    · rw [requests, transcript_append, ← follows.moved, flat, List.flatten_cons]
    · rw [attempts, List.map_cons, List.map_cons, transcript_urls, urls]
    · rintro part member
      rcases List.mem_cons.1 member with rfl | inside
      · exact follows.isAttempt
      · exact chains part inside
    · rintro part member
      cases parts with
      | nil => simp at member
      | cons second others =>
          rw [List.dropLast_cons_cons] at member
          rcases List.mem_cons.1 member with rfl | inside
          · exact follows.timedOut.1 timedOut
          · exact timeouts part inside
  · rw [moved, requests, stateAfter_append, ← follows.moved]
    exact shape.moved
  · rw [attempts]
    rintro other member
    rcases List.mem_cons.1 member with rfl | inside
    · exact ⟨state, made⟩
    · exact shape.attempted other inside

theorem retry_shape (transport : Transport State) (policy : Policy) (url : Url) (left made : Nat)
    (state : State) :
    (retry transport policy url left made state).Shape transport policy url left state := by
  induction left generalizing made state with
  | zero =>
      exact ⟨Nat.le_refl 0, fun some => absurd rfl some, rfl,
        ⟨[], rfl, rfl, by simp, by simp⟩, rfl, by simp [retry, Run.attempts]⟩
  | succ left hypothesis =>
      cases ended : (attempt transport policy url state).outcome? url (made + 1) with
      | some outcome =>
          rw [retry_ended transport policy url left made state ended]
          exact .single transport policy url left state outcome
      | none =>
          obtain ⟨steps, attempts, requests, moved⟩ :=
            retry_again transport policy url left made state ended
          exact .again rfl (Attempt.outcome?_eq_none.1 ended) steps attempts requests moved
            (hypothesis (made + 1) (attempt transport policy url state).state)

/-- All attempts together make no more requests than their budgets allow. -/
theorem Run.Shape.requests_length {transport : Transport State} {policy : Policy} {url : Url}
    {budget : Nat} {state : State} {run : Run State}
    (shape : run.Shape transport policy url budget state) :
    run.requests.length ≤ budget * policy.maxRedirects := by
  have each : ∀ count ∈ run.attempts.map fun done => done.requests.length,
      count ≤ policy.maxRedirects := by
    intro count member
    obtain ⟨done, inside, rfl⟩ := List.mem_map.1 member
    obtain ⟨before, rfl⟩ := shape.attempted done inside
    exact (follow_follows transport _ _ policy.timeout url before).bounded
  have total := List.sum_le_card_nsmul _ _ each
  rw [List.length_map, smul_eq_mul] at total
  rw [Run.requests, List.length_flatMap]
  exact total.trans (Nat.mul_le_mul_right _ shape.bounded)

/-- Nothing is requested for a text that names nothing to fetch. Any other fetch has the shape of
its attempts, and its counters stay in the range of 32 bits where the budget does. -/
theorem run_shape (transport : Transport State) (policy : Policy) (text : String) (state : State) :
    let run := Fetch.run transport policy text state
    (∀ rejection, Url.parse text = .error rejection →
      run.steps = [] ∧ run.requests = [] ∧ run.state = state) ∧
    ∀ url, Url.parse text = .ok url →
      run.Shape transport policy url (max 1 policy.maxRetries) state ∧
      run.requests.length ≤ max 1 policy.maxRetries * policy.maxRedirects ∧
      ∀ limit : UInt32, policy.maxRedirects = limit.toNat → ∀ done ∈ run.attempts,
        ∃ before last, followCounted transport limit ⟨limit, 0⟩ policy.timeout url before =
            some (done, last) ∧
          last.redirects ≤ limit ∧
          ∀ finalUrl response, done.ending = .landed finalUrl response →
            last.redirects.toNat + 1 = done.requests.length := by
  intro run
  constructor
  · intro rejection rejected
    have nothing : run = ⟨.failed (.invalidUrl rejection), [], state⟩ := by
      simp only [run, Fetch.run, rejected]
    rw [nothing]
    exact ⟨rfl, rfl, rfl⟩
  · intro url parsed
    have same : run = retry transport policy url policy.attempts 0 state := by
      simp only [run, Fetch.run, parsed]
    have shape : run.Shape transport policy url (max 1 policy.maxRetries) state :=
      same ▸ retry_shape transport policy url policy.attempts 0 state
    refine ⟨shape, shape.requests_length, ?_⟩
    intro limit budget done member
    obtain ⟨before, rfl⟩ := shape.attempted done member
    obtain ⟨last, counted⟩ := attempt_counted transport policy url before budget
    exact ⟨before, last, counted⟩

/-- A transport that redirects, times out, and answers. -/
def sampleTransport : Transport Nat
  | 0, _ => (⟨1, .ok { status := 302, location := some "/b" }⟩, 1)
  | 1, _ => (⟨1, .error .timeout⟩, 2)
  | count + 2, _ => (⟨1, .ok { status := 200 }⟩, count + 3)

def samplePolicy : Policy := ⟨100, 2, 2, 5⟩

def sampleUrl (segment : List Char) : Url := ⟨.http, [], none, .name ['a'], none, [segment], none⟩

/-- The second attempt starts from the first URL again. -/
theorem run_shape_sample :
    let run := Fetch.run sampleTransport samplePolicy "http://a/" 0
    Url.parse "http://a/" = .ok (sampleUrl []) ∧
      run.requests = [sampleUrl [], sampleUrl ['b'], sampleUrl []] ∧
      run.Shape sampleTransport samplePolicy (sampleUrl []) (max 1 samplePolicy.maxRetries) 0 ∧
      ∀ done ∈ run.attempts, ∃ before last,
        followCounted sampleTransport 2 ⟨2, 0⟩ samplePolicy.timeout (sampleUrl []) before =
          some (done, last) ∧ last.redirects ≤ 2 := by
  intro run
  have parsed : Url.parse "http://a/" = .ok (sampleUrl []) := by decide +kernel
  have requests : run.requests = [sampleUrl [], sampleUrl ['b'], sampleUrl []] := by
    decide +kernel
  obtain ⟨shape, -, counted⟩ :=
    (run_shape sampleTransport samplePolicy "http://a/" 0).2 (sampleUrl []) parsed
  refine ⟨parsed, requests, shape, fun done member => ?_⟩
  obtain ⟨before, last, same, bounded, -⟩ := counted 2 rfl done member
  exact ⟨before, last, same, bounded⟩

end FeedCache.Fetch
