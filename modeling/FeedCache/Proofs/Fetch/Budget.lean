/-
This file compares a fetch with one that has larger budgets.

Main statement: a budget that is raised changes nothing about a fetch that did not run out of it.
-/
import FeedCache.Proofs.Fetch.Outcome

namespace FeedCache.Fetch

variable {State : Type}

/-- Hops that are left over at the end of an attempt change nothing. -/
theorem follow_of_larger (transport : Transport State) {limit larger hops more time : Nat}
    {url : Url} {state : State} (enough : hops ≤ more)
    (inBudget : (follow transport limit hops time url state).ending ≠
      .failed (.redirectLoop limit)) :
    follow transport larger more time url state = follow transport limit hops time url state := by
  induction hops generalizing more time url state with
  | zero => exact absurd rfl inBudget
  | succ hops hypothesis =>
      obtain ⟨more, rfl⟩ := Nat.exists_eq_succ_of_ne_zero (Nat.ne_zero_of_lt enough)
      rw [follow] at inBudget ⊢
      rw [follow]
      dsimp only at inBudget ⊢
      by_cases late : time < (transport state url).1.delay
      · rw [if_pos late, if_pos late]
      · rw [if_neg late] at inBudget ⊢
        rw [if_neg late]
        cases judged : judge url (transport state url).1.result with
        | error ending => rfl
        | ok target =>
            rw [judged] at inBudget
            exact congrArg _ (hypothesis (Nat.le_of_succ_le_succ enough) inBudget)

/-- A fetch with more hops is the same as long as no attempt runs out of them. -/
theorem retry_of_larger_hops (transport : Transport State) (policy : Policy) {url : Url}
    {hops left made : Nat} {state : State} (enough : policy.maxRedirects ≤ hops)
    (inBudget : (retry transport policy url left made state).outcome ≠
      .failed (.redirectLoop policy.maxRedirects)) :
    retry transport { policy with maxRedirects := hops } url left made state =
      retry transport policy url left made state := by
  induction left generalizing made state with
  | zero => rfl
  | succ left hypothesis =>
      -- An attempt that ran out of hops would have ended the fetch.
      have same : attempt transport { policy with maxRedirects := hops } url state =
          attempt transport policy url state := by
        refine follow_of_larger transport enough fun ranOut => inBudget ?_
        have ended : (attempt transport policy url state).outcome? url (made + 1) =
            some (.failed (.redirectLoop policy.maxRedirects)) := by
          rw [Attempt.outcome?, attempt, ranOut]
        rw [retry_ended transport policy url left made state ended]
      cases ended : (attempt transport policy url state).outcome? url (made + 1) with
      | some outcome =>
          rw [retry_ended transport policy url left made state ended,
            retry_ended transport _ url left made state (same ▸ ended), same]
      | none =>
          rw [retry_outcome_again transport policy url left made state
            (Attempt.outcome?_eq_none.1 ended)] at inBudget
          simp only [retry, same, ended, hypothesis inBudget]

/-- A fetch with more attempts is the same if one of the attempts that it had was in time. -/
theorem retry_of_larger_attempts (transport : Transport State) (policy : Policy) {url : Url}
    {left more made : Nat} {state : State} (enough : left ≤ more)
    (inTime : ∀ count, (retry transport policy url left made state).outcome ≠
      .failed (.timedOut count)) :
    retry transport policy url more made state = retry transport policy url left made state := by
  induction left generalizing more made state with
  | zero => exact absurd rfl (inTime made)
  | succ left hypothesis =>
      obtain ⟨more, rfl⟩ := Nat.exists_eq_succ_of_ne_zero (Nat.ne_zero_of_lt enough)
      cases ended : (attempt transport policy url state).outcome? url (made + 1) with
      | some outcome =>
          rw [retry_ended transport policy url left made state ended,
            retry_ended transport policy url more made state ended]
      | none =>
          rw [retry_outcome_again transport policy url left made state
            (Attempt.outcome?_eq_none.1 ended)] at inTime
          -- There is a pause on both sides, because the last attempt cannot have timed out.
          have further : left ≠ 0 := by
            rintro rfl
            exact inTime (made + 1) rfl
          have stillFurther : more ≠ 0 := by omega
          have rest := hypothesis (Nat.le_of_succ_le_succ enough) inTime
          simp only [retry, ended, rest, if_neg further, if_neg stillFurther]

/-- How many attempts there may be is not read within an attempt. -/
theorem retry_maxRetries (transport : Transport State) (policy : Policy) (attempts : Nat)
    (url : Url) (left made : Nat) (state : State) :
    retry transport { policy with maxRetries := attempts } url left made state =
      retry transport policy url left made state := by
  induction left generalizing made state with
  | zero => rfl
  | succ left hypothesis =>
      have same : attempt transport { policy with maxRetries := attempts } url state =
          attempt transport policy url state := rfl
      simp only [retry, same, hypothesis]

/-- The outcome tells that an attempt used up its hops. -/
def Outcome.IsRedirectLoop (outcome : Outcome) : Prop :=
  ∃ limit, outcome = .failed (.redirectLoop limit)

/-- The outcome tells that no attempt was in time. -/
def Outcome.IsTimeout (outcome : Outcome) : Prop := ∃ count, outcome = .failed (.timedOut count)

theorem run_of_larger_hops (transport : Transport State) (policy : Policy) (text : String)
    (state : State) {hops : Nat} (enough : policy.maxRedirects ≤ hops)
    (noLoop : ¬(run transport policy text state).outcome.IsRedirectLoop) :
    run transport { policy with maxRedirects := hops } text state =
      run transport policy text state := by
  unfold run at noLoop ⊢
  split
  · rfl
  · rename_i url parsed
    rw [parsed] at noLoop
    exact retry_of_larger_hops transport policy enough fun loop => noLoop ⟨_, loop⟩

theorem run_of_larger_attempts (transport : Transport State) (policy : Policy) (text : String)
    (state : State) {attempts : Nat} (enough : policy.maxRetries ≤ attempts)
    (inTime : ¬(run transport policy text state).outcome.IsTimeout) :
    run transport { policy with maxRetries := attempts } text state =
      run transport policy text state := by
  unfold run at inTime ⊢
  split
  · rfl
  · rename_i url parsed
    rw [parsed] at inTime
    rw [retry_maxRetries]
    exact retry_of_larger_attempts transport policy (max_le_max_left 1 enough)
      fun count late => inTime ⟨count, late⟩

/-- A budget that is raised changes nothing about a fetch that did not run out of it: the requests
and their times, the pauses, the outcome, and the state of the transport are the same. -/
theorem run_of_larger_budget (transport : Transport State) (policy : Policy) (text : String)
    (state : State) :
    let run := Fetch.run transport policy text state
    (¬run.outcome.IsRedirectLoop → ∀ hops, policy.maxRedirects ≤ hops →
      Fetch.run transport { policy with maxRedirects := hops } text state = run) ∧
    (¬run.outcome.IsTimeout → ∀ attempts, policy.maxRetries ≤ attempts →
      Fetch.run transport { policy with maxRetries := attempts } text state = run) ∧
    (¬run.outcome.IsRedirectLoop → ¬run.outcome.IsTimeout →
      ∀ attempts hops, policy.maxRetries ≤ attempts → policy.maxRedirects ≤ hops →
        Fetch.run transport { policy with maxRetries := attempts, maxRedirects := hops } text
          state = run) := by
  intro run
  refine ⟨fun noLoop hops enough => run_of_larger_hops transport policy text state enough noLoop,
    fun inTime attempts enough =>
      run_of_larger_attempts transport policy text state enough inTime, ?_⟩
  intro noLoop inTime attempts hops moreAttempts moreHops
  have same := run_of_larger_hops transport policy text state moreHops noLoop
  rw [← run_of_larger_attempts transport { policy with maxRedirects := hops } text state
    moreAttempts (same ▸ inTime)] at same
  exact same

/-- The first attempt times out after a redirect and the second one succeeds with its last hop; with
more attempts and more hops it goes the same way. -/
theorem run_of_larger_budget_sample :
    let run := Fetch.run movedTransport ⟨100, 2, 2, 5⟩ "http://a/" 0
    run.requests = [sampleUrl [], sampleUrl ['b'], sampleUrl [], sampleUrl ['b']] ∧
      (∃ page, run.outcome = .fetched page) ∧
      Fetch.run movedTransport ⟨100, 20, 20, 5⟩ "http://a/" 0 = run := by
  intro run
  have requests : run.requests =
      [sampleUrl [], sampleUrl ['b'], sampleUrl [], sampleUrl ['b']] := by decide +kernel
  have outcome : run.outcome = .fetched
      ⟨sampleUrl [], sampleUrl ['b'], 200, some "text/plain", .empty, 2, 1⟩ := by decide +kernel
  have noLoop : ¬run.outcome.IsRedirectLoop := by
    rintro ⟨limit, loop⟩
    rw [outcome] at loop
    cases loop
  have inTime : ¬run.outcome.IsTimeout := by
    rintro ⟨count, late⟩
    rw [outcome] at late
    cases late
  exact ⟨requests, ⟨_, outcome⟩, (run_of_larger_budget movedTransport ⟨100, 2, 2, 5⟩ "http://a/"
    0).2.2 noLoop inTime 20 20 (by decide) (by decide)⟩

end FeedCache.Fetch
