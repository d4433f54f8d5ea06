/-
This file says how a fetch ends, read off the replies of its attempts.

Main statement: the first attempt that does not time out decides the outcome, by the last of its
replies or by using up all its requests on redirects; without such an attempt the fetch times out.
-/
import FeedCache.Proofs.Fetch.Shape
import Mathlib.Data.Nat.Find

namespace FeedCache.Fetch

/-- The request was answered with a success. -/
def Exchange.Succeeds (exchange : Exchange) (response : Response) : Prop :=
  exchange.reply.result = .ok response ∧ 200 ≤ response.status ∧ response.status < 300

/-- The reply to the request ends a fetch with a failure. -/
inductive Exchange.FailsWith (exchange : Exchange) : Failure → Prop
  | httpStatus {response : Response} (answered : exchange.reply.result = .ok response)
      (other : response.status < 200 ∨ 400 ≤ response.status) :
      FailsWith exchange (.httpStatus response.status)
  | missingLocation {response : Response} (answered : exchange.reply.result = .ok response)
      (redirect : 300 ≤ response.status ∧ response.status < 400)
      (unusable : ∀ location target, response.location = some location →
        exchange.url.resolve location ≠ .ok target) :
      FailsWith exchange (.missingLocation response.status)
  | tooLarge {length limit : Nat}
      (refused : exchange.reply.result = .error (.tooLarge length limit)) :
      FailsWith exchange (.tooLarge length limit)
  | transport {detail : String} (broken : exchange.reply.result = .error (.other detail)) :
      FailsWith exchange (.transport detail)

/-- The exchanges of an attempt end a fetch with a failure: the last of them does so, or all of them
are redirects and there are as many as there may be. -/
def FailsWith (limit hops : Nat) (log : List Exchange) (failure : Failure) : Prop :=
  (∃ last, log.getLast? = some last ∧ last.FailsWith failure) ∨
    (failure = .redirectLoop limit ∧ log.length = hops ∧
      ∀ exchange ∈ log, ∃ target, exchange.RedirectsTo target)

/-- The exchanges of an attempt bring a page: the last of them is a success, and each one before it
was a redirect that was followed. -/
def Brings (policy : Policy) (url : Url) (number : Nat) (log : List Exchange) (page : Page) :
    Prop :=
  ∃ redirects last response, log.length = redirects + 1 ∧ redirects < policy.maxRedirects ∧
    log.getLast? = some last ∧ last.Succeeds response ∧
    page = { url, finalUrl := last.url, status := response.status,
             contentType := response.contentType, body := response.body, attempts := number,
             redirects }

variable {State : Type}

theorem Response.isSuccess_iff {response : Response} :
    response.isSuccess ↔ 200 ≤ response.status ∧ response.status < 300 := by
  simp [isSuccess]

theorem Response.isRedirect_iff {response : Response} :
    response.isRedirect ↔ 300 ≤ response.status ∧ response.status < 400 := by
  simp [isRedirect]

/-- A reply ends an attempt as landed exactly if it is a success. -/
theorem judge_eq_landed {url finalUrl : Url} {reply : Reply} {response : Response} :
    judge url reply.result = .error (.landed finalUrl response) ↔
      finalUrl = url ∧ Exchange.Succeeds ⟨url, reply⟩ response := by
  unfold Exchange.Succeeds
  dsimp only
  constructor
  · intro judged
    cases result : reply.result with
    | error fault => rw [result] at judged; cases fault <;> cases judged
    | ok other =>
        rw [result, judge] at judged
        split at judged
        · rename_i success
          cases judged
          exact ⟨rfl, rfl, Response.isSuccess_iff.1 success⟩
        · split at judged
          · split at judged <;> cases judged
          · cases judged
  · rintro ⟨rfl, answered, success⟩
    rw [answered, judge, if_pos (Response.isSuccess_iff.2 success)]

/-- A reply fails an attempt exactly if it ends a fetch with that failure. -/
theorem judge_eq_failed {url : Url} {reply : Reply} {failure : Failure} :
    judge url reply.result = .error (.failed failure) ↔
      Exchange.FailsWith ⟨url, reply⟩ failure := by
  constructor
  · intro judged
    cases result : reply.result with
    | error fault =>
        rw [result] at judged
        cases fault with
        | timeout => cases judged
        | tooLarge length limit =>
            cases judged
            exact .tooLarge result
        | other detail =>
            cases judged
            exact .transport result
    | ok response =>
        rw [result, judge] at judged
        split at judged
        · cases judged
        · rename_i failed
          rw [Response.isSuccess_iff] at failed
          split at judged
          · rename_i redirect
            split at judged
            · cases judged
            · rename_i unusable
              cases judged
              refine .missingLocation result (Response.isRedirect_iff.1 redirect) ?_
              intro location target named resolved
              simp [named, resolved, Except.toOption] at unusable
          · rename_i other
            rw [Response.isRedirect_iff] at other
            cases judged
            exact .httpStatus result (by omega)
  · intro fails
    cases fails with
    | @httpStatus response answered other =>
        dsimp only at answered
        have failed : ¬response.isSuccess := by rw [Response.isSuccess_iff]; omega
        have final : ¬response.isRedirect := by rw [Response.isRedirect_iff]; omega
        rw [answered, judge, if_neg failed, if_neg final]
    | @missingLocation response answered redirect unusable =>
        dsimp only at answered unusable
        have failed : ¬response.isSuccess := by rw [Response.isSuccess_iff]; omega
        have lost : (response.location.bind fun location => (url.resolve location).toOption) =
            none := by
          cases place : response.location with
          | none => rfl
          | some location =>
              cases resolved : url.resolve location with
              | error rejection => simp [resolved, Except.toOption]
              | ok target => exact absurd resolved (unusable location target place)
        rw [answered, judge, if_neg failed, if_pos (Response.isRedirect_iff.2 redirect), lost]
    | tooLarge refused =>
        dsimp only at refused
        rw [refused, judge]
    | transport broken =>
        dsimp only at broken
        rw [broken, judge]

/-- A redirect that can be followed is no success and no failure. -/
theorem Exchange.RedirectsTo.goesOn {exchange : Exchange} {target : Url}
    (redirects : exchange.RedirectsTo target) :
    (∀ response, ¬exchange.Succeeds response) ∧ ∀ failure, ¬exchange.FailsWith failure := by
  have judged : judge exchange.url exchange.reply.result = .ok target := judge_eq_ok.2 redirects
  constructor
  · intro response succeeds
    have landed := judge_eq_landed.2 ⟨rfl, succeeds⟩
    rw [judged] at landed
    cases landed
  · intro failure fails
    have failed := judge_eq_failed.2 fails
    rw [judged] at failed
    cases failed

/-- What holds of no first element holds of the last one only if there are others. -/
theorem exists_getLast?_cons {α : Type} {holds : α → Prop} {first : α} (rest : List α)
    (not : ¬holds first) :
    (∃ last, (first :: rest).getLast? = some last ∧ holds last) ↔
      ∃ last, rest.getLast? = some last ∧ holds last := by
  cases rest with
  | nil => simp [not]
  | cons second others => rw [List.getLast?_cons_cons]

/-- How an attempt that has not timed out ends, read off its exchanges. -/
structure Ending.Matches (limit hops : Nat) (log : List Exchange) (ending : Ending) : Prop where
  landed : ∀ finalUrl response, ending = .landed finalUrl response ↔
    ∃ last, log.getLast? = some last ∧ last.url = finalUrl ∧ last.Succeeds response
  failed : ∀ failure, ending = .failed failure ↔ FailsWith limit hops log failure

/-- An attempt without hops fails at once. -/
theorem Ending.Matches.spent (limit : Nat) :
    Ending.Matches limit 0 [] (.failed (.redirectLoop limit)) where
  landed := by simp
  failed failure := by simp [FailsWith, eq_comm]

/-- An attempt ends with the reply to its first request, if that does not send it on. -/
theorem Ending.Matches.last {limit hops : Nat} {url : Url} {reply : Reply} {ending : Ending}
    (judged : judge url reply.result = .error ending) :
    ending.Matches limit (hops + 1) [⟨url, reply⟩] where
  landed finalUrl response := by
    have same : ending = .landed finalUrl response ↔
        judge url reply.result = .error (.landed finalUrl response) := by simp [judged]
    rw [same, judge_eq_landed]
    simp [eq_comm]
  failed failure := by
    have same : ending = .failed failure ↔
        judge url reply.result = .error (.failed failure) := by simp [judged]
    have stays : ∀ target, ¬Exchange.RedirectsTo ⟨url, reply⟩ target := by
      intro target redirects
      rw [judge_eq_ok.2 redirects] at judged
      cases judged
    rw [same, judge_eq_failed]
    simp [FailsWith, stays]

/-- An attempt ends after a redirect as the rest of it does. -/
theorem Ending.Matches.next {limit hops : Nat} {first : Exchange} {log : List Exchange}
    {target : Url} {ending : Ending} (redirects : first.RedirectsTo target)
    (rest : ending.Matches limit hops log) : ending.Matches limit (hops + 1) (first :: log) where
  landed finalUrl response := by
    rw [rest.landed, exists_getLast?_cons]
    exact fun both => redirects.goesOn.1 response both.2
  failed failure := by
    rw [rest.failed, FailsWith, FailsWith, exists_getLast?_cons log (redirects.goesOn.2 failure)]
    refine or_congr_right (and_congr_right fun _ => ?_)
    rw [List.length_cons, Nat.succ_inj, List.forall_mem_cons]
    exact and_congr_right fun _ => (and_iff_right ⟨target, redirects⟩).symm

/-- The replies to the requests of an attempt say how it ends. -/
theorem follow_matches (transport : Transport State) (limit hops time : Nat) (url : Url)
    (state : State)
    (inTime : (follow transport limit hops time url state).ending ≠ .timedOut) :
    (follow transport limit hops time url state).ending.Matches limit hops
      (transcript transport state (follow transport limit hops time url state).requests) := by
  induction hops generalizing time url state with
  | zero => exact .spent limit
  | succ hops hypothesis =>
      rw [follow] at inTime ⊢
      dsimp only at inTime ⊢
      by_cases late : time < (transport state url).1.delay
      · rw [if_pos late] at inTime
        exact absurd rfl inTime
      · rw [if_neg late] at inTime ⊢
        cases judged : judge url (transport state url).1.result with
        | error ending => exact .last judged
        | ok target =>
            rw [judged] at inTime
            exact .next (judge_eq_ok.1 judged) (hypothesis _ target _ inTime)

/-- The state of the transport before an attempt, when all attempts before it were made. -/
def stateBefore (transport : Transport State) (policy : Policy) (url : Url) (state : State) :
    Nat → State
  | 0 => state
  | number + 1 =>
      stateBefore transport policy url (attempt transport policy url state).state number

/-- An attempt by its number, when all attempts before it were made. -/
def numbered (transport : Transport State) (policy : Policy) (url : Url) (state : State)
    (number : Nat) : Attempt State :=
  attempt transport policy url (stateBefore transport policy url state number)

/-- The requests of an attempt with their replies. -/
def attemptLog (transport : Transport State) (policy : Policy) (url : Url) (state : State)
    (number : Nat) : List Exchange :=
  transcript transport (stateBefore transport policy url state number)
    (numbered transport policy url state number).requests

theorem numbered_timedOut {transport : Transport State} {policy : Policy} {url : Url}
    {state : State} {number : Nat} :
    (numbered transport policy url state number).ending = .timedOut ↔
      EndsInTimeout policy.timeout (attemptLog transport policy url state number) :=
  (follow_follows transport policy.maxRedirects policy.maxRedirects policy.timeout url
    (stateBefore transport policy url state number)).timedOut

theorem retry_outcome_again (transport : Transport State) (policy : Policy) (url : Url)
    (left made : Nat) (state : State)
    (again : (attempt transport policy url state).ending = .timedOut) :
    (retry transport policy url (left + 1) made state).outcome =
      (retry transport policy url left (made + 1)
        (attempt transport policy url state).state).outcome := by
  simp only [retry, Attempt.outcome?_eq_none.2 again]

/-- A fetch goes on after attempts that have all timed out as if it began there. -/
theorem retry_late (transport : Transport State) (policy : Policy) (url : Url) (left made : Nat)
    (state : State) {number : Nat}
    (late : ∀ earlier < number, (numbered transport policy url state earlier).ending = .timedOut) :
    let run := retry transport policy url (number + left) made state
    let before := stateBefore transport policy url state number
    let rest := retry transport policy url left (made + number) before
    run.outcome = rest.outcome ∧
      run.attempts =
        (List.range number).map (numbered transport policy url state) ++ rest.attempts ∧
      transcript transport state run.requests =
        (List.range number).flatMap (attemptLog transport policy url state) ++
          transcript transport before rest.requests := by
  induction number generalizing made state with
  | zero => simp [stateBefore]
  | succ number hypothesis =>
      have first := late 0 (Nat.succ_pos number)
      have moved := (follow_follows transport policy.maxRedirects policy.maxRedirects
        policy.timeout url state).moved
      rw [← attempt] at moved
      obtain ⟨-, tried, requests, -⟩ := retry_again transport policy url (number + left) made state
        (Attempt.outcome?_eq_none.2 first)
      obtain ⟨outcome, attempts, log⟩ := hypothesis (made + 1)
        (attempt transport policy url state).state
        fun earlier before => late (earlier + 1) (Nat.succ_lt_succ before)
      dsimp only at tried requests outcome attempts log ⊢
      -- The later attempts are numbered from the state that the first one leaves.
      rw [Nat.add_right_comm number 1 left, ← Nat.add_assoc, Nat.add_right_comm made number 1]
      refine ⟨?_, ?_, ?_⟩
      · rw [retry_outcome_again transport policy url (number + left) made state first, outcome]
        rfl
      · rw [tried, attempts, List.range_succ_eq_map (n := number), List.map_cons, List.map_map]
        rfl
      · rw [requests, transcript_append, ← moved, log, List.range_succ_eq_map (n := number),
          List.flatMap_cons, List.flatMap_map, List.append_assoc]
        rfl

/-- Without an attempt in time the fetch times out. -/
theorem retry_timedOut (transport : Transport State) (policy : Policy) (url : Url)
    (left made : Nat) (state : State)
    (late : ∀ number < left, (numbered transport policy url state number).ending = .timedOut) :
    (retry transport policy url left made state).outcome = .failed (.timedOut (made + left)) :=
  (retry_late transport policy url 0 made state late).1

/-- The first attempt in time decides the outcome, and nothing is requested after it. -/
theorem retry_decided (transport : Transport State) (policy : Policy) (url : Url)
    (left made : Nat) (state : State) {number : Nat} (inBudget : number < left)
    (late : ∀ earlier < number, (numbered transport policy url state earlier).ending = .timedOut)
    (inTime : (numbered transport policy url state number).ending ≠ .timedOut) :
    let run := retry transport policy url left made state
    some run.outcome =
        (numbered transport policy url state number).outcome? url (made + number + 1) ∧
      transcript transport state run.requests =
        (List.range (number + 1)).flatMap (attemptLog transport policy url state) := by
  obtain ⟨left, rfl⟩ := Nat.exists_eq_add_of_lt inBudget
  obtain ⟨outcome, -, log⟩ := retry_late transport policy url (left + 1) made state late
  dsimp only at outcome log ⊢
  rw [Nat.add_assoc, outcome, log]
  cases ended : (numbered transport policy url state number).outcome? url (made + number + 1) with
  | none => exact absurd (Attempt.outcome?_eq_none.1 ended) inTime
  | some outcome =>
      rw [retry_ended transport policy url left (made + number) _ ended]
      refine ⟨rfl, ?_⟩
      rw [List.range_succ, List.flatMap_append]
      simp [Run.requests, Run.attempts, Step.attempt?, attemptLog, numbered]

/-- The attempts of a fetch are those up to the first one in time. -/
theorem retry_attempts (transport : Transport State) (policy : Policy) (url : Url)
    (left made : Nat) (state : State) {number : Nat} (inBudget : number < left)
    (late : ∀ earlier < number, (numbered transport policy url state earlier).ending = .timedOut)
    (inTime : (numbered transport policy url state number).ending ≠ .timedOut) :
    (retry transport policy url left made state).attempts =
      (List.range (number + 1)).map (numbered transport policy url state) := by
  obtain ⟨left, rfl⟩ := Nat.exists_eq_add_of_lt inBudget
  obtain ⟨-, attempts, -⟩ := retry_late transport policy url (left + 1) made state late
  rw [Nat.add_assoc, attempts]
  cases ended : (numbered transport policy url state number).outcome? url (made + number + 1) with
  | none => exact absurd (Attempt.outcome?_eq_none.1 ended) inTime
  | some outcome =>
      rw [retry_ended transport policy url left (made + number) _ ended, List.range_succ,
        List.map_append]
      rfl

/-- A numbered attempt starts at the URL, follows redirects, and keeps to its budget. -/
theorem numbered_isAttempt (transport : Transport State) (policy : Policy) (url : Url)
    (state : State) (number : Nat) :
    IsAttempt policy url (attemptLog transport policy url state number) :=
  (follow_follows transport policy.maxRedirects policy.maxRedirects policy.timeout url
    (stateBefore transport policy url state number)).isAttempt

/-- An attempt brings a page exactly if it has landed, and has followed a redirect with each request
but the last. -/
theorem Ending.Matches.brings {policy : Policy} {url : Url} {number hops limit : Nat}
    {log : List Exchange} {ending : Ending} (tells : ending.Matches limit hops log)
    (bounded : log.length ≤ policy.maxRedirects) {page : Page} :
    Brings policy url number log page ↔ ∃ finalUrl response, ending = .landed finalUrl response ∧
      page = ⟨url, finalUrl, response.status, response.contentType, response.body, number,
        log.length - 1⟩ := by
  constructor
  · rintro ⟨redirects, last, response, counted, -, final, succeeds, rfl⟩
    refine ⟨last.url, response, (tells.landed _ _).2 ⟨last, final, rfl, succeeds⟩, ?_⟩
    rw [counted, Nat.add_sub_cancel]
  · rintro ⟨finalUrl, response, ended, rfl⟩
    obtain ⟨last, final, rfl, succeeds⟩ := (tells.landed finalUrl response).1 ended
    have nonempty : 0 < log.length := List.length_pos_iff.2 fun empty => by
      rw [empty] at final
      cases final
    exact ⟨log.length - 1, last, response, by omega, by omega, final, succeeds, rfl⟩

/-- The outcome of a fetch as the exchanges of an attempt in time tell it. -/
theorem numbered_outcome {transport : Transport State} {policy : Policy} {url : Url}
    {state : State} {number count : Nat} {outcome : Outcome}
    (ended : some outcome = (numbered transport policy url state number).outcome? url count) :
    let log := attemptLog transport policy url state number
    (∀ page, outcome = .fetched page ↔ Brings policy url count log page) ∧
      ∀ failure, outcome = .failed failure ↔
        FailsWith policy.maxRedirects policy.maxRedirects log failure := by
  intro log
  have inTime : (numbered transport policy url state number).ending ≠ .timedOut := by
    intro late
    rw [Attempt.outcome?_eq_none.2 late] at ended
    cases ended
  have tells : (numbered transport policy url state number).ending.Matches policy.maxRedirects
      policy.maxRedirects log := follow_matches transport _ _ _ url _ inTime
  have bounded : log.length ≤ policy.maxRedirects :=
    (numbered_isAttempt transport policy url state number).bounded
  have length : (numbered transport policy url state number).requests.length = log.length := by
    rw [← transcript_urls transport (stateBefore transport policy url state number)
      (numbered transport policy url state number).requests, List.length_map]
    rfl
  rw [Attempt.outcome?, length] at ended
  constructor
  · intro page
    rw [tells.brings bounded]
    cases ending : (numbered transport policy url state number).ending with
    | timedOut => exact absurd ending inTime
    | failed failure =>
        rw [ending] at ended
        cases ended
        simp
    | landed finalUrl response =>
        rw [ending] at ended
        cases ended
        simp [and_assoc, eq_comm]
  · intro failure
    rw [← tells.failed]
    cases ending : (numbered transport policy url state number).ending with
    | timedOut => exact absurd ending inTime
    | failed other =>
        rw [ending] at ended
        cases ended
        simp
    | landed finalUrl response =>
        rw [ending] at ended
        cases ended
        simp

theorem exists_first {holds : Nat → Prop} {bound : Nat} (some : ¬∀ number < bound, holds number) :
    ∃ number < bound, (∀ earlier < number, holds earlier) ∧ ¬holds number := by
  classical
  push Not at some
  obtain ⟨inBound, fails⟩ := Nat.find_spec some
  refine ⟨Nat.find some, inBound, fun earlier before => ?_, fails⟩
  by_contra missed
  exact Nat.find_min some before ⟨before.trans inBound, missed⟩

/-- An attempt in time fails neither for the URL nor for the time. -/
theorem FailsWith.isOther {limit hops : Nat} {log : List Exchange} {failure : Failure}
    (fails : FailsWith limit hops log failure) :
    (∀ rejection, failure ≠ .invalidUrl rejection) ∧ ∀ count, failure ≠ .timedOut count := by
  rcases fails with ⟨last, -, fails⟩ | ⟨rfl, -⟩
  · cases fails <;> simp
  · simp

/-- A fetch of a URL times out, or an attempt in time decides it. -/
theorem retry_cases (transport : Transport State) (policy : Policy) (url : Url) (state : State) :
    let run := retry transport policy url policy.attempts 0 state
    let log := attemptLog transport policy url state
    (run.outcome = .failed (.timedOut policy.attempts) ∧
      ∀ number < policy.attempts, EndsInTimeout policy.timeout (log number)) ∨
    ∃ number < policy.attempts, ¬EndsInTimeout policy.timeout (log number) ∧
      ∀ failure, run.outcome = .failed failure →
        FailsWith policy.maxRedirects policy.maxRedirects (log number) failure := by
  intro run log
  by_cases late : ∀ number < policy.attempts, EndsInTimeout policy.timeout (log number)
  · refine .inl ⟨?_, late⟩
    have outcome := retry_timedOut transport policy url policy.attempts 0 state
      fun number before => numbered_timedOut.2 (late number before)
    rwa [Nat.zero_add] at outcome
  · obtain ⟨number, inBudget, before, inTime⟩ := exists_first late
    obtain ⟨decided, -⟩ := retry_decided transport policy url policy.attempts 0 state inBudget
      (fun earlier less => numbered_timedOut.2 (before earlier less))
      (fun timedOut => inTime (numbered_timedOut.1 timedOut))
    exact .inr ⟨number, inBudget, inTime, fun failure =>
      ((numbered_outcome decided).2 failure).1⟩

/-- The exact outcome of a fetch. A text that is no URL fails with what is wrong with it, and a fetch
whose attempts all time out fails with their number. Any other fetch ends with the first attempt in
time, and the replies in that attempt alone decide how. -/
theorem run_outcome (transport : Transport State) (policy : Policy) (text : String)
    (state : State) :
    let run := Fetch.run transport policy text state
    let budget := max 1 policy.maxRetries
    (∀ rejection, run.outcome = .failed (.invalidUrl rejection) ↔
      Url.parse text = .error rejection) ∧
    ∀ url, Url.parse text = .ok url →
      let log := attemptLog transport policy url state
      (∀ count, run.outcome = .failed (.timedOut count) ↔
        count = budget ∧ ∀ number < budget, EndsInTimeout policy.timeout (log number)) ∧
      (∀ number, IsAttempt policy url (log number)) ∧
      ∀ number < budget, (∀ earlier < number, EndsInTimeout policy.timeout (log earlier)) →
        ¬EndsInTimeout policy.timeout (log number) →
        transcript transport state run.requests = (List.range (number + 1)).flatMap log ∧
        (∀ page, run.outcome = .fetched page ↔ Brings policy url (number + 1) (log number) page) ∧
        ∀ failure, run.outcome = .failed failure ↔
          FailsWith policy.maxRedirects policy.maxRedirects (log number) failure := by
  intro run budget
  cases parsed : Url.parse text with
  | error other =>
      have outcome : run.outcome = .failed (.invalidUrl other) := by
        simp only [run, Fetch.run, parsed]
      refine ⟨fun rejection => ?_, fun url impossible => by cases impossible⟩
      simp [outcome]
  | ok url =>
      have same : run = retry transport policy url policy.attempts 0 state := by
        simp only [run, Fetch.run, parsed]
      have cases := retry_cases transport policy url state
      rw [← same] at cases
      constructor
      · intro rejection
        refine ⟨fun invalid => ?_, fun impossible => by cases impossible⟩
        rcases cases with ⟨timedOut, -⟩ | ⟨number, -, -, fails⟩
        · rw [timedOut] at invalid
          cases invalid
        · exact absurd rfl ((fails _ invalid).isOther.1 rejection)
      · rintro _ ⟨⟩
        refine ⟨fun count => ⟨fun timedOut => ?_, ?_⟩, ?_, ?_⟩
        · rcases cases with ⟨outcome, late⟩ | ⟨number, -, -, fails⟩
          · rw [outcome] at timedOut
            cases timedOut
            exact ⟨rfl, late⟩
          · exact absurd rfl ((fails _ timedOut).isOther.2 count)
        · rintro ⟨rfl, late⟩
          rcases cases with ⟨outcome, -⟩ | ⟨number, inBudget, inTime, -⟩
          · exact outcome
          · exact absurd (late number inBudget) inTime
        · exact numbered_isAttempt transport policy url state
        · intro number inBudget late inTime
          obtain ⟨decided, requests⟩ := retry_decided transport policy url policy.attempts 0 state
            inBudget (fun earlier less => numbered_timedOut.2 (late earlier less))
            (fun timedOut => inTime (numbered_timedOut.1 timedOut))
          rw [← same, Nat.zero_add] at decided
          rw [← same] at requests
          exact ⟨requests, numbered_outcome decided⟩

/-- A transport whose answers change as time goes on: its first page moves, the moved page is slow
at first, and then it is there. -/
def movedTransport : Transport Nat := fun count _ =>
  (if count = 1 then ⟨0, .error .timeout⟩
    else if count = 3 then ⟨1, .ok { status := 200, contentType := some "text/plain" }⟩
    else ⟨1, .ok { status := 301, location := some "/b" }⟩, count + 1)

/-- The second attempt decides, after a redirect; its body is empty. -/
theorem run_outcome_sample :
    let policy : Policy := ⟨100, 3, 2, 5⟩
    let page : Page := ⟨sampleUrl [], sampleUrl ['b'], 200, some "text/plain", .empty, 2, 1⟩
    let log := attemptLog movedTransport policy (sampleUrl []) 0
    Url.parse "http://a/" = .ok (sampleUrl []) ∧ EndsInTimeout 100 (log 0) ∧
      ¬EndsInTimeout 100 (log 1) ∧ Brings policy (sampleUrl []) 2 (log 1) page ∧
      (Fetch.run movedTransport policy "http://a/" 0).outcome = .fetched page := by
  intro policy page log
  have parsed : Url.parse "http://a/" = .ok (sampleUrl []) := by decide +kernel
  have first : (numbered movedTransport policy (sampleUrl []) 0 0).requests =
      [sampleUrl [], sampleUrl ['b']] := by decide +kernel
  have between : stateBefore movedTransport policy (sampleUrl []) 0 1 = 2 := by decide +kernel
  have second : (numbered movedTransport policy (sampleUrl []) 0 1).requests =
      [sampleUrl [], sampleUrl ['b']] := by decide +kernel
  have late : EndsInTimeout 100 (log 0) := by
    simp only [log, attemptLog, first]
    exact .inl ⟨_, rfl, rfl⟩
  have final : ((log 1).getLast?) =
      some ⟨sampleUrl ['b'], ⟨1, .ok { status := 200, contentType := some "text/plain" }⟩⟩ := by
    simp only [log, attemptLog, second, between]
    rfl
  have counted : (log 1).length = 2 ∧ totalDelay (log 1) = 2 := by
    simp only [log, attemptLog, second, between]
    decide
  have inTime : ¬EndsInTimeout 100 (log 1) := by
    simp [EndsInTimeout, final, counted]
  have brings : Brings policy (sampleUrl []) 2 (log 1) page :=
    ⟨1, _, _, counted.1, by decide, final, ⟨rfl, by decide, by decide⟩, rfl⟩
  have decided := ((run_outcome movedTransport policy "http://a/" 0).2 (sampleUrl []) parsed).2.2 1
    (by decide) (fun earlier before => by rwa [Nat.lt_one_iff.1 before]) inTime
  exact ⟨parsed, late, inTime, brings, (decided.2.1 page).2 brings⟩

end FeedCache.Fetch
