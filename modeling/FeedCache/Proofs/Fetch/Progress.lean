/-
This file says what a single reply does to a whole fetch.

Main statements: a redirect sends an attempt on as long as there are hops and time left, and a reply
that fails an attempt in time ends the whole fetch.
-/
import FeedCache.Proofs.Fetch.Outcome

namespace FeedCache.Fetch

variable {State : Type}

theorem Exchange.RedirectsTo.unique {exchange : Exchange} {first second : Url}
    (one : exchange.RedirectsTo first) (other : exchange.RedirectsTo second) : first = second := by
  have judged := judge_eq_ok.2 one
  rw [judge_eq_ok.2 other] at judged
  exact (Except.ok.inj judged).symm

/-- The next request after a redirect is for its target, unless all hops or all time are used up. -/
def GoesOn (hops time : Nat) (log : List Exchange) : Prop :=
  ∀ index exchange target, log[index]? = some exchange → exchange.RedirectsTo target →
    log[index + 1]?.map Exchange.url = some target ∨ index + 1 = hops ∨
      time < totalDelay (log.take (index + 1))

/-- The only exchange is no redirect, or it takes too long. -/
theorem GoesOn.last {hops time : Nat} {exchange : Exchange}
    (stops : time < exchange.reply.delay ∨ ∀ target, ¬exchange.RedirectsTo target) :
    GoesOn hops time [exchange] := by
  intro index other target found redirects
  cases index with
  | zero =>
      cases Option.some.inj found
      rcases stops with late | final
      · exact .inr (.inr late)
      · exact absurd redirects (final target)
  | succ index => cases found

/-- What goes on after a redirect has been followed goes on before it. -/
theorem GoesOn.next {hops time : Nat} {first : Exchange} {target : Url} {log : List Exchange}
    (redirects : first.RedirectsTo target)
    (starts : log.head?.map Exchange.url = if hops = 0 then none else some target)
    (rest : GoesOn hops (time - first.reply.delay) log) : GoesOn (hops + 1) time (first :: log) := by
  intro index exchange other found followed
  cases index with
  | zero =>
      cases Option.some.inj found
      rw [List.getElem?_cons_succ, ← List.head?_eq_getElem?, starts, followed.unique redirects]
      by_cases last : hops = 0
      · exact .inr (.inl (by omega))
      · exact .inl (if_neg last)
  | succ index =>
      rcases rest index exchange other found followed with goes | spent | tooLate
      · exact .inl goes
      · exact .inr (.inl (by omega))
      · refine .inr (.inr ?_)
        rw [List.take_succ_cons, totalDelay_cons]
        omega

theorem follow_goesOn (transport : Transport State) (limit hops time : Nat) (url : Url)
    (state : State) :
    GoesOn hops time
      (transcript transport state (follow transport limit hops time url state).requests) := by
  induction hops generalizing time url state with
  | zero => simp [GoesOn, follow, Attempt.ended]
  | succ hops hypothesis =>
      rw [follow]
      dsimp only
      by_cases late : time < (transport state url).1.delay
      · rw [if_pos late]
        exact .last (.inl late)
      · rw [if_neg late]
        cases judged : judge url (transport state url).1.result with
        | error ending =>
            refine .last (.inr fun target redirects => ?_)
            cases judged.symm.trans (judge_eq_ok.2 redirects)
        | ok target =>
            have follows := follow_follows transport limit hops
              (time - (transport state url).1.delay) target (transport state url).2
            refine .next (judge_eq_ok.1 judged) ?_ (hypothesis _ target _)
            rw [← List.head?_map, transcript_urls, follows.starts]

/-- The attempts of a fetch are the first ones by their numbers. -/
theorem run_attempts (transport : Transport State) (policy : Policy) {text : String} {url : Url}
    (state : State) (parsed : Url.parse text = .ok url) :
    ∃ count ≤ policy.attempts, (run transport policy text state).attempts =
      (List.range count).map (numbered transport policy url state) := by
  simp only [run, parsed]
  by_cases late : ∀ number < policy.attempts,
      (numbered transport policy url state number).ending = .timedOut
  · obtain ⟨-, attempts, -⟩ := retry_late transport policy url 0 0 state late
    exact ⟨policy.attempts, Nat.le_refl _, attempts.trans (List.append_nil _)⟩
  · obtain ⟨number, inBudget, before, inTime⟩ := exists_first late
    exact ⟨number + 1, inBudget,
      retry_attempts transport policy url policy.attempts 0 state inBudget before inTime⟩

/-- A reply that fails an attempt is no timeout. -/
theorem Exchange.FailsWith.ne_timeout {exchange : Exchange} {failure : Failure}
    (fails : exchange.FailsWith failure) : exchange.reply.result ≠ .error .timeout := by
  intro broken
  have judged := judge_eq_failed.2 fails
  rw [broken] at judged
  cases judged

/-- Only the last exchange of an attempt is no redirect. -/
theorem getLast?_of_stops {log : List Exchange} {exchange : Exchange}
    (chained : log.IsChain fun first second => first.RedirectsTo second.url)
    (member : exchange ∈ log) (stops : ∀ target, ¬exchange.RedirectsTo target) :
    log.getLast? = some exchange := by
  induction log with
  | nil => cases member
  | cons first log hypothesis =>
      cases log with
      | nil => simpa [eq_comm] using member
      | cons second log =>
          obtain ⟨redirects, rest⟩ := List.isChain_cons_cons.1 chained
          rw [List.getLast?_cons_cons]
          rcases List.mem_cons.1 member with rfl | later
          · exact absurd redirects (stops second.url)
          · exact hypothesis rest later

/-- A reply that fails an attempt is the last one of it. If the attempt is in time, and those before
it are not, the fetch ends with the failure and makes no further attempt. -/
theorem run_failed (transport : Transport State) (policy : Policy) {text : String} {url : Url}
    (state : State) (parsed : Url.parse text = .ok url) {number : Nat}
    (inBudget : number < policy.attempts) {exchange : Exchange} {failure : Failure}
    (late : ∀ earlier < number,
      EndsInTimeout policy.timeout (attemptLog transport policy url state earlier))
    (inTime : totalDelay (attemptLog transport policy url state number) ≤ policy.timeout)
    (member : exchange ∈ attemptLog transport policy url state number)
    (fails : exchange.FailsWith failure) :
    (run transport policy text state).outcome = .failed failure ∧
      (run transport policy text state).attempts =
        (List.range (number + 1)).map (numbered transport policy url state) := by
  have last : (attemptLog transport policy url state number).getLast? = some exchange :=
    getLast?_of_stops (numbered_isAttempt transport policy url state number).chained member
      fun target redirects => redirects.goesOn.2 failure fails
  have ended : (numbered transport policy url state number).ending ≠ .timedOut := by
    intro timedOut
    rcases numbered_timedOut.1 timedOut with ⟨other, final, broken⟩ | tooLate
    · cases Option.some.inj (last.symm.trans final)
      exact fails.ne_timeout broken
    · exact Nat.not_lt.2 inTime tooLate
  have before : ∀ earlier < number,
      (numbered transport policy url state earlier).ending = .timedOut :=
    fun earlier less => numbered_timedOut.2 (late earlier less)
  have same : run transport policy text state =
      retry transport policy url policy.attempts 0 state := by
    simp only [run, parsed]
  obtain ⟨decided, -⟩ :=
    retry_decided transport policy url policy.attempts 0 state inBudget before ended
  rw [same]
  exact ⟨((numbered_outcome decided).2 failure).2 (.inl ⟨exchange, last, fails⟩),
    retry_attempts transport policy url policy.attempts 0 state inBudget before ended⟩

end FeedCache.Fetch
