/-
This file fetches over transports that answer a URL alike at all times.

Main statement: over such a transport a text is fetched with the same outcome and the same requests,
whatever was requested before.
-/
import FeedCache.Proofs.Fetch.Outcome

namespace FeedCache.Fetch

variable {State : Type}

/-- The reply to a URL is the same in every state. -/
def Transport.IsConstant (transport : Transport State) : Prop :=
  ∀ first second url, (transport first url).1 = (transport second url).1

/-- What can be told about an attempt without the state of the transport. -/
def Attempt.trace (attempt : Attempt State) : List Url × Nat × Ending :=
  (attempt.requests, attempt.elapsed, attempt.ending)

theorem Attempt.trace_afterRequest {left right : Attempt State} (same : left.trace = right.trace)
    (url : Url) (delay : Nat) :
    (left.afterRequest url delay).trace = (right.afterRequest url delay).trace := by
  simp only [trace, Prod.mk.injEq] at same
  simp only [trace, afterRequest, same]

theorem follow_constant {transport : Transport State} (constant : transport.IsConstant)
    (limit hops left : Nat) (url : Url) (first second : State) :
    (follow transport limit hops left url first).trace =
      (follow transport limit hops left url second).trace := by
  induction hops generalizing left url first second with
  | zero => rfl
  | succ hops hypothesis =>
      simp only [follow, constant second first url]
      split
      · rfl
      · apply Attempt.trace_afterRequest
        split
        · apply hypothesis
        · rfl

theorem attempt_constant {transport : Transport State} (constant : transport.IsConstant)
    (policy : Policy) (url : Url) (first second : State) :
    (attempt transport policy url first).trace = (attempt transport policy url second).trace :=
  follow_constant constant ..

/-- How an attempt ends a fetch can be told from its trace. -/
theorem Attempt.outcome?_of_trace {left right : Attempt State} (same : left.trace = right.trace)
    (url : Url) (number : Nat) : left.outcome? url number = right.outcome? url number := by
  simp only [trace, Prod.mk.injEq] at same
  simp only [outcome?, same]

/-- What can be told about a fetch without the state of the transport. -/
def Run.trace (run : Run State) : Outcome × List Url := (run.outcome, run.requests)

theorem retry_constant {transport : Transport State} (constant : transport.IsConstant)
    (policy : Policy) (url : Url) (left made : Nat) (first second : State) :
    (retry transport policy url left made first).trace =
      (retry transport policy url left made second).trace := by
  induction left generalizing made first second with
  | zero => rfl
  | succ left hypothesis =>
      have alike := attempt_constant constant policy url first second
      have sameEnd := Attempt.outcome?_of_trace alike url (made + 1)
      have requests : (attempt transport policy url first).requests =
        (attempt transport policy url second).requests := congrArg Prod.fst alike
      cases ended : (attempt transport policy url first).outcome? url (made + 1) with
      | some outcome =>
          rw [retry_ended _ _ _ _ _ _ ended, retry_ended _ _ _ _ _ _ (sameEnd ▸ ended)]
          simp [Run.trace, Run.requests, Run.attempts, Step.attempt?, requests]
      | none =>
          have again := sameEnd.symm.trans ended
          have rest := hypothesis (made + 1) (attempt transport policy url first).state
            (attempt transport policy url second).state
          obtain ⟨-, -, early, -⟩ := retry_again transport policy url left made first ended
          obtain ⟨-, -, late, -⟩ := retry_again transport policy url left made second again
          simp only [Run.trace, Prod.mk.injEq] at rest ⊢
          rw [retry_outcome_again _ _ _ _ _ _ (Attempt.outcome?_eq_none.1 ended), early, requests,
            retry_outcome_again _ _ _ _ _ _ (Attempt.outcome?_eq_none.1 again), late, rest.2]
          exact ⟨rest.1, rfl⟩

/-- Over a constant transport nothing depends on what was requested before. -/
theorem run_constant {transport : Transport State} (constant : transport.IsConstant)
    (policy : Policy) (text : String) (first second : State) :
    (run transport policy text first).outcome = (run transport policy text second).outcome ∧
      (run transport policy text first).requests = (run transport policy text second).requests := by
  rw [run, run]
  cases Url.parse text with
  | error rejection => exact ⟨rfl, rfl⟩
  | ok url =>
      have alike := retry_constant constant policy url policy.attempts 0 first second
      exact ⟨congrArg Prod.fst alike, congrArg Prod.snd alike⟩

end FeedCache.Fetch
