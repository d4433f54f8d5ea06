/-
This file compares fetches whose texts, or the locations on their way, differ in their fragments.

Main statement: such fetches take the same steps.
-/
import FeedCache.Fetch.Run
import FeedCache.Proofs.Url.Fragment

namespace FeedCache.Fetch

variable {State : Type}

/-- The replies are the same, except that a redirect may have another fragment in its location. -/
inductive Reply.Alike : Reply → Reply → Prop
  | same (reply : Reply) : Reply.Alike reply reply
  | moved (delay : Nat) {response : Response} {left right : String}
      (redirect : response.isRedirect) (differ : Url.DifferInFragment left right) :
      Reply.Alike ⟨delay, .ok { response with location := some left }⟩
        ⟨delay, .ok { response with location := some right }⟩

/-- The transports give replies that are alike and move on to the same state. -/
def Transport.Alike (transport other : Transport State) : Prop :=
  ∀ state url, Reply.Alike (transport state url).1 (other state url).1 ∧
    (transport state url).2 = (other state url).2

theorem Transport.Alike.refl (transport : Transport State) : transport.Alike transport :=
  fun state url => ⟨.same (transport state url).1, rfl⟩

/-- Replies that are alike come at the same time and lead on in the same way. -/
theorem Reply.Alike.judged {left right : Reply} (alike : left.Alike right) (url : Url) :
    left.delay = right.delay ∧ judge url left.result = judge url right.result := by
  cases alike with
  | same reply => exact ⟨rfl, rfl⟩
  | @moved delay response left right redirect differ =>
      have noSuccess : response.isSuccess = false := by
        simp only [Response.isRedirect, Response.isSuccess, Bool.and_eq_true,
          decide_eq_true_eq] at redirect ⊢
        simp only [Bool.and_eq_false_iff, decide_eq_false_iff_not]
        omega
      have target : (url.resolve left).toOption = (url.resolve right).toOption :=
        differ.sameTarget (some url)
      -- The class of an answer is told from its status, whatever its location is.
      have classes (location : Option String) :
          ({ response with location } : Response).isSuccess = false ∧
            ({ response with location } : Response).isRedirect = true := ⟨noSuccess, redirect⟩
      exact ⟨rfl, by simp [judge, classes, target]⟩

section

variable {transport other : Transport State}

theorem follow_alike (alike : transport.Alike other) (limit hops time : Nat) (url : Url)
    (state : State) :
    follow transport limit hops time url state = follow other limit hops time url state := by
  induction hops generalizing time url state with
  | zero => rfl
  | succ hops hypothesis =>
      obtain ⟨reply, next⟩ := alike state url
      obtain ⟨delay, judged⟩ := reply.judged url
      simp only [follow, delay, judged, next, hypothesis]

theorem retry_alike (alike : transport.Alike other) (policy : Policy) (url : Url)
    (left made : Nat) (state : State) :
    retry transport policy url left made state = retry other policy url left made state := by
  have attempts (state : State) : attempt transport policy url state =
      attempt other policy url state := follow_alike alike ..
  induction left generalizing made state with
  | zero => rfl
  | succ left hypothesis => simp only [retry, attempts, hypothesis]

/-- Texts and locations that differ in their fragments cause the same steps, and so the same
requests, and leave the transport in the same state. -/
theorem run_alike (alike : transport.Alike other) (policy : Policy) {left right : String}
    (differ : Url.DifferInFragment left right) (state : State) :
    (run transport policy left state).steps = (run other policy right state).steps ∧
      (run transport policy left state).state = (run other policy right state).state := by
  have target : (Url.parse left).toOption = (Url.parse right).toOption := differ.sameTarget none
  rw [run, run]
  cases first : Url.parse left with
  | error rejection =>
      cases second : Url.parse right with
      | error other => exact ⟨rfl, rfl⟩
      | ok url =>
          rw [first, second] at target
          cases target
  | ok url =>
      cases second : Url.parse right with
      | error rejection =>
          rw [first, second] at target
          cases target
      | ok same =>
          rw [first, second] at target
          cases target
          exact ⟨congrArg Run.steps (retry_alike alike ..),
            congrArg Run.state (retry_alike alike ..)⟩

end

end FeedCache.Fetch
