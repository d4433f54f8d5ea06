/-
This file bounds the bodies that a client hands on.

Main statements: whatever comes over the wire, no body is larger than the limit of the client, and
an answer is refused as too large exactly if it is a success with a larger body or a larger declared
length.
-/
import FeedCache.Http.Client
import FeedCache.Proofs.Basic
import FeedCache.Proofs.Fetch.Outcome

namespace FeedCache.Http
open Fetch

variable {State : Type} {limit : Nat} {response : Response}

def Answer.Succeeds (answer : Answer) : Prop := 200 ≤ answer.status ∧ answer.status < 300

/-- No length is declared that is larger than the limit. -/
def Answer.DeclaresUpTo (answer : Answer) (limit : Nat) : Prop :=
  ∀ length, answer.declared = some length → length ≤ limit

/-- A success is too large by the length that it declares, whatever comes of its body, or else by
the length of its body, if the whole of it came. -/
inductive Answer.Exceeds (answer : Answer) (limit : Nat) : Nat → Prop
  | declared {length : Nat} (success : answer.Succeeds) (declares : answer.declared = some length)
      (larger : limit < length) : Exceeds answer limit length
  | received (success : answer.Succeeds) (modest : answer.DeclaresUpTo limit)
      (complete : answer.isComplete) (larger : limit < answer.body.size) :
      Exceeds answer limit answer.body.size

namespace Answer

variable {answer : Answer}

theorem isSuccess_head : answer.head.isSuccess ↔ answer.Succeeds := Response.isSuccess_iff

theorem filter_declared_eq_none :
    answer.declared.filter (limit < ·) = none ↔ answer.DeclaresUpTo limit := by
  simp [Option.filter_eq_none_iff, DeclaresUpTo]

theorem filter_declared_eq_some {length : Nat} :
    answer.declared.filter (limit < ·) = some length ↔
      answer.declared = some length ∧ limit < length := by
  simp [Option.filter_eq_some_iff]

/-- An answer that is no success is reported by its head, and its body is not looked at. -/
theorem receive_failure (failed : ¬answer.Succeeds) : answer.receive limit = .ok answer.head := by
  rw [receive, if_neg (mt isSuccess_head.1 failed)]

theorem receive_declared {length : Nat} (success : answer.Succeeds)
    (declares : answer.declared = some length) (larger : limit < length) :
    answer.receive limit = .error (.tooLarge length limit) := by
  rw [receive, if_pos (isSuccess_head.2 success), filter_declared_eq_some.2 ⟨declares, larger⟩]

/-- A success that declares no larger length is judged by what came of its body. -/
theorem receive_modest (success : answer.Succeeds) (modest : answer.DeclaresUpTo limit) :
    answer.receive limit =
      if !answer.isComplete then .error (.other "error decoding response body")
      else if limit < answer.body.size then .error (.tooLarge answer.body.size limit)
      else .ok { answer.head with body := answer.body } := by
  rw [receive, if_pos (isSuccess_head.2 success), filter_declared_eq_none.2 modest]

/-- A body may be as long as the limit. -/
theorem receive_fitting (success : answer.Succeeds) (modest : answer.DeclaresUpTo limit)
    (complete : answer.isComplete) (fits : answer.body.size ≤ limit) :
    answer.receive limit = .ok { answer.head with body := answer.body } := by
  rw [receive_modest success modest, if_neg (by simp [complete]), if_neg (Nat.not_lt.2 fits)]

theorem receive_eq_tooLarge {length bound : Nat} :
    answer.receive limit = .error (.tooLarge length bound) ↔
      bound = limit ∧ answer.Exceeds limit length := by
  constructor
  · intro refused
    by_cases success : answer.Succeeds
    · cases greater : answer.declared.filter (limit < ·) with
      | some declared =>
          obtain ⟨declares, larger⟩ := filter_declared_eq_some.1 greater
          rw [receive_declared success declares larger] at refused
          cases refused
          exact ⟨rfl, .declared success declares larger⟩
      | none =>
          have modest := filter_declared_eq_none.1 greater
          rw [receive_modest success modest] at refused
          split at refused
          · cases refused
          · rename_i whole
            have complete : answer.isComplete := by simpa using whole
            split at refused
            · rename_i larger
              cases refused
              exact ⟨rfl, .received success modest complete larger⟩
            · cases refused
    · rw [receive_failure success] at refused
      cases refused
  · rintro ⟨rfl, exceeds⟩
    cases exceeds with
    | declared success declares larger => exact receive_declared success declares larger
    | received success modest complete larger =>
        rw [receive_modest success modest, if_neg (by simp [complete]), if_pos larger]

end Answer

theorem Answer.receive_size {answer : Answer} (received : answer.receive limit = .ok response) :
    response.body.size ≤ limit := by
  rw [receive] at received
  split at received
  · split at received
    · cases received
    · split at received
      · cases received
      · split at received
        · cases received
        · rename_i small
          cases received
          exact Nat.not_lt.1 small
  · -- An answer that is no success comes without its body.
    cases received
    exact Nat.zero_le limit

theorem Exchange.receive_size {exchange : Exchange} {url : Url}
    (received : exchange.receive limit url = .ok response) : response.body.size ≤ limit := by
  cases exchange with
  | unanswered => cases received
  | timedOut => cases received
  | answered answer => exact Answer.receive_size received

theorem Client.transport_size {client : Client} {wire : Wire State} {state : State} {url : Url}
    (received : (client.transport wire state url).1.result = .ok response) :
    response.body.size ≤ client.limit := by
  rw [transport] at received
  split at received
  · exact Exchange.receive_size received
  · cases received

/-- The client sends a request for the URL, and this is the answer that comes over the wire. -/
structure Client.Answered (client : Client) (wire : Wire State) (state : State) (url : Url)
    (answer : Answer) : Prop where
  sent : isSendable (withoutSentUser url)
  came : (wire state ⟨url, client.route url, client.userAgent⟩).1.2 = .answered answer

theorem Client.Answered.result {client : Client} {wire : Wire State} {state : State} {url : Url}
    {answer : Answer} (answered : client.Answered wire state url answer) :
    (client.transport wire state url).1.result = answer.receive client.limit := by
  rw [transport]
  dsimp only
  rw [if_pos answered.sent, answered.came]
  rfl

/-- Nothing but an answer that exceeds the limit is refused as too large. -/
theorem Client.transport_eq_tooLarge {client : Client} {wire : Wire State} {state : State}
    {url : Url} {length bound : Nat} :
    (client.transport wire state url).1.result = .error (.tooLarge length bound) ↔
      bound = client.limit ∧
        ∃ answer, client.Answered wire state url answer ∧ answer.Exceeds client.limit length := by
  constructor
  · intro refused
    by_cases sent : isSendable (withoutSentUser url)
    · cases came : (wire state ⟨url, client.route url, client.userAgent⟩).1.2 with
      | unanswered => simp [transport, sent, came, Exchange.receive] at refused
      | timedOut => simp [transport, sent, came, Exchange.receive] at refused
      | answered answer =>
          have answered : client.Answered wire state url answer := ⟨sent, came⟩
          rw [answered.result, Answer.receive_eq_tooLarge] at refused
          exact ⟨refused.1, answer, answered, refused.2⟩
    · simp [transport, sent] at refused
  · rintro ⟨same, answer, answered, exceeds⟩
    rw [answered.result]
    exact Answer.receive_eq_tooLarge.2 ⟨same, exceeds⟩

theorem Client.ofSettings_limit {settings : Settings} {client : Client}
    (built : Client.ofSettings settings = .ok client) : client.limit = settings.maxBytes := by
  rw [ofSettings] at built
  obtain ⟨proxies, -, built⟩ := bind_eq_ok.1 built
  split at built
  · cases built
  · cases built
    rfl

end FeedCache.Http
