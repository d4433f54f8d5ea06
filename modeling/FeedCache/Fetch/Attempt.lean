/-
This file makes one attempt to fetch a URL: a request, and one more for each redirect.
-/
import FeedCache.Fetch.Outcome
import FeedCache.Fetch.Transport

namespace FeedCache.Fetch

/-- An attempt ends with a success, runs out of time, or fails for good. -/
inductive Ending where
  | landed (finalUrl : Url) (response : Response)
  | timedOut
  | failed (failure : Failure)
  deriving DecidableEq

/-- An attempt with its requests in order and the time it took. -/
structure Attempt (State : Type) where
  requests : List Url
  elapsed : Nat
  ending : Ending
  /-- The state of the transport afterwards. -/
  state : State

namespace Attempt

/-- An attempt that ends without a request. -/
def ended {State : Type} (ending : Ending) (state : State) : Attempt State :=
  ⟨[], 0, ending, state⟩

/-- A request that is answered after a delay stands before what follows it. -/
def afterRequest {State : Type} (url : Url) (delay : Nat) (rest : Attempt State) :
    Attempt State :=
  { rest with requests := url :: rest.requests, elapsed := delay + rest.elapsed }

end Attempt

/-- The next step after an answer: an ending, or a redirect to another URL. -/
def judge (url : Url) : Except TransportFault Response → Except Ending Url
  | .error .timeout => .error .timedOut
  | .error (.tooLarge length limit) => .error (.failed (.tooLarge length limit))
  | .error (.other detail) => .error (.failed (.transport detail))
  | .ok response =>
      if response.isSuccess then .error (.landed url response)
      else if response.isRedirect then
        match response.location.bind fun location => (url.resolve location).toOption with
        | some next => .ok next
        | none => .error (.failed (.missingLocation response.status))
      else .error (.failed (.httpStatus response.status))

/-- Redirects are followed from a URL. As many requests may be made as there are hops, and the
answers may take as long as there is time left; the limit is the number of hops at the start. -/
def follow {State : Type} (transport : Transport State) (limit : Nat) :
    (hops : Nat) → (left : Nat) → Url → State → Attempt State
  | 0, _, _, state => .ended (.failed (.redirectLoop limit)) state
  | hops + 1, left, url, state =>
      let (reply, next) := transport state url
      if left < reply.delay then .afterRequest url left (.ended .timedOut next)
      else .afterRequest url reply.delay
        (match judge url reply.result with
        | .ok target => follow transport limit hops (left - reply.delay) target next
        | .error ending => .ended ending next)

/-- One attempt starts from the URL that was asked for. -/
def attempt {State : Type} (transport : Transport State) (policy : Policy) (url : Url)
    (state : State) : Attempt State :=
  follow transport policy.maxRedirects policy.maxRedirects policy.timeout url state

end FeedCache.Fetch
