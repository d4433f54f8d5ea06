/-
This file fetches a URL: attempts are made until one does not time out.
-/
import FeedCache.Fetch.Attempt

namespace FeedCache.Fetch

/-- A fetch goes through attempts with pauses between them. -/
inductive Step (State : Type) where
  | attempt (attempt : Attempt State)
  | pause (duration : Nat)

def Step.attempt? {State : Type} : Step State → Option (Attempt State)
  | .attempt done => some done
  | .pause _ => none

def Step.elapsed {State : Type} : Step State → Nat
  | .attempt done => done.elapsed
  | .pause duration => duration

/-- A whole fetch with its steps in order. -/
structure Run (State : Type) where
  outcome : Outcome
  steps : List (Step State)
  /-- The state of the transport afterwards. -/
  state : State

namespace Run

def attempts {State : Type} (run : Run State) : List (Attempt State) :=
  run.steps.filterMap Step.attempt?

/-- All requests in order. -/
def requests {State : Type} (run : Run State) : List Url :=
  run.attempts.flatMap Attempt.requests

/-- The time of all attempts and pauses. -/
def elapsed {State : Type} (run : Run State) : Nat :=
  run.steps.foldr (fun step total => step.elapsed + total) 0

end Run

/-- How an attempt ends the fetch; nothing if it has timed out. The number counts the attempts
so far. -/
def Attempt.outcome? {State : Type} (attempt : Attempt State) (url : Url) (number : Nat) :
    Option Outcome :=
  match attempt.ending with
  | .timedOut => none
  | .failed failure => some (.failed failure)
  | .landed finalUrl response =>
      some (.fetched ⟨url, finalUrl, response.status, response.contentType, response.body, number,
        attempt.requests.length - 1⟩)

/-- Attempts are made as long as there are some left. There is a pause before each further one.
The number counts the attempts that were made before. -/
def retry {State : Type} (transport : Transport State) (policy : Policy) (url : Url) :
    (left : Nat) → (made : Nat) → State → Run State
  | 0, made, state => ⟨.failed (.timedOut made), [], state⟩
  | left + 1, made, state =>
      let attempt := attempt transport policy url state
      match attempt.outcome? url (made + 1) with
      | some outcome => ⟨outcome, [.attempt attempt], attempt.state⟩
      | none =>
          let rest := retry transport policy url left (made + 1) attempt.state
          let pauses := if left = 0 then [] else [.pause policy.retryBackoff]
          { rest with steps := .attempt attempt :: (pauses ++ rest.steps) }

/-- The text is fetched if it names something to fetch. -/
def run {State : Type} (transport : Transport State) (policy : Policy) (text : String)
    (state : State) : Run State :=
  match Url.parse text with
  | .error rejection => ⟨.failed (.invalidUrl rejection), [], state⟩
  | .ok url => retry transport policy url policy.attempts 0 state

end FeedCache.Fetch
