/-
This file says what the other end of a request is: it answers one request at a time.

The answers may depend on everything that was requested before, which the state keeps.
-/
import FeedCache.Text.Bytes
import FeedCache.Url.Basic

namespace FeedCache.Fetch

/-- What one request brings back. The body is the one of a success; other answers have none. -/
structure Response where
  status : Nat
  location : Option String := none
  contentType : Option String := none
  body : ByteArray := .empty
  deriving DecidableEq

def Response.isSuccess (response : Response) : Bool :=
  200 ≤ response.status && response.status < 300

def Response.isRedirect (response : Response) : Bool :=
  300 ≤ response.status && response.status < 400

/-- The reasons why a request brings nothing back. -/
inductive TransportFault where
  | timeout
  | tooLarge (length limit : Nat)
  | other (detail : String)
  deriving DecidableEq, Repr

/-- A reply comes after a delay, in milliseconds. -/
structure Reply where
  delay : Nat := 0
  result : Except TransportFault Response

/-- A transport answers a request and moves on to its next state. -/
abbrev Transport (State : Type) := State → Url → Reply × State

end FeedCache.Fetch
