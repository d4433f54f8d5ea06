/-
This file says what a client makes of the answer to one request.

The body of a success is read up to a limit; other answers come without their bodies.
-/
import FeedCache.Fetch.Transport

namespace FeedCache.Http
open Fetch

/-- A field in the head of an answer. -/
structure HeaderField where
  name : String
  value : List UInt8
  deriving DecidableEq

/-- An answer with its head, the length that it declares, and the part of its body that came. -/
structure Answer where
  status : Nat
  header : List HeaderField := []
  declared : Option Nat := none
  body : ByteArray := .empty
  /-- Whether the whole body came. -/
  isComplete : Bool := true
  deriving DecidableEq

/-- A request is left without an answer, runs out of time, or is answered. -/
inductive Exchange where
  | unanswered
  | timedOut
  | answered (answer : Answer)
  deriving DecidableEq

/-- The visible characters of ASCII, the space and the tab. -/
def isFieldByte (byte : UInt8) : Bool :=
  (0x20 ≤ byte.toNat && byte.toNat < 0x7F) || byte.toNat == 0x09

/-- The text of the first field of a name, which is written in any case. A field with other
characters counts as absent. -/
def Answer.field? (answer : Answer) (name : String) : Option String :=
  match answer.header.find? fun field => field.name.toLower == name with
  | some field =>
      if field.value.all isFieldByte then
        some (String.ofList (field.value.map fun byte => Char.ofNat byte.toNat))
      else none
  | none => none

/-- What the client reports of an answer without its body. -/
def Answer.head (answer : Answer) : Response :=
  { status := answer.status
    location := answer.field? "location"
    contentType := answer.field? "content-type" }

/-- A body may be as long as the limit. A declared length counts before the body is read. -/
def Answer.receive (answer : Answer) (limit : Nat) : Except TransportFault Response :=
  if answer.head.isSuccess then
    match answer.declared.filter (limit < ·) with
    | some length => .error (.tooLarge length limit)
    | none =>
        if !answer.isComplete then .error (.other "error decoding response body")
        else if limit < answer.body.size then .error (.tooLarge answer.body.size limit)
        else .ok { answer.head with body := answer.body }
  else .ok answer.head

/-- What the client reports of an exchange about a URL. -/
def Exchange.receive (exchange : Exchange) (limit : Nat) (url : Url) :
    Except TransportFault Response :=
  match exchange with
  | .unanswered => .error (.other ("error sending request for url (" ++ url.toString ++ ")"))
  | .timedOut => .error .timeout
  | .answered answer => answer.receive limit

end FeedCache.Http
