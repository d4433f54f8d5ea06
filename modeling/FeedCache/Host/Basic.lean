/-
This file says what the host of a URL is and how it is read.
-/
import FeedCache.Host.Address
import FeedCache.Host.Domain
import FeedCache.Url.Fault
import FeedCache.Url.Percent

namespace FeedCache

/-- A host is a name on the wire or a numeric address. -/
inductive Host where
  | name (labels : List Char)
  | fourBytes (address : UInt32)
  | eightPieces (address : Vector UInt16 8)
  deriving DecidableEq

namespace Host

def toList : Host → List Char
  | .name labels => labels
  | .fourBytes address => writeFourBytes address
  | .eightPieces address => '[' :: (writeEightPieces address ++ [']'])

/-- The host between brackets, whose opening one has been read. -/
def readBracketed (text : List Char) : Except Url.Fault Host :=
  if text.getLast? = some ']' then
    match readEightPieces text.dropLast with
    | some address => .ok (.eightPieces address)
    | none => .error .invalidEightPieces
  else .error .invalidEightPieces

/-- A name on the wire whose last part is a number is an address. -/
def ofName (labels : List Char) : Except Url.Fault Host :=
  if labels.isEmpty then .error .emptyHost
  else if endsInNumber labels then
    match readFourBytes labels with
    | some address => .ok (.fourBytes address)
    | none => .error .invalidFourBytes
  else .ok (.name labels)

/-- The host of a URL whose scheme is one of the web's. -/
def read : List Char → Except Url.Fault Host
  | '[' :: rest => readBracketed rest
  | text =>
      match (Url.percentDecodedText text).bind wireName with
      | some labels => ofName labels
      | none => .error .invalidName

/-- The characters that no host of an unknown scheme may hold. -/
def isForbiddenInOpaque (c : Char) : Bool :=
  ['\x00', '\t', '\n', '\r', ' ', '#', '/', ':', '<', '>', '?', '@', '[', '\\', ']', '^', '|'].contains c

/-- A host of an unknown scheme is checked but not read. -/
def checkOpaque : List Char → Except Url.Fault Unit
  | '[' :: rest => (readBracketed rest).map fun _ => ()
  | text => if text.any isForbiddenInOpaque then .error .invalidHostCharacter else .ok ()

end Host

end FeedCache
