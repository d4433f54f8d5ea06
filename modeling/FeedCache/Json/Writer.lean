/-
This file writes reports in the JSON format, with two spaces for each level.
-/
import FeedCache.Text.Hex

namespace FeedCache.Json

/-- The values of a report. Members keep their order. -/
inductive Value where
  | boolean (value : Bool)
  | number (value : Nat)
  | text (content : String)
  | list (items : List Value)
  | object (members : List (String × Value))

/-- Quotes, backslashes and controls are escaped; all else stands for itself. -/
def escape (c : Char) : List Char :=
  match c with
  | '"' => ['\\', '"']
  | '\\' => ['\\', '\\']
  | '\x08' => ['\\', 'b']
  | '\x0c' => ['\\', 'f']
  | '\n' => ['\\', 'n']
  | '\r' => ['\\', 'r']
  | '\t' => ['\\', 't']
  | _ =>
      if c.toNat < 0x20 then
        ['\\', 'u', '0', '0', Text.hexDigit (c.toNat / 16), Text.hexDigit c.toNat]
      else [c]

def writeText (content : String) : List Char :=
  '"' :: (content.toList.flatMap escape ++ ['"'])

/-- The start of a line on a level. -/
def lineStart (level : Nat) : List Char := '\n' :: List.replicate (2 * level) ' '

mutual

/-- A value whose first line has been started on a level. -/
def write (level : Nat) : Value → List Char
  | .boolean value => (toString value).toList
  | .number value => (toString value).toList
  | .text content => writeText content
  | .list [] => ['[', ']']
  | .list (item :: items) =>
      '[' :: (lineStart (level + 1) ++ write (level + 1) item ++ writeItems (level + 1) items ++
        lineStart level ++ [']'])
  | .object [] => ['\x7b', '\x7d']
  | .object ((name, value) :: members) =>
      '\x7b' :: (lineStart (level + 1) ++ writeText name ++ ':' :: ' ' ::
        write (level + 1) value ++ writeMembers (level + 1) members ++ lineStart level ++ ['\x7d'])

/-- The items after the first one. -/
def writeItems (level : Nat) : List Value → List Char
  | [] => []
  | item :: items => ',' :: (lineStart level ++ write level item ++ writeItems level items)

/-- The members after the first one. -/
def writeMembers (level : Nat) : List (String × Value) → List Char
  | [] => []
  | (name, value) :: members =>
      ',' :: (lineStart level ++ writeText name ++ ':' :: ' ' :: write level value ++
        writeMembers level members)

end

def Value.toString (value : Value) : String := String.ofList (write 0 value)

end FeedCache.Json
