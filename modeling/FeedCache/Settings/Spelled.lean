/-
This file reads the values of environment variables.

A value may be a truth value, a table in braces, a list in brackets, a quoted text or a number. A
text that is none of these to its end stands for itself.
-/
import FeedCache.Decimal.Literal
import FeedCache.Settings.Value
import FeedCache.Text.Blank
import FeedCache.Toml.Quoted

namespace FeedCache.Settings

/-- The blanks of ASCII, the vertical tab apart. -/
def isGap (c : Char) : Bool :=
  c == ' ' || c == '\t' || c == '\n' || c == '\x0c' || c == '\r'

def isDelimiter (c : Char) : Bool :=
  c == ',' || c == '\x7b' || c == '\x7d' || c == '[' || c == ']'

/-- A word with a point is a number if it can be; a word of digits is an integer of 64 bits. -/
def Value.ofWord (word : List Char) : Value :=
  let number := if word.contains '.' then Decimal.readNumber word else none
  match number with
  | some number => .number number
  | none =>
      match Decimal.readNatural 0x10000000000000000 word with
      | some value => .unsigned value
      | none =>
          match Decimal.readInteger 0x8000000000000000 word with
          | some value => .signed value
          | none => .text (String.ofList word)

/-- A key of a table is a bare word or a quoted text, with gaps around it. -/
def dropKey (text : List Char) : Option (List Char) :=
  let start := text.dropWhile isGap
  let isKeyCharacter (c : Char) : Bool := c.isAlphanum || c == '_' || c == '-'
  let rest := match start with
    | '"' :: rest => (Toml.readBasic rest).map Prod.snd
    | _ => if (start.head?.map isKeyCharacter).getD false then some (start.dropWhile isKeyCharacter)
      else none
  rest.map (·.dropWhile isGap)

mutual

/-- The value at the start of a text, with the gaps around it. -/
def readSpelled : Nat → List Char → Option (Value × List Char)
  | 0, _ => none
  | steps + 1, text => do
      let (value, rest) ← match text.dropWhile isGap with
        | 't' :: 'r' :: 'u' :: 'e' :: rest => some (.boolean true, rest)
        | 'f' :: 'a' :: 'l' :: 's' :: 'e' :: rest => some (.boolean false, rest)
        | '\x7b' :: rest => (dropEntries steps rest).map fun rest => (.map, rest)
        | '[' :: rest => (dropItems steps rest).map fun rest => (.sequence, rest)
        | '"' :: rest =>
            (Toml.readBasic rest).map fun (content, rest) => (.text (String.ofList content), rest)
        | '\'' :: c :: '\'' :: rest => some (.text (String.ofList [c]), rest)
        | '\'' :: _ => none
        | start =>
            let word := start.takeWhile fun c => !isDelimiter c
            some (Value.ofWord (Text.trim word), start.drop word.length)
      some (value, rest.dropWhile isGap)

/-- The items of a list up to its closing bracket; a comma may follow the last one. -/
def dropItems : Nat → List Char → Option (List Char)
  | 0, _ => none
  | _ + 1, ']' :: rest => some rest
  | steps + 1, text => do
      let (_, rest) ← readSpelled steps text
      match rest with
      | ',' :: rest => dropItems steps rest
      | ']' :: rest => some rest
      | _ => none

/-- The entries of a table up to its closing brace; a comma may follow the last one. -/
def dropEntries : Nat → List Char → Option (List Char)
  | 0, _ => none
  | _ + 1, '\x7d' :: rest => some rest
  | steps + 1, text => do
      let afterKey ← dropKey text
      match afterKey with
      | '=' :: rest => do
          let (_, rest) ← readSpelled steps rest
          match rest with
          | ',' :: rest => dropEntries steps rest
          | '\x7d' :: rest => some rest
          | _ => none
      | _ => none

end

/-- The value that a text spells; the text itself if it spells none to its end. Each step below
another reads a character or leads to one that does, so twice the length is deep enough. -/
def Value.ofSpelling (spelling : String) : Value :=
  let text := spelling.toList
  match readSpelled (2 * text.length + 2) text with
  | some (value, []) => value
  | _ => .text spelling

end FeedCache.Settings
