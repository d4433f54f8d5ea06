/-
This file reads quoted texts of TOML.

Between double quotes a backslash starts an escape; between single quotes all stands for itself.
Three quotes enclose a text of several lines.
-/
import FeedCache.Text.Hex

namespace FeedCache.Toml

/-- The characters that need no escape: the tab and all that are no controls. -/
def isPlain (c : Char) : Bool := c == '\t' || (0x20 ≤ c.toNat && c.toNat != 0x7F)

/-- The character that a letter after a backslash stands for. -/
def escapedLetter? : Char → Option Char
  | '"' => some '"'
  | '\\' => some '\\'
  | 'b' => some '\x08'
  | 'f' => some '\x0c'
  | 'n' => some '\n'
  | 'r' => some '\r'
  | 't' => some '\t'
  | _ => none

/-- The character with the number that the first digits of a text give. -/
def numberedCharacter? (count : Nat) (text : List Char) : Option Char :=
  let digits := text.take count
  let point := Text.hexNumber digits
  if digits.length = count ∧ digits.all Text.isHexDigit = true ∧ point.isValidChar then
    some (Char.ofNat point)
  else none

/-- The character that the text after a backslash starts with, and how long its escape is. -/
def escaped? : List Char → Option (Char × Nat)
  | [] => none
  | 'u' :: rest => (numberedCharacter? 4 rest).map fun c => (c, 5)
  | 'U' :: rest => (numberedCharacter? 8 rest).map fun c => (c, 9)
  | letter :: _ => (escapedLetter? letter).map fun c => (c, 1)

/-- What stands before and after the first double quote that is not escaped. -/
def splitAtQuote : List Char → Option (List Char × List Char)
  | [] => none
  | '"' :: rest => some ([], rest)
  | '\\' :: c :: rest => (splitAtQuote rest).map fun (body, after) => ('\\' :: c :: body, after)
  | c :: rest => (splitAtQuote rest).map fun (body, after) => (c :: body, after)

/-- The text that a body between double quotes stands for. -/
def unescape (body : List Char) : Option (List Char) :=
  match body with
  | [] => some []
  | c :: rest =>
      if c = '\\' then do
        let (character, length) ← escaped? rest
        let others ← unescape (rest.drop length)
        some (character :: others)
      else if isPlain c then (unescape rest).map (c :: ·)
      else none
termination_by body.length
decreasing_by
  · simp only [List.length_drop, List.length_cons]; omega
  · simp

/-- The text in front of a double quote, whose opening one has been read. -/
def readBasic (text : List Char) : Option (List Char × List Char) := do
  let (body, after) ← splitAtQuote text
  let content ← unescape body
  some (content, after)

/-- The text in front of a single quote, whose opening one has been read. -/
def readLiteral (text : List Char) : Option (List Char × List Char) :=
  let body := text.takeWhile fun c => c != '\'' && isPlain c
  match text.drop body.length with
  | '\'' :: after => some (body, after)
  | _ => none

/-- A line end is a line feed, with or without a carriage return before it. -/
def dropLineEnd? : List Char → Option (List Char)
  | '\n' :: rest => some rest
  | '\r' :: '\n' :: rest => some rest
  | _ => none

def isSpace (c : Char) : Bool := c == ' ' || c == '\t'

/-- Spaces and line ends at the start of a text are dropped. -/
def dropBlankLines : List Char → List Char
  | [] => []
  | '\r' :: '\n' :: rest => dropBlankLines rest
  | c :: rest => if isSpace c || c == '\n' then dropBlankLines rest else c :: rest

/-- The text in front of three quotes. Up to two further quotes before them belong to the text.
A backslash at the end of a line takes the blanks after it away. -/
def readLines (quote : Char) : Nat → List Char → Option (List Char × List Char)
  | 0, _ => none
  | steps + 1, text =>
      let quotes := (text.takeWhile (· == quote)).length
      if 3 ≤ quotes then
        let inside := min (quotes - 3) 2
        some (List.replicate inside quote, text.drop (inside + 3))
      else
        match dropLineEnd? text, text with
        | some rest, _ => (readLines quote steps rest).map fun (body, after) => ('\n' :: body, after)
        | none, [] => none
        | none, c :: rest =>
            if c = '\\' ∧ quote = '"' then
              match dropLineEnd? (rest.dropWhile isSpace) with
              | some below => readLines quote steps (dropBlankLines below)
              | none => do
                  let (character, length) ← escaped? rest
                  let (body, after) ← readLines quote steps (rest.drop length)
                  some (character :: body, after)
            else if isPlain c then
              (readLines quote steps rest).map fun (body, after) => (c :: body, after)
            else none

/-- A quoted text at the start of a text. A line end right after three opening quotes is dropped. -/
def readQuoted : List Char → Option (List Char × List Char)
  | '"' :: '"' :: '"' :: rest => readLines '"' (rest.length + 1) ((dropLineEnd? rest).getD rest)
  | '\'' :: '\'' :: '\'' :: rest => readLines '\'' (rest.length + 1) ((dropLineEnd? rest).getD rest)
  | '"' :: rest => readBasic rest
  | '\'' :: rest => readLiteral rest
  | _ => none

end FeedCache.Toml
