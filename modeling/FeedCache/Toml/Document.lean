/-
This file reads whole documents of TOML.
-/
import FeedCache.Toml.Quoted
import FeedCache.Toml.Table

namespace FeedCache.Toml

/-- Values and dotted keys stay below this depth. -/
def depthLimit : Nat := 80

def isBareCharacter (c : Char) : Bool := c.isAlphanum || c == '_' || c == '-'

/-- A key is a bare word or a quoted text of one line. -/
def readSimpleKey (text : List Char) : Option (List Char × List Char) :=
  match text with
  | '"' :: rest => readBasic rest
  | '\'' :: rest => readLiteral rest
  | _ =>
      let word := text.takeWhile isBareCharacter
      if word.isEmpty then none else some (word, text.drop word.length)

/-- Simple keys with dots between them, spaces allowed around each. -/
def readKeys : Nat → List Char → Option (List (List Char) × List Char)
  | 0, _ => none
  | steps + 1, text => do
      let (key, rest) ← readSimpleKey (text.dropWhile isSpace)
      match rest.dropWhile isSpace with
      | '.' :: more => do
          let (keys, rest) ← readKeys steps more
          some (key :: keys, rest)
      | rest => some ([key], rest)

def readKey (text : List Char) : Option (List (List Char) × List Char) :=
  readKeys (depthLimit - 1) text

/-- A comment runs to the end of its line. -/
def dropComment : List Char → List Char
  | '#' :: rest => rest.dropWhile isPlain
  | text => text

/-- Spaces, line ends and comments between the values of an array. -/
def dropFiller : Nat → List Char → List Char
  | 0, text => text
  | steps + 1, text =>
      let rest := dropBlankLines text
      match rest with
      | '#' :: _ =>
          match dropLineEnd? (dropComment rest) with
          | some below => dropFiller steps below
          | none => dropComment rest
      | _ => rest

/-- The values of an array, whose opening bracket has been read, are read up to the closing one. -/
def readItems (readValue : List Char → Option (Value × List Char)) :
    Nat → List Char → Option (List Char)
  | 0, _ => none
  | steps + 1, text =>
      match dropFiller text.length text with
      | ']' :: rest => some rest
      | start => do
          let (_, rest) ← readValue start
          match dropFiller rest.length rest with
          | ']' :: rest => some rest
          | ',' :: rest => readItems readValue steps rest
          | _ => none

/-- The entries of a table in braces, whose opening one has been read. -/
def readEntries (readValue : List Char → Option (Value × List Char)) :
    Nat → Entries → List Char → Option (List Char)
  | 0, _, _ => none
  | steps + 1, entries, text => do
      let (key, rest) ← readKey text
      match rest with
      | '=' :: rest => do
          let (value, rest) ← readValue (rest.dropWhile isSpace)
          let entries ← entries.put key value
          match rest.dropWhile isSpace with
          | '\x7d' :: rest => some rest
          | ',' :: rest => readEntries readValue steps entries rest
          | _ => none
      | _ => none

/-- A value that holds others only to the given depth. -/
def readValue : Nat → List Char → Option (Value × List Char)
  | 0, _ => none
  | depth + 1, text =>
      match text with
      | '[' :: rest =>
          if depth = 0 then none
          else (readItems (readValue depth) (rest.length + 1) rest).map fun rest => (.array, rest)
      | '\x7b' :: rest =>
          if depth = 0 then none
          else match rest.dropWhile isSpace with
            | '\x7d' :: rest => some (.table, rest)
            | _ =>
                (readEntries (readValue depth) (rest.length + 1) [] rest).map
                  fun rest => (.table, rest)
      | '"' :: _ => (readQuoted text).map fun (content, rest) => (.text content, rest)
      | '\'' :: _ => (readQuoted text).map fun (content, rest) => (.text content, rest)
      | _ => readWord text

/-- A key with its value. -/
def readSetting (outline : Outline) (text : List Char) : Option (Outline × List Char) := do
  let (key, rest) ← readKey text
  match rest with
  | '=' :: rest => do
      let (value, rest) ← readValue depthLimit (rest.dropWhile isSpace)
      let outline ← outline.put key value
      some (outline, rest)
  | _ => none

/-- What one line says: nothing, a header, or a setting. -/
def readStatement (outline : Outline) (text : List Char) : Option (Outline × List Char) :=
  match text.dropWhile isSpace with
  | [] => some (outline, [])
  | '\n' :: rest => some (outline, '\n' :: rest)
  | '\r' :: rest => some (outline, '\r' :: rest)
  | '#' :: rest => some (outline, '#' :: rest)
  | '[' :: '[' :: rest => do
      let (path, rest) ← readKey rest
      match rest with
      | ']' :: ']' :: rest => (outline.openListed path).map fun outline => (outline, rest)
      | _ => none
  | '[' :: rest => do
      let (path, rest) ← readKey rest
      match rest with
      | ']' :: rest => (outline.openTable path).map fun outline => (outline, rest)
      | _ => none
  | start => readSetting outline start

/-- Statements, each with a comment or none, and a line end after all but the last. -/
def readStatements : Nat → Outline → List Char → Option Outline
  | 0, _, _ => none
  | steps + 1, outline, text => do
      let (outline, rest) ← readStatement outline text
      match dropComment (rest.dropWhile isSpace) with
      | [] => some outline
      | rest => (dropLineEnd? rest).bind fun below => readStatements steps outline below

/-- The entries of the root table of a document, which may start with a byte order mark. -/
def read? (text : String) : Option Entries := do
  let body := match text.toList with
    | '\uFEFF' :: rest => rest
    | list => list
  let outline ← readStatements (body.length + 1) .empty body
  outline.close

/-- The value of a top-level key. -/
def Entries.value? (entries : Entries) (key : String) : Option Value :=
  (entries.find? key.toList).map fun
    | .value value => value
    | .table _ _ => .table
    | .tables _ => .array

end FeedCache.Toml
