/-
This file reads the bytes that come back for a request.

A head of lines says how long the body is; the bytes after it are ignored, and missing ones make
the answer incomplete. Bytes without a proper head are no answer.
-/
import FeedCache.Http.Exchange
import FeedCache.Text.Hex

namespace FeedCache.Http

def lineFeed : UInt8 := 10

def carriageReturn : UInt8 := 13

/-- The bytes before the first line feed, which a carriage return may precede, and those after
it. The bytes that were read of the line are given in reverse. -/
def splitLine (read : List UInt8) : List UInt8 → Option (List UInt8 × List UInt8)
  | [] => none
  | byte :: rest =>
      if byte = lineFeed then
        some ((if read.head? = some carriageReturn then read.drop 1 else read).reverse, rest)
      else splitLine (byte :: read) rest

theorem splitLineLength (read bytes line rest : List UInt8)
    (found : splitLine read bytes = some (line, rest)) : rest.length < bytes.length := by
  induction bytes generalizing read with
  | nil => simp [splitLine] at found
  | cons byte bytes hypothesis =>
      rw [splitLine] at found
      split at found
      · simp only [Option.some.injEq, Prod.mk.injEq] at found
        simp [← found.2]
      · exact Nat.lt_succ_of_lt (hypothesis _ found)

/-- The first line and the bytes after it, which are fewer. -/
def nextLine (bytes : List UInt8) :
    Option (List UInt8 × { rest : List UInt8 // rest.length < bytes.length }) :=
  match found : splitLine [] bytes with
  | none => none
  | some (line, rest) => some (line, ⟨rest, splitLineLength [] bytes line rest found⟩)

/-- The lines up to the first empty one, and the bytes after it. -/
def headLines (bytes : List UInt8) : Option (List (List UInt8) × List UInt8) :=
  match nextLine bytes with
  | none => none
  | some ([], rest) => some ([], rest.val)
  | some (line, ⟨rest, _⟩) =>
      (headLines rest).map fun (lines, body) => (line :: lines, body)
termination_by bytes.length

def asciiText (bytes : List UInt8) : List Char := bytes.map fun byte => Char.ofNat byte.toNat

/-- The digits of a number, if there are some and nothing else. -/
def readDigits? (text : List Char) : Option Nat :=
  if text.isEmpty || !text.all Char.isDigit then none
  else some (text.foldl (fun number c => number * 10 + (c.toNat - '0'.toNat)) 0)

/-- The first line names the version of the protocol and the status, and it may give a reason. -/
def readStatus? (line : List UInt8) : Option Nat :=
  match asciiText line with
  | 'H' :: 'T' :: 'T' :: 'P' :: '/' :: '1' :: '.' :: minor :: ' ' :: rest =>
      let status := rest.take 3
      if (minor = '0' ∨ minor = '1') ∧ status.length = 3 ∧ status.head? ≠ some '0' ∧
          (rest.length = 3 ∨ rest[3]? = some ' ') then readDigits? status
      else none
  | _ => none

def isFieldBlank (byte : UInt8) : Bool := byte.toNat == 0x20 || byte.toNat == 0x09

def stripBlanks (bytes : List UInt8) : List UInt8 :=
  ((bytes.dropWhile isFieldBlank).reverse.dropWhile isFieldBlank).reverse

/-- The characters of a field's name. -/
def isNameCharacter (c : Char) : Bool :=
  c.isAlphanum || ['!', '#', '$', '%', '&', '\'', '*', '+', '-', '.', '^', '_', '\x60', '|',
    '~'].contains c

/-- A colon stands between the name of a field and its value. -/
def readField? (line : List UInt8) : Option HeaderField :=
  let name := asciiText (line.takeWhile (· != ':'.toUInt8))
  match line.dropWhile (· != ':'.toUInt8) with
  | [] => none
  | _ :: value =>
      if name.isEmpty || !name.all isNameCharacter then none
      else some ⟨String.ofList name, stripBlanks value⟩

/-- The ways in which the end of a body is found. -/
inductive Framing where
  | none
  | length (count : Nat)
  | chunked
  | untilClose
  deriving DecidableEq, Repr

def valuesOf (header : List HeaderField) (name : String) : List (List Char) :=
  (header.filter fun field => field.name.toLower == name).map fun field => asciiText field.value

/-- The greatest length that can be declared. -/
def longestDeclared : Nat := 0xFFFFFFFFFFFFFFFE

/-- The framing that the declared lengths ask for. All of them must be the same. -/
def declaredFraming? (lengths : List (List Char)) : Option Framing :=
  match lengths with
  | [] => some .untilClose
  | first :: others =>
      match (readDigits? first).filter (· ≤ longestDeclared) with
      | some count =>
          if others.all fun other => readDigits? other == some count then some (.length count)
          else none
      | none => none

/-- Some answers have no body whatever their head says. A coding counts more than a length. -/
def framing? (status : Nat) (header : List HeaderField) : Option Framing :=
  if status = 204 ∨ status = 304 then some .none
  else match (valuesOf header "transfer-encoding").getLast? with
    | some coding =>
        some (if coding.map Char.toLower = "chunked".toList then .chunked else .untilClose)
    | none => declaredFraming? (valuesOf header "content-length")

/-- The chunks of a body and whether the last one came. Each is preceded by its length in base
sixteen and followed by the end of a line. -/
def readChunks (bytes : List UInt8) : List UInt8 × Bool :=
  match nextLine bytes with
  | none => ([], false)
  | some (line, ⟨rest, _⟩) =>
      let digits := (asciiText line).takeWhile fun c => c != ';' && c != ' '
      let size := Text.hexNumber digits
      if digits.isEmpty || !digits.all Text.isHexDigit then ([], false)
      else if size = 0 then ([], (nextLine rest).isSome)
      else
        match nextLine (rest.drop size) with
        | some ([], ⟨further, _⟩) =>
            let (chunks, isComplete) := readChunks further
            (rest.take size ++ chunks, isComplete)
        | _ => (rest.take size, false)
termination_by bytes.length
decreasing_by
  simp only [List.length_drop] at *
  omega

def ofFraming (status : Nat) (header : List HeaderField) (bytes : List UInt8) :
    Framing → Answer
  | .none => { status, header, declared := some 0 }
  | .length count =>
      { status, header, declared := some count, body := ⟨(bytes.take count).toArray⟩
        isComplete := count ≤ bytes.length }
  | .chunked =>
      let (body, isComplete) := readChunks bytes
      { status, header, body := ⟨body.toArray⟩, isComplete }
  | .untilClose => { status, header, body := ⟨bytes.toArray⟩ }

/-- The answer that the bytes hold. A status below two hundred only announces another head. -/
def readAnswer (heads : Nat) (bytes : List UInt8) : Option Answer :=
  match heads with
  | 0 => none
  | heads + 1 => do
      let (lines, body) ← headLines bytes
      let status ← readStatus? (← lines.head?)
      let header ← (lines.drop 1).mapM readField?
      if status < 200 ∧ status ≠ 101 then readAnswer heads body
      else return ofFraming status header body (← framing? status header)

/-- Each head takes at least one byte. -/
def Exchange.ofBytes (bytes : ByteArray) : Exchange :=
  match readAnswer bytes.size bytes.toList with
  | some answer => .answered answer
  | none => .unanswered

end FeedCache.Http
