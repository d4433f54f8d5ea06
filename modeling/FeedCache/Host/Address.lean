/-
This file reads and writes numeric addresses of hosts.
-/
import FeedCache.Text.Hex
import FeedCache.Text.Pieces

namespace FeedCache.Host

/-! Addresses of four bytes. -/

/-- A number of an address: decimal, octal after a zero, or hexadecimal after `0x`. -/
def readAddressNumber (text : List Char) : Option Nat :=
  match text with
  | [] => none
  | '0' :: 'x' :: digits => if digits.all Text.isHexDigit then some (Text.hexNumber digits) else none
  | '0' :: digit :: digits =>
      if (digit :: digits).all (fun c => '0' ≤ c && c ≤ '7') then
        some ((digit :: digits).foldl (fun number c => number * 8 + (c.toNat - '0'.toNat)) 0)
      else none
  | digits =>
      if digits.all Char.isDigit then
        some (digits.foldl (fun number c => number * 10 + (c.toNat - '0'.toNat)) 0)
      else none

/-- The parts of a dotted name, without the empty one after a last dot. -/
def dottedParts (name : List Char) : List (List Char) :=
  let parts := Text.pieces (· == '.') name
  if parts.getLast? = some [] then parts.dropLast else parts

/-- A name whose last part is a number is an address, or no host at all. -/
def endsInNumber (name : List Char) : Bool :=
  match (dottedParts name).getLast? with
  | none => false
  | some last => (!last.isEmpty && last.all Char.isDigit) || (readAddressNumber last).isSome

/-- The last number of an address fills the bytes that the others leave. -/
def readFourBytes (name : List Char) : Option UInt32 := do
  let numbers ← (dottedParts name).mapM readAddressNumber
  let last ← numbers.getLast?
  let others := numbers.dropLast
  let room := Nat.pow 256 (4 - others.length)
  if 3 < others.length ∨ room ≤ last ∨ others.any (255 < ·) then none
  else
    let leading := others.foldl (fun total number => total * 256 + number) 0
    some (UInt32.ofNat (leading * room + last))

def writeFourBytes (address : UInt32) : List Char :=
  let byte (index : Nat) := (toString (address.toNat / Nat.pow 256 index % 256)).toList
  Text.joined '.' [byte 3, byte 2, byte 1, byte 0]

/-! Addresses of eight pieces. -/

/-- A piece is written with one to four hexadecimal digits. -/
def readPiece (text : List Char) : Option UInt16 :=
  if text.isEmpty ∨ 4 < text.length ∨ ¬ text.all Text.isHexDigit then none
  else some (UInt16.ofNat (Text.hexNumber text))

/-- A byte is written in decimal without leading zeros. -/
def readByte (text : List Char) : Option Nat :=
  if text.isEmpty ∨ ¬ text.all Char.isDigit ∨ (1 < text.length ∧ text.head? = some '0') ∨
      3 < text.length then none
  else
    let value := text.foldl (fun number c => number * 10 + (c.toNat - '0'.toNat)) 0
    if value ≤ 255 then some value else none

/-- Four bytes with dots stand for two pieces. -/
def readTwoPieces (text : List Char) : Option (List UInt16) := do
  match ← (Text.pieces (· == '.') text).mapM readByte with
  | [first, second, third, fourth] =>
      some [UInt16.ofNat (first * 256 + second), UInt16.ofNat (third * 256 + fourth)]
  | _ => none

/-- Pieces with colons between them; at the end of an address four dotted bytes may stand for the
last two. -/
def readPieces (atEnd : Bool) (text : List Char) : Option (List UInt16) :=
  if text.isEmpty then some []
  else
    let parts := Text.pieces (· == ':') text
    match parts.getLast? with
    | some last =>
        if atEnd && last.contains '.' then do
          let leading ← parts.dropLast.mapM readPiece
          let trailing ← readTwoPieces last
          some (leading ++ trailing)
        else parts.mapM readPiece
    | none => none

/-- What stands before and after the first two colons in a row. -/
def splitAtGap : List Char → Option (List Char × List Char)
  | ':' :: ':' :: rest => some ([], rest)
  | c :: rest => (splitAtGap rest).map fun (before, after) => (c :: before, after)
  | [] => none

/-- An address has eight pieces, of which one run of zeros may be left out. -/
def readEightPieces (text : List Char) : Option (Vector UInt16 8) :=
  match splitAtGap text with
  | some (before, after) => do
      let leading ← readPieces false before
      let trailing ← readPieces true after
      if h : leading.length + trailing.length ≤ 7 then
        some ⟨(leading ++ List.replicate (8 - leading.length - trailing.length) 0 ++
          trailing).toArray, by simp; omega⟩
      else none
  | none => do
      let pieces ← readPieces true text
      if h : pieces.length = 8 then some ⟨pieces.toArray, by simpa using h⟩ else none

/-- The length of the run of zeros at the start. -/
def leadingZeros (address : List UInt16) : Nat := (address.takeWhile (· == 0)).length

/-- The place and length of the longest run of zeros, the first of several. -/
def longestRun : List UInt16 → Nat × Nat
  | [] => (0, 0)
  | piece :: rest =>
      let here := leadingZeros (piece :: rest)
      let (place, length) := longestRun rest
      if length ≤ here then (0, here) else (place + 1, length)

def writePieces (address : List UInt16) : List Char :=
  Text.joined ':' (address.map fun piece => Text.toHex piece.toNat)

/-- The longest run of two or more zeros is left out. -/
def writeEightPieces (address : Vector UInt16 8) : List Char :=
  let pieces := address.toList
  let (place, length) := longestRun pieces
  if 2 ≤ length then
    writePieces (pieces.take place) ++ ':' :: ':' :: writePieces (pieces.drop (place + length))
  else writePieces pieces

end FeedCache.Host
