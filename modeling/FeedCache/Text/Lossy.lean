/-
This file reads bytes as a text, whatever they are.

Bytes that are no text are replaced: the longest start of a character that is not completed by
one sign, and a byte that starts no character by one as well.
-/
namespace FeedCache.Text

/-- The sign for what is no text. -/
def replacement : Char := '\uFFFD'

/-- The range of the bytes that continue most characters. -/
def continuation : Nat × Nat := (0x80, 0xBF)

/-- The bits of the character that a first byte holds, and the ranges of the bytes that must
follow it. -/
def startOfCharacter (byte : Nat) : Option (Nat × List (Nat × Nat)) :=
  if byte < 0x80 then some (byte, [])
  else if byte < 0xC2 then none
  else if byte < 0xE0 then some (byte % 0x20, [continuation])
  else if byte < 0xF0 then
    let second := if byte = 0xE0 then (0xA0, 0xBF) else if byte = 0xED then (0x80, 0x9F)
      else continuation
    some (byte % 0x10, [second, continuation])
  else if byte < 0xF5 then
    let second := if byte = 0xF0 then (0x90, 0xBF) else if byte = 0xF4 then (0x80, 0x8F)
      else continuation
    some (byte % 0x08, [second, continuation, continuation])
  else none

/-- The bytes of a character are collected as far as they are in their ranges; the rest comes
with the character. -/
def completeCharacter (bits : Nat) : List (Nat × Nat) → List UInt8 → Char × List UInt8
  | [], rest => (Char.ofNat bits, rest)
  | _ :: _, [] => (replacement, [])
  | range :: ranges, byte :: rest =>
      if range.1 ≤ byte.toNat ∧ byte.toNat ≤ range.2 then
        completeCharacter (bits * 0x40 + byte.toNat % 0x40) ranges rest
      else (replacement, byte :: rest)

theorem completeCharacterLength (bits : Nat) (ranges : List (Nat × Nat)) (bytes : List UInt8) :
    (completeCharacter bits ranges bytes).2.length ≤ bytes.length := by
  induction ranges generalizing bits bytes with
  | nil => simp [completeCharacter]
  | cons range ranges hypothesis =>
      cases bytes with
      | nil => simp [completeCharacter]
      | cons byte rest =>
          rw [completeCharacter]
          split
          · exact Nat.le_succ_of_le (hypothesis _ rest)
          · exact Nat.le_refl _

/-- The first character and the bytes after it. -/
def nextCharacter (byte : UInt8) (rest : List UInt8) : Char × List UInt8 :=
  match startOfCharacter byte.toNat with
  | some (bits, ranges) => completeCharacter bits ranges rest
  | none => (replacement, rest)

theorem nextCharacterLength (byte : UInt8) (rest : List UInt8) :
    (nextCharacter byte rest).2.length ≤ rest.length := by
  rw [nextCharacter]
  split
  · exact completeCharacterLength _ _ rest
  · exact Nat.le_refl _

/-- The characters are put in front of those that were read before, the last one first. -/
def replacedOnto (read : List Char) : List UInt8 → List Char
  | [] => read
  | byte :: rest => replacedOnto ((nextCharacter byte rest).1 :: read) (nextCharacter byte rest).2
termination_by bytes => bytes.length
decreasing_by exact Nat.lt_succ_of_le (nextCharacterLength byte rest)

/-- The text of the bytes; bytes that are a text stand for it. -/
def lossyText (bytes : ByteArray) : String :=
  match String.fromUTF8? bytes with
  | some text => text
  | none => String.ofList (replacedOnto [] bytes.toList).reverse

end FeedCache.Text
