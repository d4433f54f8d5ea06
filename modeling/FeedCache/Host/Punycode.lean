/-
This file writes labels with any characters in letters, digits and hyphens, and reads them back.

A label is written as its ASCII characters, a hyphen, and a list of numbers which say how far to
move in the sequence of all pairs (character, place) before the next character is put in.
-/
namespace FeedCache.Host.Punycode

/-- The digits stand for the values of a to z and 0 to 9. -/
def digitValue? (c : Char) : Option Nat :=
  if 'a' ≤ c ∧ c ≤ 'z' then some (c.toNat - 'a'.toNat)
  else if 'A' ≤ c ∧ c ≤ 'Z' then some (c.toNat - 'A'.toNat)
  else if '0' ≤ c ∧ c ≤ '9' then some (c.toNat - '0'.toNat + 26)
  else none

def digit (value : Nat) : Char :=
  if value < 26 then Char.ofNat ('a'.toNat + value) else Char.ofNat ('0'.toNat + (value - 26))

/-- The least value that a digit in the place `k` must have for another digit to follow. -/
def threshold (bias k : Nat) : Nat := if k ≤ bias then 1 else if bias + 26 ≤ k then 26 else k - bias

theorem thresholdBounds (bias k : Nat) : 1 ≤ threshold bias k ∧ threshold bias k ≤ 26 := by
  unfold threshold
  split
  · omega
  · split <;> omega

/-- The bias grows with the length of the last number. -/
def scale (delta k : Nat) : Nat :=
  if 455 < delta then scale (delta / 35) (k + 36) else k + 36 * delta / (delta + 38)
termination_by delta

def nextBias (delta count : Nat) (first : Bool) : Nat :=
  let delta := if first then delta / 700 else delta / 2
  scale (delta + delta / count) 0

/-- The digits of a number in places of varying weight. -/
def writeNumber (bias k number : Nat) : List Char :=
  let t := threshold bias k
  if number < t then [digit number]
  else digit (t + (number - t) % (36 - t)) :: writeNumber bias (k + 36) ((number - t) / (36 - t))
termination_by number
decreasing_by
  have bounds := thresholdBounds bias k
  have : (number - threshold bias k) / (36 - threshold bias k) ≤ number - threshold bias k :=
    Nat.div_le_self _ _
  omega

/-- What is known after some characters have been written: the next number so far, the bias and
the count of the characters written. -/
structure Progress where
  delta : Nat
  bias : Nat
  count : Nat
  output : List Char

/-- The places of one character are written, one number for each. -/
def writePlaces (basicCount point : Nat) (label : List Char) (progress : Progress) : Progress :=
  label.foldl
    (fun progress c =>
      if c.toNat < point then { progress with delta := progress.delta + 1 }
      else if c.toNat = point then
        { delta := 0
          bias := nextBias progress.delta (progress.count + 1) (progress.count == basicCount)
          count := progress.count + 1
          output := progress.output ++ writeNumber progress.bias 36 progress.delta }
      else progress)
    progress

/-- The distinct code points of a list in increasing order. -/
def distinctPoints (points : List Nat) : List Nat :=
  (points.mergeSort (· ≤ ·)).eraseDups

/-- The letters, digits and hyphens for a label. -/
def encode (label : List Char) : List Char :=
  let basic := label.filter fun c => c.toNat < 128
  let start : Progress := ⟨0, 72, basic.length, if basic.isEmpty then [] else basic ++ ['-']⟩
  let points := distinctPoints ((label.map Char.toNat).filter fun point => 128 ≤ point)
  (points.foldl
    (fun (position, progress) point =>
      let moved := progress.delta + (point - position) * (progress.count + 1)
      let written := writePlaces basic.length point label { progress with delta := moved }
      (point + 1, { written with delta := written.delta + 1 }))
    (128, start)).2.output

/-- Numbers above this limit are not read. -/
def limit : Nat := 0xFFFFFFFF

/-- Adds a number in places of varying weight to a total, and gives what follows it. -/
def readNumber (bias k weight total : Nat) :
    (text : List Char) → Option (Nat × { rest : List Char // rest.length < text.length })
  | [] => none
  | c :: rest => do
      let value ← digitValue? c
      let total := total + value * weight
      if limit < total then none
      else
        let t := threshold bias k
        if value < t then some (total, ⟨rest, by simp⟩)
        else if limit < weight * (36 - t) then none
        else
          let (number, shorter) ← readNumber bias (k + 36) (weight * (36 - t)) total rest
          some (number, ⟨shorter.val, Nat.lt_succ_of_lt shorter.property⟩)

/-- The characters that the numbers of a text put into a label. -/
def readInsertions (bias point place : Nat) (label text : List Char) : Option (List Char) :=
  if text.isEmpty then some label
  else do
    let (total, shorter) ← readNumber bias 36 1 place text
    let count := label.length + 1
    let nextPoint := point + total / count
    let nextPlace := total % count
    if nextPoint.isValidChar then
      readInsertions (nextBias (total - place) count (place == 0)) nextPoint (nextPlace + 1)
        (label.take nextPlace ++ Char.ofNat nextPoint :: label.drop nextPlace) shorter.val
    else none
termination_by text.length
decreasing_by exact shorter.property

/-- The label that letters, digits and hyphens stand for. What stands before the last hyphen is
taken as it is. -/
def decode (text : List Char) : Option (List Char) :=
  let numbers := (text.reverse.takeWhile (· != '-')).reverse
  let basic := text.take (text.length - numbers.length - 1)
  if numbers.length = text.length then readInsertions 72 128 0 [] numbers
  else if basic.isEmpty then none
  else readInsertions 72 128 0 basic numbers

end FeedCache.Host.Punycode
