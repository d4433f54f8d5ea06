/-
This file reads and writes numbers in base sixteen.
-/
namespace FeedCache.Text

/-- The value of a hexadecimal digit of either case. -/
def hexValue? (c : Char) : Option Nat :=
  if '0' ≤ c ∧ c ≤ '9' then some (c.toNat - '0'.toNat)
  else if 'a' ≤ c ∧ c ≤ 'f' then some (c.toNat - 'a'.toNat + 10)
  else if 'A' ≤ c ∧ c ≤ 'F' then some (c.toNat - 'A'.toNat + 10)
  else none

def isHexDigit (c : Char) : Bool := (hexValue? c).isSome

/-- Characters that are no digits count as zero. -/
def hexNumber (digits : List Char) : Nat :=
  digits.foldl (fun number c => number * 16 + (hexValue? c).getD 0) 0

/-- The lower-case digit of a value below sixteen. -/
def hexDigit (value : Nat) : Char := Nat.digitChar (value % 16)

def upperHexDigit (value : Nat) : Char := (hexDigit value).toUpper

/-- The lower-case digits of a number, without leading zeros. -/
def toHex (number : Nat) : List Char := Nat.toDigits 16 number

/-- Each byte is written with two digits. -/
def hexOfBytes (bytes : List UInt8) : List Char :=
  bytes.flatMap fun byte => [hexDigit (byte.toNat / 16), hexDigit byte.toNat]

/-- The bytes that pairs of digits stand for. -/
def bytesOfHex? : List Char → Option (List UInt8)
  | [] => some []
  | high :: low :: rest => do
      let first ← hexValue? high
      let second ← hexValue? low
      let bytes ← bytesOfHex? rest
      return UInt8.ofNat (first * 16 + second) :: bytes
  | [_] => none

end FeedCache.Text
