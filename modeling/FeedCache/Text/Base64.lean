/-
This file writes bytes in base sixty-four.
-/
namespace FeedCache.Text

/-- The sign of a value below sixty-four: capitals, small letters, digits, plus and slash. -/
def base64Sign (value : Nat) : Char :=
  if value < 26 then Char.ofNat ('A'.toNat + value)
  else if value < 52 then Char.ofNat ('a'.toNat + (value - 26))
  else if value < 62 then Char.ofNat ('0'.toNat + (value - 52))
  else if value = 62 then '+' else '/'

/-- The first signs of a group of three bytes, the highest bits first. -/
def base64Signs (count group : Nat) : List Char :=
  (List.range count).map fun index => base64Sign (group / Nat.pow 64 (3 - index) % 64)

/-- Three bytes are four signs; fewer bytes at the end are filled up with equals signs. -/
def toBase64 : List UInt8 → List Char
  | first :: second :: third :: rest =>
      base64Signs 4 ((first.toNat * 256 + second.toNat) * 256 + third.toNat) ++ toBase64 rest
  | [first, second] => base64Signs 3 ((first.toNat * 256 + second.toNat) * 256) ++ ['=']
  | [first] => base64Signs 2 (first.toNat * 65536) ++ ['=', '=']
  | [] => []

end FeedCache.Text
