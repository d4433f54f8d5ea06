/-
This file reads decimal numbers.
-/
import FeedCache.Decimal.Binary

namespace FeedCache.Decimal

def digitsValue (digits : List Char) : Nat :=
  digits.foldl (fun number c => number * 10 + (c.toNat - '0'.toNat)) 0

/-- A sign in front of a text. -/
def splitSign : List Char → Bool × List Char
  | '-' :: rest => (true, rest)
  | '+' :: rest => (false, rest)
  | text => (false, text)

/-- An exponent is a letter, an optional sign and digits. -/
def readExponent : List Char → Option Int
  | [] => some 0
  | letter :: rest =>
      let (negative, digits) := splitSign rest
      if (letter == 'e' || letter == 'E') && !digits.isEmpty && digits.all Char.isDigit then
        some (if negative then -(digitsValue digits : Int) else digitsValue digits)
      else none

/-- A number has a sign or none, digits with at most one point among them, and an exponent or
none. -/
def readNumber (text : List Char) : Option Number := do
  let (negative, unsigned) := splitSign text
  let whole := unsigned.takeWhile Char.isDigit
  let (fraction, rest) := match unsigned.dropWhile Char.isDigit with
    | '.' :: after => (after.takeWhile Char.isDigit, after.dropWhile Char.isDigit)
    | rest => ([], rest)
  let exponent ← readExponent rest
  if whole.isEmpty && fraction.isEmpty then none
  else
    some (.signed negative
      (nearestDecimal (digitsValue (whole ++ fraction)) (exponent - fraction.length)))

/-- A natural number below the limit, with an optional plus sign. -/
def readNatural (limit : Nat) (text : List Char) : Option Nat :=
  let digits := match text with
    | '+' :: rest => rest
    | _ => text
  if digits.isEmpty ∨ ¬ digits.all Char.isDigit ∨ limit ≤ digitsValue digits then none
  else some (digitsValue digits)

/-- An integer from the negative limit up to below the limit. -/
def readInteger (limit : Nat) (text : List Char) : Option Int :=
  let (negative, digits) := splitSign text
  if digits.isEmpty ∨ ¬ digits.all Char.isDigit then none
  else
    let value := digitsValue digits
    if negative then if value ≤ limit then some (-(value : Int)) else none
    else if value < limit then some value else none

end FeedCache.Decimal
