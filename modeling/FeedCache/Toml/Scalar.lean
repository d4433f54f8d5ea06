/-
This file reads numbers, dates and truth values of TOML.
-/
import FeedCache.Decimal.Literal
import FeedCache.Text.Hex
import FeedCache.Text.Pieces

namespace FeedCache.Toml

/-- The kinds of values. The inside of arrays, tables and points in time is not kept. -/
inductive Value where
  | boolean (value : Bool)
  | integer (value : Int)
  | number (value : Decimal.Number)
  | text (value : List Char)
  | moment
  | array
  | table
  deriving DecidableEq

/-- Digits may be grouped by single underscores, which are dropped. -/
def ungroup? (isDigit : Char → Bool) (text : List Char) : Option (List Char) :=
  let groups := Text.pieces (· == '_') text
  if groups.all fun group => !group.isEmpty && group.all isDigit then some groups.flatten else none

/-- A decimal integer has no zero in front of other digits. -/
def wholeDigits? (text : List Char) : Option (List Char) :=
  (ungroup? Char.isDigit text).filter fun digits => digits.length == 1 || digits.head? != some '0'

/-- Integers have 64 bits. -/
def integerLimit : Nat := 0x8000000000000000

/-- An integer in base two, eight or sixteen has a mark in front and no sign. -/
def readBased (base : Nat) (isDigit : Char → Bool) (text : List Char) : Option Value := do
  let digits ← ungroup? isDigit text
  let value := digits.foldl (fun number c => number * base + (Text.hexValue? c).getD 0) 0
  if value < integerLimit then some (.integer value) else none

def readInteger : List Char → Option Value
  | '0' :: 'x' :: digits => readBased 16 Text.isHexDigit digits
  | '0' :: 'o' :: digits => readBased 8 (fun c => '0' ≤ c && c ≤ '7') digits
  | '0' :: 'b' :: digits => readBased 2 (fun c => c == '0' || c == '1') digits
  | text => do
      let (negative, unsigned) := Decimal.splitSign text
      let digits ← wholeDigits? unsigned
      let value ← Decimal.readInteger integerLimit (if negative then '-' :: digits else digits)
      some (.integer value)

/-- The digits of an exponent, with its sign. -/
def exponentDigits? (text : List Char) : Option (List Char) :=
  let (negative, digits) := Decimal.splitSign text
  (ungroup? Char.isDigit digits).map fun digits => if negative then '-' :: digits else digits

/-- A number has a fraction, an exponent, or both. A number that is too large is refused, unless
it is negative. -/
def readFinite (negative : Bool) (unsigned : List Char) : Option Value := do
  let isMark (c : Char) : Bool := c == 'e' || c == 'E'
  let significand := unsigned.takeWhile fun c => !isMark c
  let whole := significand.takeWhile (· != '.')
  let fraction := significand.drop whole.length
  let mark := unsigned.drop significand.length
  let wholeDigits ← wholeDigits? whole
  let fractionDigits ← match fraction with
    | [] => some []
    | _ :: digits => ungroup? Char.isDigit digits
  let exponent ← match mark with
    | [] => some []
    | _ :: digits => (exponentDigits? digits).map ('e' :: ·)
  if fraction.isEmpty && mark.isEmpty then none
  else
    let number ← Decimal.readNumber
      (wholeDigits ++ (if fraction.isEmpty then [] else '.' :: fractionDigits) ++ exponent)
    match number with
    | .signed _ .infinite => if negative then some (.number (.signed true .infinite)) else none
    | .signed _ magnitude => some (.number (.signed negative magnitude))
    | .notANumber => none

def readNumber (text : List Char) : Option Value :=
  let (negative, unsigned) := Decimal.splitSign text
  if unsigned = "inf".toList then some (.number (.signed negative .infinite))
  else if unsigned = "nan".toList then some (.number .notANumber)
  else readFinite negative unsigned

/-- A number with exactly the given count of digits, between two bounds. -/
def readField (count low high : Nat) (text : List Char) : Option Nat :=
  let value := Decimal.digitsValue text
  if text.length = count ∧ text.all Char.isDigit = true ∧ low ≤ value ∧ value ≤ high then some value
  else none

def daysInMonth (year month : Nat) : Nat :=
  if month = 2 then
    if year % 4 = 0 ∧ (year % 100 ≠ 0 ∨ year % 400 = 0) then 29 else 28
  else if month = 4 ∨ month = 6 ∨ month = 9 ∨ month = 11 then 30
  else 31

/-- A date is a year, a month and a day of it. -/
def isDate (text : List Char) : Bool :=
  match Text.pieces (· == '-') text with
  | [year, month, day] =>
      ((do
        let year ← readField 4 0 9999 year
        let month ← readField 2 1 12 month
        readField 2 1 (daysInMonth year month) day) : Option Nat).isSome
  | _ => false

/-- A time is an hour, a minute and a second, which may have a fraction. -/
def isTime (text : List Char) : Bool :=
  match Text.pieces (· == ':') text with
  | [hour, minute, second] =>
      let fraction := second.drop 2
      (readField 2 0 23 hour).isSome && (readField 2 0 59 minute).isSome &&
        (readField 2 0 60 (second.take 2)).isSome &&
        (match fraction with
          | [] => true
          | '.' :: digits => !digits.isEmpty && digits.all Char.isDigit
          | _ => false)
  | _ => false

/-- A time may have an offset: the letter Z, or a sign with hours and minutes. -/
def isTimeWithOffset (text : List Char) : Bool :=
  let time := text.takeWhile fun c => c.isDigit || c == ':' || c == '.'
  isTime time &&
    (match text.drop time.length with
      | [] => true
      | ['Z'] => true
      | ['z'] => true
      | sign :: offset =>
          (sign == '+' || sign == '-') &&
            (match Text.pieces (· == ':') offset with
              | [hour, minute] => (readField 2 0 23 hour).isSome && (readField 2 0 59 minute).isSome
              | _ => false))

def isMoment (text : List Char) : Bool :=
  isTime text || isDate text ||
    (isDate (text.take 10) &&
      (match text.drop 10 with
        | 'T' :: time => isTimeWithOffset time
        | 't' :: time => isTimeWithOffset time
        | ' ' :: time => isTimeWithOffset time
        | _ => false))

/-- The characters of a value without quotes or brackets. -/
def isWordCharacter (c : Char) : Bool :=
  c.isAlphanum || c == '_' || c == '+' || c == '-' || c == '.' || c == ':'

/-- A space may stand between a date and a time. -/
def splitWord (text : List Char) : List Char × List Char :=
  let word := text.takeWhile isWordCharacter
  match text.drop word.length with
  | ' ' :: a :: b :: ':' :: rest =>
      if isDate word && a.isDigit && b.isDigit then
        let time := (a :: b :: ':' :: rest).takeWhile isWordCharacter
        (word ++ ' ' :: time, text.drop (word.length + 1 + time.length))
      else (word, text.drop word.length)
  | rest => (word, rest)

/-- A truth value, a number or a point in time at the start of a text. -/
def readWord (text : List Char) : Option (Value × List Char) :=
  let (word, rest) := splitWord text
  let value :=
    if word = "true".toList then some (.boolean true)
    else if word = "false".toList then some (.boolean false)
    else if isMoment word then some .moment
    else (readInteger word).or (readNumber word)
  value.map fun value => (value, rest)

end FeedCache.Toml
