/-
This file writes binary numbers with the fewest digits that read back.
-/
import FeedCache.Decimal.Binary

namespace FeedCache.Decimal

/-- The fractions that are rounded to a magnitude, on a grid of powers of ten. All four numbers
are multiples of one unit. -/
structure Window where
  value : Nat
  low : Nat
  high : Nat
  step : Nat
  /-- The ends belong to the window. -/
  closed : Bool

/-- The window of a magnitude on the grid of the given power of ten. Below a power of two the
next magnitude is only half as far. -/
def Window.of (mantissa : Nat) (exponent place : Int) : Window :=
  let quarter : Int := exponent - 2
  let unit := Nat.pow 2 quarter.toNat * Nat.pow 10 (-place).toNat
  let below := if mantissa = leastMantissa ∧ leastExponent < exponent then 1 else 2
  { value := 4 * mantissa * unit
    low := (4 * mantissa - below) * unit
    high := (4 * mantissa + 2) * unit
    step := Nat.pow 2 (-quarter).toNat * Nat.pow 10 place.toNat
    closed := mantissa % 2 == 0 }

def Window.holds (window : Window) (count : Nat) : Bool :=
  let point := count * window.step
  if window.closed then window.low ≤ point && point ≤ window.high
  else window.low < point && point < window.high

/-- The grid point in the window that is nearest to the value. -/
def Window.nearest? (window : Window) : Option Nat :=
  let below := window.value / window.step
  let rest := window.value % window.step
  match window.holds below, window.holds (below + 1) with
  | true, true => some (if 2 * rest ≤ window.step then below else below + 1)
  | true, false => some below
  | false, true => some (below + 1)
  | false, false => none

/-- The place of the first digit of a positive magnitude. -/
def firstPlace (mantissa : Nat) (exponent : Int) : Int :=
  let (above, below) := scaled mantissa 1 (-exponent)
  if below ≤ above then (Nat.toDigits 10 (above / below)).length - 1
  else -((Nat.toDigits 10 (below / above)).length : Int)

/-- The digits on the coarsest grid that has a point in the window. -/
def digitsFrom (mantissa : Nat) (exponent : Int) : Nat → Int → Nat × Int
  | 0, place => (mantissa, place)
  | grids + 1, place =>
      match (Window.of mantissa exponent place).nearest? with
      | some count => (count, place)
      | none => digitsFrom mantissa exponent grids (place - 1)

/-- A positive magnitude as a natural number times a power of ten, with the fewest digits. -/
def shortest (mantissa : Nat) (exponent : Int) : Nat × Int :=
  digitsFrom mantissa exponent 20 (firstPlace mantissa exponent)

/-- A natural number times a power of ten, with all its places and without zeros at the end of a
fraction. -/
def positional (digits : Nat) (place : Int) : List Char :=
  if 0 ≤ place then (toString (digits * Nat.pow 10 place.toNat)).toList
  else
    let unit := Nat.pow 10 (-place).toNat
    let fraction := (toString (digits % unit)).toList
    let padded := List.replicate ((-place).toNat - fraction.length) '0' ++ fraction
    let shown := (padded.reverse.dropWhile (· == '0')).reverse
    (toString (digits / unit)).toList ++ (if shown.isEmpty then [] else '.' :: shown)

def Magnitude.toList : Magnitude → List Char
  | .infinite => ['i', 'n', 'f']
  | .finite mantissa exponent =>
      if mantissa = 0 then ['0']
      else
        let (digits, place) := shortest mantissa exponent
        positional digits place

/-- The text of a number, without an exponent. -/
def Number.toList : Number → List Char
  | .notANumber => ['N', 'a', 'N']
  | .signed negative magnitude => if negative then '-' :: magnitude.toList else magnitude.toList

end FeedCache.Decimal
