/-
This file says what a setting can be given as, and how it fits its field.
-/
import FeedCache.Decimal.Shortest
import FeedCache.Text.Quoted

namespace FeedCache.Settings

/-- What a setting is given as. What is inside sequences and maps fits no field and is not kept. -/
inductive Value where
  | boolean (value : Bool)
  | unsigned (value : Nat)
  | signed (value : Int)
  | number (value : Decimal.Number)
  | text (value : String)
  | sequence
  | map
  deriving DecidableEq

/-- The value as it is shown in messages. -/
def Value.describe : Value → String
  | .boolean value => "bool " ++ (if value then "true" else "false")
  | .unsigned value => "unsigned int \x60" ++ toString value ++ "\x60"
  | .signed value => "signed int \x60" ++ toString value ++ "\x60"
  | .number value => "float \x60" ++ String.ofList value.toList ++ "\x60"
  | .text value => "string " ++ Text.quote value
  | .sequence => "sequence"
  | .map => "map"

/-- What a field takes: natural numbers below a limit, texts, or paths. -/
inductive Expectation where
  | word32
  | word64
  | size
  | text
  | path
  deriving DecidableEq

def Expectation.name : Expectation → String
  | .word32 => "u32"
  | .word64 => "u64"
  | .size => "usize"
  | .text => "a string"
  | .path => "path string"

/-- A value of the wrong kind, or an integer out of range. -/
inductive Misfit where
  | wrongKind (value : Value) (expected : Expectation)
  | outOfRange (value : Value) (expected : Expectation)
  deriving DecidableEq

def Misfit.message : Misfit → String
  | .wrongKind value expected =>
      "invalid type: found " ++ value.describe ++ ", expected " ++ expected.name
  | .outOfRange value expected =>
      "invalid value " ++ value.describe ++ ", expected " ++ expected.name

/-- The first number that is too large for a field. -/
def Expectation.limit : Expectation → Nat
  | .word32 => 0x100000000
  | _ => 0x10000000000000000

/-- The natural number that a value gives to a field. -/
def Value.toNatural (expected : Expectation) (value : Value) : Except Misfit Nat :=
  match value with
  | .unsigned count =>
      if count < expected.limit then .ok count else .error (.outOfRange value expected)
  | .signed integer =>
      if 0 ≤ integer ∧ integer < expected.limit then .ok integer.toNat
      else .error (.outOfRange value expected)
  | _ => .error (.wrongKind value expected)

/-- The text that a value gives to a field. -/
def Value.toText (expected : Expectation) (value : Value) : Except Misfit String :=
  match value with
  | .text content => .ok content
  | _ => .error (.wrongKind value expected)

end FeedCache.Settings
