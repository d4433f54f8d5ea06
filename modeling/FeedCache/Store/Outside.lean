/-
This file changes a store as other programs may do it.

Fields take the kind of their column where they can: keys become text, and a text that spells a
number becomes that number where a mark of failure is kept.
-/
import FeedCache.Decimal.Literal
import FeedCache.Store.Entries

namespace FeedCache.Store

/-- Integers have 64 bits. -/
def integerLimit : Int := 0x8000000000000000

def fitsInteger (value : Int) : Bool := -integerLimit ≤ value && value < integerLimit

/-- The integer that a magnitude is equal to, if there is one. -/
def wholeMagnitude? : Decimal.Magnitude → Option Nat
  | .infinite => none
  | .finite mantissa exponent =>
      if 0 ≤ exponent then some (mantissa * Nat.pow 2 exponent.toNat)
      else
        let unit := Nat.pow 2 (-exponent).toNat
        if mantissa % unit = 0 then some (mantissa / unit) else none

/-- A number that is whole and not at the end of the range is kept as an integer. -/
def Cell.ofNumber (value : Decimal.Number) : Cell :=
  match value with
  | .signed negative magnitude =>
      match wholeMagnitude? magnitude with
      | some whole =>
          let exact : Int := if negative then -(whole : Int) else whole
          if -integerLimit < exact ∧ exact < integerLimit - 1 then .integer exact else .number value
      | none => .number value
  | .notANumber => .null

/-- The blanks that may stand around a number. -/
def isNumberGap (c : Char) : Bool := c == ' ' || (9 ≤ c.toNat && c.toNat ≤ 13)

/-- A text in a column of integers becomes a number if it spells one. -/
def Cell.asInteger : Cell → Cell
  | .text value =>
      let word := ((value.toList.dropWhile isNumberGap).reverse.dropWhile isNumberGap).reverse
      match (Decimal.readInteger integerLimit.toNat word).filter fitsInteger with
      | some exact => .integer exact
      | none => ((Decimal.readNumber word).map Cell.ofNumber).getD (.text value)
  | other => other

/-- A key is kept as a text or a blob. -/
def Key.ofCell : Cell → Except Fault Key
  | .text value => .ok (.text value)
  | .blob bytes => .ok (.blob bytes)
  | .integer value => .ok (.text (toString value))
  | .number value => .ok (.text (String.ofList value.toList))
  | .null => .error .keyMissing

namespace Database

/-- A row is put into the table in place of one with the same key. A missing mark is zero. -/
def putRow (database : Database) (key body failed : Cell) (storedAt : String) :
    Except Fault Database := do
  let table ← database.table
  let key ← Key.ofCell key
  let mark := match failed with
    | .null => .integer 0
    | other => other.asInteger
  return { database with entries := some (table.insert ⟨key, body, mark, .text storedAt⟩) }

def dropVersion (database : Database) (version : Int) : Except Fault Database := do
  let versions ← database.versionList
  return { database with versions := some (versions.filter (· != version)) }

def dropEntries (database : Database) : Except Fault Database := do
  let _ ← database.table
  return { database with entries := none }

def dropVersions (database : Database) : Except Fault Database := do
  let _ ← database.versionList
  return { database with versions := none }

/-- The recorded versions in increasing order. -/
def sortedVersions (database : Database) : Except Fault (List Int) := do
  let versions ← database.versionList
  return versions.mergeSort (· ≤ ·)

end Database

end FeedCache.Store
