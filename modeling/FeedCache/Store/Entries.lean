/-
This file reads and writes the entries of a store.

An entry is a fetched body, possibly empty, or the mark that a fetch has failed.
-/
import FeedCache.Decimal.Shortest
import FeedCache.Store.Device

namespace FeedCache.Store

/-- What is stored for a key. -/
inductive Payload where
  | body (bytes : ByteArray)
  | failed
  deriving DecidableEq

def Payload.body? : Payload → Option ByteArray
  | .body bytes => some bytes
  | .failed => none

def Payload.isFailed : Payload → Bool
  | .body _ => false
  | .failed => true

/-- A body is stored as a blob, a failure as no body with the mark one. -/
def Payload.toRow (payload : Payload) (key storedAt : String) : Row :=
  match payload with
  | .body bytes => ⟨.text key, .blob bytes, .integer 0, .text storedAt⟩
  | .failed => ⟨.text key, .null, .integer 1, .text storedAt⟩

/-- A body is a blob or absent. -/
def Cell.toBody : Cell → Except Fault (Option ByteArray)
  | .null => .ok none
  | .blob bytes => .ok (some bytes)
  | other => .error (.wrongKind other.kind ⟨0, "body"⟩)

/-- A mark is an integer of 32 bits, and only one means a failure. -/
def Cell.toMark (index : Nat) : Cell → Except Fault Bool
  | .integer value =>
      if -0x80000000 ≤ value ∧ value < 0x80000000 then .ok (value == 1) else .error (.outOfRange value index)
  | other => .error (.wrongKind other.kind ⟨index, "failed"⟩)

/-- The payload of a row; a missing body without the mark of a failure is empty. -/
def Row.payload (row : Row) : Except Fault Payload := do
  let body ← row.body.toBody
  let failed ← row.failed.toMark 1
  return if failed then .failed else .body (body.getD .empty)

/-- A key that is read must be a text. -/
def Key.toText : Key → Except Fault String
  | .text value => .ok value
  | .blob _ => .error (.wrongKind .blob ⟨0, "key"⟩)

/-- The length of a field: the bytes of a blob, the characters of a text before its first zero,
the digits of a number. -/
def Cell.length : Cell → Nat
  | .null => 0
  | .integer value => (toString value).length
  | .number value => value.toList.length
  | .text value => (value.toList.takeWhile (· != '\x00')).length
  | .blob bytes => bytes.size

/-- An entry as it is listed. -/
structure Summary where
  key : String
  size : Nat
  failed : Bool
  storedAt : String
  deriving DecidableEq

def Cell.toTime : Cell → Except Fault String
  | .text value => .ok value
  | other => .error (.wrongKind other.kind ⟨3, "stored_at"⟩)

def Row.summary (row : Row) : Except Fault Summary := do
  let key ← row.key.toText
  let failed ← row.failed.toMark 2
  let storedAt ← row.storedAt.toTime
  return ⟨key, row.body.length, failed, storedAt⟩

namespace Database

def table (database : Database) : Except Fault Table :=
  match database.entries with
  | some table => .ok table
  | none => .error (.missingTable "entries")

/-- The payload under a key. -/
def get (database : Database) (key : String) : Except Fault (Option Payload) := do
  let table ← database.table
  match table.find? (.text key) with
  | none => return none
  | some row => return some (← row.payload)

/-- The payload is stored under the key; the last one stored counts. -/
def put (database : Database) (key : String) (payload : Payload) (storedAt : String)
    (device : Device := .free) : Except Fault Database := do
  let table ← database.table
  device.write database
    { database with entries := some (table.insert (payload.toRow key storedAt)) }

def hasKey (database : Database) (key : String) : Except Fault Bool := do
  let table ← database.table
  return (table.find? (.text key)).isSome

/-- The entry under a key is taken away; the answer is whether there was one. -/
def delete (database : Database) (key : String) (device : Device := .free) :
    Except Fault (Bool × Database) := do
  let table ← database.table
  let rest ← device.write database { database with entries := some (table.erase (.text key)) }
  return ((table.find? (.text key)).isSome, rest)

/-- All keys in increasing order. -/
def keys (database : Database) : Except Fault (List String) := do
  let table ← database.table
  table.rows.mapM fun row => row.key.toText

/-- The entries under the keys are taken away, all of them or none; the answer is how many there
were. -/
def deleteKeys (database : Database) (keys : List String) (device : Device := .free) :
    Except Fault (Nat × Database) :=
  if keys.isEmpty then .ok (0, database)
  else do
    let table ← database.table
    let (count, table) := keys.foldl
      (fun (count, table) key =>
        (if (table.find? (.text key)).isSome then count + 1 else count, table.erase (.text key)))
      (0, table)
    return (count, ← device.write database { database with entries := some table })

def size (database : Database) : Except Fault Nat := do
  let table ← database.table
  return table.size

/-- All entries in increasing order of their keys. -/
def summaries (database : Database) : Except Fault (List Summary) := do
  let table ← database.table
  table.rows.mapM Row.summary

end Database

end FeedCache.Store
