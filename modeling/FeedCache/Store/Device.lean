/-
This file says what a store is kept on.

A device keeps a database until another one is written in its place. It may refuse the other one: it
can be for reading only, be full, or have no room for so large a row. What it keeps can be read.
-/
import FeedCache.Store.Database

namespace FeedCache.Store

/-- What a store is kept on, by the faults with which it refuses one database after another. -/
structure Device where
  refuses : Database → Database → Option Fault

/-- The number of bytes of a text or a blob. -/
def Cell.size : Cell → Nat
  | .text value => value.utf8ByteSize
  | .blob bytes => bytes.size
  | .null | .integer _ | .number _ => 0

def Key.size : Key → Nat
  | .text value => value.utf8ByteSize
  | .blob bytes => bytes.size

def Row.size (row : Row) : Nat :=
  row.key.size + row.body.size + row.failed.size + row.storedAt.size

namespace Device

/-- Nothing is refused. -/
def free : Device := ⟨fun _ _ => none⟩

/-- Everything is refused. -/
def readOnly : Device := ⟨fun _ _ => some .readOnly⟩

/-- Rows with more bytes than a limit are refused. -/
def limited (limit : Nat) : Device :=
  ⟨fun _ after =>
    if ((after.entries.map Table.rows).getD []).any fun row => limit < row.size then some .tooBig
    else none⟩

/-- The limit that stores have. -/
def standard : Device := limited 1000000000

/-- A database is written in place of the one before. -/
def write (device : Device) (before after : Database) : Except Fault Database :=
  match device.refuses before after with
  | some fault => .error fault
  | none => .ok after

/-- A database is brought to the latest schema. Nothing is written if it has that already. -/
def migrate (device : Device) (database : Database) : Except Fault Database :=
  if database.isCurrent then database.migrate
  else do device.write database (← database.migrate)

end Device

end FeedCache.Store
