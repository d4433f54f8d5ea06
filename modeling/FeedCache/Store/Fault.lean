/-
This file names what can go wrong with a store.
-/
import FeedCache.Disk.Fault
import FeedCache.Store.Cell
import FeedCache.Text.Quoted

namespace FeedCache.Store

/-- The columns that are read, with their places in the query. -/
structure Column where
  index : Nat
  name : String
  deriving DecidableEq

/-- The reasons why a store cannot be opened, read or written. -/
inductive Fault where
  | disk (fault : Disk.Fault)
  | cannotOpen (path : String)
  | noJournal
  | notADatabase
  | newerSchema (version : Int)
  | missingTable (name : String)
  | wrongKind (kind : Kind) (column : Column)
  | outOfRange (value : Int) (index : Nat)
  | keyMissing
  | versionTaken
  | readOnly
  | tooBig
  deriving DecidableEq

/-- The highest schema version that is understood. -/
def latestVersion : Int := 1

/-- The text of the fault alone. -/
def Fault.cause : Fault → String
  | .disk fault => fault.message
  | .cannotOpen path => "unable to open database file: " ++ path
  | .noJournal => "unable to open database file"
  | .notADatabase => "file is not a database"
  | .newerSchema version =>
      "store schema version " ++ toString version ++ " is newer than supported version " ++
        toString latestVersion
  | .missingTable name => "no such table: " ++ name
  | .wrongKind kind column =>
      "Invalid column type " ++ kind.name ++ " at index: " ++ toString column.index ++
        ", name: " ++ column.name
  | .outOfRange value index => "Integer " ++ toString value ++ " out of range at index " ++
      toString index
  | .keyMissing => "NOT NULL constraint failed: entries.key"
  | .versionTaken => "UNIQUE constraint failed: _migrations.version"
  | .readOnly => "attempt to write a readonly database"
  | .tooBig => "string or blob too big"

/-- The text of the fault with its area in front. -/
def Fault.message (fault : Fault) : String :=
  match fault with
  | .disk _ => "STORE_IO: " ++ fault.cause
  | .newerSchema _ => "STORE_ERROR: migration failed: " ++ fault.cause
  | _ => "STORE_ERROR: Error(" ++ Text.quote fault.cause ++ ")"

end FeedCache.Store
