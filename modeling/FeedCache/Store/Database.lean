/-
This file says what a store file holds, and brings it to the schema that is understood.
-/
import FeedCache.Store.Fault
import FeedCache.Store.Table

namespace FeedCache.Store

/-- A database holds the list of its schema versions and the table of entries. Either may be
missing where another program has been at work. -/
structure Database where
  versions : Option (List Int)
  entries : Option Table
  deriving DecidableEq

namespace Database

/-- A file without any table. -/
def blank : Database := ⟨none, none⟩

/-- The highest recorded version, zero if there is none. -/
def version (database : Database) : Int := ((database.versions.getD []).max?).getD 0

def versionList (database : Database) : Except Fault (List Int) :=
  match database.versions with
  | some versions => .ok versions
  | none => .error (.missingTable "_migrations")

/-- A schema version is recorded; it must be a new one. -/
def addVersion (database : Database) (version : Int) : Except Fault Database := do
  let versions ← database.versionList
  if versions.contains version then throw .versionTaken
  return { database with versions := some (versions ++ [version]) }

/-- The table of entries is made where there is none. -/
def makeEntries (database : Database) : Database :=
  { database with entries := some (database.entries.getD .empty) }

/-- The list of versions is made where there is none. -/
def makeVersions (database : Database) : Database :=
  { database with versions := some (database.versions.getD []) }

end Database

/-- A change of the schema, with the version that is recorded for it. -/
structure Migration where
  version : Int
  change : Database → Database

/-- All changes of the schema, in increasing order of their versions. -/
def migrations : List Migration := [⟨latestVersion, Database.makeEntries⟩]

namespace Database

def apply (database : Database) (migration : Migration) : Except Fault Database :=
  (migration.change database).addVersion migration.version

/-- A database of a newer schema is refused. Any other one gets the migrations that are newer than
it is. -/
def migrate (database : Database) : Except Fault Database :=
  let database := database.makeVersions
  let current := database.version
  if latestVersion < current then .error (.newerSchema current)
  else (migrations.filter fun migration => current < migration.version).foldlM apply database

/-- The database has the latest schema. -/
def isCurrent (database : Database) : Bool :=
  database.versions.isSome && database.version == latestVersion

/-- A new store. -/
def fresh : Database := ⟨some [latestVersion], some .empty⟩

theorem migrateBlank : migrate blank = .ok fresh := rfl

end Database

end FeedCache.Store
