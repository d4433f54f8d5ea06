/-
This file follows a store through everything that can happen to its file but the loss of a table.

Main statements: a migration refuses a newer store and keeps the entries of any other one; and a
store that was made by an opening has, whenever it opens again, the entries that were written
since.
-/
import FeedCache.Proofs.Disk.Opening
import FeedCache.Proofs.Store.Operation
import FeedCache.Store.Outside

namespace FeedCache.Store

/-- What can happen to a store: it is opened, used and closed, and another program records a schema
version in its file or takes one away. -/
inductive Event where
  | opening
  | use (operation : Operation)
  | closing
  | versionAdded (version : Int)
  | versionDropped (version : Int)
  deriving DecidableEq

def Event.operation? : Event → Option Operation
  | .use operation => some operation
  | _ => none

/-- The database after an operation that succeeds. -/
def Operation.change (operation : Operation) (database : Database) : Except Fault Database :=
  (operation.run database).map Prod.snd

/-- What an operation leaves of a database; one that fails changes nothing. -/
def Operation.leave (operation : Operation) (database : Database) : Database :=
  (operation.change database).toOption.getD database

/-- What operations leave of a database, one after another. -/
def Database.leaveAll (database : Database) (operations : List Operation) : Database :=
  operations.foldl (fun database operation => operation.leave database) database

/-- A disk with a store on it that may be open. -/
structure Situation where
  disk : Disk
  isOpen : Bool

namespace Situation

/-- The file of the store is changed as it is, without an opening. -/
def edit (situation : Situation) (start : Place) (path : String)
    (change : Database → Except Fault Database) : Situation :=
  { situation with disk := (situation.disk.editStore start path change).2 }

/-- A store that cannot be opened is closed, and one that is closed is not used. -/
def next (start : Place) (path : String) (situation : Situation) : Event → Situation
  | .opening =>
      let (opened, disk) := situation.disk.openStore start path
      ⟨disk, opened.isOk⟩
  | .use operation =>
      if situation.isOpen then situation.edit start path operation.change else situation
  | .closing => { situation with isOpen := false }
  | .versionAdded version => situation.edit start path (Database.addVersion · version)
  | .versionDropped version => situation.edit start path (Database.dropVersion · version)

def after (start : Place) (path : String) (situation : Situation) (events : List Event) :
    Situation :=
  events.foldl (next start path) situation

/-- The operations that found the store open, in order. -/
def performed (start : Place) (path : String) (situation : Situation) : List Event → List Operation
  | [] => []
  | event :: events =>
      (if situation.isOpen then event.operation?.toList else []) ++
        performed start path (situation.next start path event) events

end Situation

/-- What an operation leaves of a table does not depend on the recorded versions, which stay. -/
theorem Operation.leave_table (operation : Operation) (table : Table) :
    ∃ after, ∀ versions, operation.leave ⟨versions, some table⟩ = ⟨versions, some after⟩ := by
  cases operation with
  | put key payload time => exact ⟨_, fun _ => rfl⟩
  | delete key => exact ⟨_, fun _ => rfl⟩
  | deleteKeys keys => cases keys <;> exact ⟨_, fun _ => rfl⟩
  | get key =>
      refine ⟨table, fun versions => ?_⟩
      rw [leave, change, run]
      cases Database.get ⟨versions, some table⟩ key <;> rfl
  | hasKey key => exact ⟨_, fun _ => rfl⟩
  | keys =>
      refine ⟨table, fun versions => ?_⟩
      rw [leave, change, run]
      cases Database.keys ⟨versions, some table⟩ <;> rfl
  | size => exact ⟨_, fun _ => rfl⟩
  | summaries =>
      refine ⟨table, fun versions => ?_⟩
      rw [leave, change, run]
      cases Database.summaries ⟨versions, some table⟩ <;> rfl

theorem Database.entries_addVersion {database changed : Database} {version : Int}
    (success : database.addVersion version = .ok changed) : changed.entries = database.entries := by
  obtain ⟨_ | versions, entries⟩ := database
  · cases success
  · simp only [addVersion, versionList, bind, Except.bind] at success
    split at success <;> cases success
    rfl

theorem Database.entries_dropVersion {database changed : Database} {version : Int}
    (success : database.dropVersion version = .ok changed) : changed.entries = database.entries := by
  obtain ⟨_ | versions, entries⟩ := database <;> cases success
  rfl

namespace Situation

/-- The store is on the disk and can be reached, and these are its entries. -/
structure Keeps (situation : Situation) (place : Place) (table : Table) : Prop where
  directories : situation.disk.HasDirectories place.dropLast
  stored : ∃ database, situation.disk.node? place = some (.store database) ∧
    database.entries = some table

variable {situation : Situation} {start : Place} {path : String} {table : Table}

theorem Keeps.below {place : Place} (keeps : situation.Keeps place table) : place ≠ [] := by
  rintro rfl
  obtain ⟨database, found, -⟩ := keeps.stored
  simp [Disk.node?] at found

/-- A store that is put in the place of the one that is there. -/
theorem Keeps.set {place : Place} (keeps : situation.Keeps place table) (isOpen : Bool)
    {changed : Database} {after : Table} (held : changed.entries = some after) :
    Keeps ⟨situation.disk.set place (.store changed), isOpen⟩ place after where
  directories := keeps.directories.set keeps.below _
  stored := ⟨changed, by rw [Disk.node?_set _ keeps.below, if_pos rfl], held⟩

/-- A change of the file that succeeds changes the entries, and one that fails does not. -/
theorem Keeps.edit (keeps : situation.Keeps (Place.ofPath start path) table)
    {change : Database → Except Fault Database} {after : Table}
    (changes : ∀ database, database.entries = some table →
      ((change database).toOption.getD database).entries = some after) :
    (situation.edit start path change).Keeps (Place.ofPath start path) after := by
  obtain ⟨database, found, held⟩ := keeps.stored
  have left := changes database held
  cases changed : change database with
  | error fault =>
      have same : situation.edit start path change = situation := by
        simp [Situation.edit, Disk.editStore, Disk.changeStore, found, changed, bind, Except.bind]
      rw [changed] at left
      rw [same]
      exact ⟨keeps.directories, database, found, left⟩
  | ok edited =>
      have same : situation.edit start path change =
          ⟨situation.disk.set (Place.ofPath start path) (.store edited), situation.isOpen⟩ := by
        simp [Situation.edit, Disk.editStore, Disk.changeStore, found, changed, bind, Except.bind,
          pure, Except.pure]
      rw [changed] at left
      rw [same]
      exact keeps.set situation.isOpen left

/-- An opening fails and changes nothing, or it finds the entries. -/
theorem Keeps.opening (keeps : situation.Keeps (Place.ofPath start path) table) :
    (∃ fault, situation.disk.openStore start path = (.error fault, situation.disk)) ∨
      ∃ opened, situation.disk.openStore start path = (.ok opened,
          situation.disk.set (Place.ofPath start path) (.store opened)) ∧
        opened.entries = some table := by
  obtain ⟨database, found, held⟩ := keeps.stored
  have opening : situation.disk.openStore start path =
      situation.disk.bringUp (Place.ofPath start path) database := by
    simp [Disk.openStore, Disk.makeDirectories_present keeps.directories, found]
  rw [opening, Disk.bringUp, Device.migrate_free]
  cases migrated : database.migrate with
  | error fault => exact .inl ⟨fault, rfl⟩
  | ok opened => exact .inr ⟨opened, rfl, Database.migrate_entries migrated held⟩

/-- The entries change with the operations on the open store, and with no other event. -/
theorem Keeps.next (keeps : situation.Keeps (Place.ofPath start path) table) (event : Event) :
    ∃ left, (situation.next start path event).Keeps (Place.ofPath start path) left ∧
      ∀ versions, Database.leaveAll ⟨versions, some table⟩
        (if situation.isOpen then event.operation?.toList else []) = ⟨versions, some left⟩ := by
  cases event with
  | opening =>
      refine ⟨table, ?_, fun _ => by simp [Event.operation?, Database.leaveAll]⟩
      rcases keeps.opening with ⟨fault, failed⟩ | ⟨opened, success, held⟩
      · simp only [Situation.next, failed]
        exact ⟨keeps.directories, keeps.stored⟩
      · simp only [Situation.next, success]
        exact keeps.set _ held
  | use operation =>
      by_cases isOpen : situation.isOpen
      · obtain ⟨left, leaves⟩ := operation.leave_table table
        refine ⟨left, ?_, fun versions => ?_⟩
        · rw [Situation.next, if_pos isOpen]
          refine keeps.edit fun database held => ?_
          obtain ⟨versions, entries⟩ := database
          cases held
          exact congrArg Database.entries (leaves versions)
        · rw [if_pos isOpen]
          exact leaves versions
      · refine ⟨table, ?_, fun versions => ?_⟩
        · rwa [Situation.next, if_neg isOpen]
        · rw [if_neg isOpen]
          rfl
  | closing =>
      exact ⟨table, ⟨keeps.directories, keeps.stored⟩,
        fun _ => by simp [Event.operation?, Database.leaveAll]⟩
  | versionAdded version =>
      refine ⟨table, keeps.edit fun database held => ?_,
        fun _ => by simp [Event.operation?, Database.leaveAll]⟩
      cases added : database.addVersion version with
      | error fault => exact held
      | ok changed => exact (Database.entries_addVersion added).trans held
  | versionDropped version =>
      refine ⟨table, keeps.edit fun database held => ?_,
        fun _ => by simp [Event.operation?, Database.leaveAll]⟩
      cases dropped : database.dropVersion version with
      | error fault => exact held
      | ok changed => exact (Database.entries_dropVersion dropped).trans held

/-- After any events the entries are those that the operations on the open store have left. -/
theorem Keeps.after (keeps : situation.Keeps (Place.ofPath start path) table)
    (events : List Event) :
    ∃ left, (situation.after start path events).Keeps (Place.ofPath start path) left ∧
      ∀ versions, Database.leaveAll ⟨versions, some table⟩
        (situation.performed start path events) = ⟨versions, some left⟩ := by
  induction events generalizing situation table with
  | nil => exact ⟨table, keeps, fun _ => rfl⟩
  | cons event events hypothesis =>
      obtain ⟨between, kept, leaves⟩ := keeps.next event
      obtain ⟨left, later, rest⟩ := hypothesis kept
      refine ⟨left, later, fun versions => ?_⟩
      rw [performed, Database.leaveAll, List.foldl_append]
      exact (congrArg (Database.leaveAll · _) (leaves versions)).trans (rest versions)

/-- A store that is made by an opening starts without entries. -/
theorem Keeps.made {disk opened : Disk} {database : Database}
    (absent : ∀ before, disk.node? (Place.ofPath start path) ≠ some (.store before))
    (opening : disk.openStore start path = (.ok database, opened)) :
    Keeps ⟨opened, true⟩ (Place.ofPath start path) .empty := by
  have ready := (Disk.openStore_spec disk start path).2 database (congrArg Prod.fst opening)
  rw [opening] at ready
  refine ⟨ready.directories, database, ready.found, ?_⟩
  rcases Disk.openStore_migrates (congrArg Prod.fst opening) with begun | ⟨before, found, -⟩
  · exact Database.migrate_empty begun (.inr ⟨rfl, by decide⟩)
  · exact absurd found (absent before)

end Situation

/-- A migration fails exactly if a newer version is recorded, and then nothing has changed. Otherwise
it records the latest version where it is missing, keeps every entry, and changes nothing when it
is repeated. A store that an opening has made has its table of entries whenever it opens again,
with what the operations on it have left, whatever versions were recorded or taken away. -/
theorem migrate_keeps_entries :
    (∀ database : Database,
      (∀ fault, database.migrate = .error fault ↔
        fault = .newerSchema database.version ∧
          ∃ version ∈ database.recorded, latestVersion < version) ∧
      (∀ fault, database.migrate = .error fault → ∀ disk place,
        Disk.bringUp disk place database = (.error fault, disk)) ∧
      ((∀ version ∈ database.recorded, version ≤ latestVersion) →
        ∃ migrated, database.migrate = .ok migrated ∧
          migrated.version = latestVersion ∧
          (latestVersion ∈ database.recorded ∧ migrated.recorded = database.recorded ∨
            latestVersion ∉ database.recorded ∧
              migrated.recorded = database.recorded ++ [latestVersion]) ∧
          (∀ table, database.entries = some table → migrated.entries = some table) ∧
          migrated.migrate = .ok migrated)) ∧
    ∀ (disk opened : Disk) (start : Place) (path : String) (database : Database),
      (∀ before, disk.node? (Place.ofPath start path) ≠ some (.store before)) →
      disk.openStore start path = (.ok database, opened) →
      ∀ events found reopened,
        ((Situation.mk opened true).after start path events).disk.openStore start path =
          (.ok found, reopened) →
        ∃ table, found.entries = some table ∧
          (Database.fresh.leaveAll ((Situation.mk opened true).performed start path events)).entries =
            some table ∧
          ((Situation.mk opened true).after start path events).disk.table
            (Place.ofPath start path) = table := by
  constructor
  · intro database
    refine ⟨fun fault => Database.migrate_eq_error, fun fault failed disk place => ?_, ?_⟩
    · rw [Disk.bringUp, Device.migrate_free, failed]
    · intro known
      cases migrated : database.migrate with
      | error fault =>
          obtain ⟨-, version, member, newer⟩ := Database.migrate_eq_error.1 migrated
          exact absurd (known version member) (Int.not_le.2 newer)
      | ok after =>
          obtain ⟨latest, recorded, -⟩ := Database.migrate_ok migrated
          exact ⟨after, rfl, latest, Database.recorded_migrate migrated,
            fun table => Database.migrate_entries migrated,
            Database.migrate_current latest recorded⟩
  · intro disk opened start path database absent opening events found reopened again
    obtain ⟨table, keeps, leaves⟩ := (Situation.Keeps.made absent opening).after events
    obtain ⟨before, stored, held⟩ := keeps.stored
    refine ⟨table, ?_, congrArg Database.entries (leaves _), ?_⟩
    · rcases keeps.opening with ⟨fault, failed⟩ | ⟨other, success, present⟩
      · rw [failed] at again
        cases again
      · rw [success] at again
        cases again
        exact present
    · rw [Disk.table, stored]
      simp [held]

/-- Entries that are there when the first migration is applied once more. -/
def sampleTable : Table := Table.empty.insert (Payload.toRow (.body ⟨#[7]⟩) "a" "noon")

/-- A newer version keeps a store from being opened, and so from being used; when all versions are
taken away it opens again. -/
def sampleEvents : List Event :=
  [.use (.put "a" (.body ⟨#[7]⟩) "noon"), .versionAdded 2, .opening, .use (.delete "a"),
    .versionDropped 2, .versionDropped 1]

theorem migrate_keeps_entries_sample :
    (∃ migrated, Database.migrate ⟨some [-3, 0], some sampleTable⟩ = .ok migrated ∧
      migrated.recorded = [-3, 0, 1] ∧ migrated.entries = some sampleTable) ∧
    ∃ database opened found reopened,
      Disk.empty.openStore [] "news.db" = (.ok database, opened) ∧
      ((Situation.mk opened true).after [] "news.db" sampleEvents).disk.openStore [] "news.db" =
        (.ok found, reopened) ∧ found.entries = some sampleTable := by
  constructor
  · obtain ⟨migrated, success, -, recorded, entries, -⟩ :=
      (migrate_keeps_entries.1 ⟨some [-3, 0], some sampleTable⟩).2.2 (by decide)
    rcases recorded with ⟨member, -⟩ | ⟨-, added⟩
    · exact absurd member (by decide)
    · exact ⟨migrated, success, added, entries sampleTable rfl⟩
  · have opening : Disk.empty.openStore [] "news.db" = (.ok .fresh, _) := rfl
    have again : ((Situation.mk (Disk.empty.openStore [] "news.db").2 true).after [] "news.db"
        sampleEvents).disk.openStore [] "news.db" = (.ok _, _) := rfl
    obtain ⟨table, found, left, -⟩ :=
      migrate_keeps_entries.2 _ _ _ _ _ (by rintro before ⟨⟩) opening sampleEvents _ _ again
    refine ⟨_, _, _, _, opening, again, found.trans (left.symm.trans rfl)⟩

end FeedCache.Store
