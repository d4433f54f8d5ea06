/-
This file says what bringing a store to the latest schema does.

Main statements: the migrations that are newer than a store apply one after another without ever
recording a version twice, the entries stay as they are, and a second time changes nothing.
-/
import FeedCache.Store.Database

namespace FeedCache.Store

theorem migrations_ascending :
    migrations.Pairwise fun first second => first.version < second.version :=
  List.pairwise_singleton _ _

/-- A migration changes the tables, and leaves it to the record which version they have. -/
theorem versions_change {migration : Migration} (member : migration ∈ migrations)
    (database : Database) : (migration.change database).versions = database.versions := by
  rw [migrations, List.mem_singleton] at member
  subst member
  rfl

/-- After a migration there is a table of entries, with the content that it had. -/
theorem entries_change {migration : Migration} (member : migration ∈ migrations)
    (database : Database) :
    (migration.change database).entries = some (database.entries.getD .empty) := by
  rw [migrations, List.mem_singleton] at member
  subst member
  rfl

namespace Database

/-- The recorded versions. -/
def recorded (database : Database) : List Int := database.versions.getD []

@[simp] theorem recorded_makeVersions (database : Database) :
    database.makeVersions.recorded = database.recorded := rfl

@[simp] theorem version_makeVersions (database : Database) :
    database.makeVersions.version = database.version := rfl

/-- The recorded versions are at most the highest one. -/
theorem le_version {database : Database} {version : Int} (member : version ∈ database.recorded) :
    version ≤ database.version := by
  unfold Database.version
  rw [recorded] at member
  cases highest : (database.versions.getD []).max? with
  | none =>
      rw [List.max?_eq_none_iff.1 highest] at member
      simp at member
  | some found => exact (List.max?_eq_some_iff.1 highest).2 version member

/-- The highest version is a recorded one, unless nothing is recorded. -/
theorem version_mem (database : Database) :
    database.version ∈ database.recorded ∨ database.recorded = [] ∧ database.version = 0 := by
  unfold Database.version recorded
  cases highest : (database.versions.getD []).max? with
  | none => exact .inr ⟨List.max?_eq_none_iff.1 highest, rfl⟩
  | some found => exact .inl (List.max?_eq_some_iff.1 highest).1

/-- The highest version is above a positive one exactly if some recorded version is. -/
theorem lt_version {database : Database} {bound : Int} (positive : 0 ≤ bound) :
    bound < database.version ↔ ∃ version ∈ database.recorded, bound < version := by
  constructor
  · intro above
    rcases database.version_mem with member | ⟨-, zero⟩
    · exact ⟨database.version, member, above⟩
    · omega
  · rintro ⟨version, member, above⟩
    exact Int.lt_of_lt_of_le above (le_version member)

/-- A version that is above all recorded ones is the highest one once it is recorded. -/
theorem version_record {versions : List Int} {version : Int} (entries : Option Table)
    (older : ∀ other ∈ versions, other < version) :
    Database.version ⟨some (versions ++ [version]), entries⟩ = version := by
  have highest : (versions ++ [version]).max? = some version := by
    rw [List.max?_eq_some_iff]
    refine ⟨by simp, fun other member => ?_⟩
    rcases List.mem_append.1 member with inside | here
    · exact Int.le_of_lt (older other inside)
    · exact Int.le_of_eq (List.mem_singleton.1 here)
  simp [Database.version, highest]

/-- A new version can be recorded where there is a list of versions. -/
theorem addVersion_new {database : Database} {versions : List Int} {version : Int}
    (listed : database.versions = some versions) (new : version ∉ versions) :
    database.addVersion version =
      .ok { database with versions := some (versions ++ [version]) } := by
  simp [addVersion, versionList, listed, new, bind, Except.bind, pure, Except.pure]

/-- Migrations in increasing order that are newer than all recorded versions apply one after
another: no version is there already when it is recorded. -/
theorem foldlM_apply {pending : List Migration} {database : Database} {versions : List Int}
    (known : pending ⊆ migrations) (listed : database.versions = some versions)
    (ascending : pending.Pairwise fun first second => first.version < second.version)
    (newer : ∀ migration ∈ pending, ∀ version ∈ versions, version < migration.version) :
    pending.foldlM apply database = .ok
      { versions := some (versions ++ pending.map Migration.version)
        entries := if pending = [] then database.entries
          else some (database.entries.getD .empty) } := by
  induction pending generalizing database versions with
  | nil =>
      obtain ⟨_, entries⟩ := database
      cases listed
      simp [pure, Except.pure]
  | cons migration pending hypothesis =>
      obtain ⟨member, others⟩ := List.cons_subset.1 known
      obtain ⟨before, ascending⟩ := List.pairwise_cons.1 ascending
      have new : migration.version ∉ versions := fun inside =>
        Int.lt_irrefl _ (newer migration List.mem_cons_self _ inside)
      have applied : apply database migration = .ok
          ⟨some (versions ++ [migration.version]), some (database.entries.getD .empty)⟩ := by
        rw [apply, addVersion_new ((versions_change member database).trans listed) new,
          entries_change member]
      have later : ∀ next ∈ pending, ∀ version ∈ versions ++ [migration.version],
          version < next.version := by
        intro next inside version recorded
        rcases List.mem_append.1 recorded with old | here
        · exact newer next (List.mem_cons_of_mem _ inside) version old
        · exact List.mem_singleton.1 here ▸ before next inside
      have rest := @hypothesis
        ⟨some (versions ++ [migration.version]), some (database.entries.getD .empty)⟩ _ others rfl
        ascending later
      rw [List.foldlM_cons, applied]
      refine Eq.trans rest ?_
      simp

/-- What a migration leaves, in one look: a newer store is refused, an older one gets the latest
version and a table of entries, and one of the latest version stays as it is. -/
theorem migrate_eq (database : Database) :
    database.migrate =
      if latestVersion < database.version then .error (.newerSchema database.version)
      else if database.version < latestVersion then
        .ok ⟨some (database.recorded ++ [latestVersion]), some (database.entries.getD .empty)⟩
      else .ok database.makeVersions := by
  unfold migrate
  dsimp only
  rw [version_makeVersions]
  split
  · rfl
  · have newer : ∀ migration ∈ migrations.filter fun migration =>
        database.version < migration.version,
        ∀ version ∈ database.recorded, version < migration.version := by
      intro migration member version recorded
      exact Int.lt_of_le_of_lt (le_version recorded) (by simpa using (List.mem_filter.1 member).2)
    rw [foldlM_apply List.filter_sublist.subset rfl (migrations_ascending.filter _) newer]
    by_cases older : database.version < latestVersion
    · simp [migrations, older]
      rfl
    · simp [migrations, older, makeVersions, recorded]

/-- A migration fails exactly where a newer version is recorded. -/
theorem migrate_eq_error {database : Database} {fault : Fault} :
    database.migrate = .error fault ↔ fault = .newerSchema database.version ∧
      ∃ version ∈ database.recorded, latestVersion < version := by
  rw [migrate_eq, ← lt_version (by decide)]
  split
  · rename_i newer
    simp [newer, eq_comm]
  · rename_i known
    split <;> simp [known]

/-- A migration records the latest version where it is missing. -/
theorem recorded_migrate {database migrated : Database}
    (success : database.migrate = .ok migrated) :
    (latestVersion ∈ database.recorded ∧ migrated.recorded = database.recorded) ∨
      latestVersion ∉ database.recorded ∧
        migrated.recorded = database.recorded ++ [latestVersion] := by
  rw [migrate_eq] at success
  split at success
  · cases success
  · rename_i notNewer
    split at success
    · rename_i older
      cases success
      exact .inr ⟨fun member => Int.not_lt.2 (le_version member) older, rfl⟩
    · rename_i notOlder
      cases success
      refine .inl ⟨?_, rfl⟩
      have latest := Int.le_antisymm (Int.not_lt.1 notNewer) (Int.not_lt.1 notOlder)
      rcases database.version_mem with member | ⟨-, zero⟩
      · rwa [latest] at member
      · rw [latest] at zero
        cases zero

/-- A migrated store has the latest version, and its entries are those it had. -/
theorem migrate_ok {database migrated : Database} (success : database.migrate = .ok migrated) :
    migrated.version = latestVersion ∧ migrated.versions.isSome ∧
      migrated.entries.getD .empty = database.entries.getD .empty := by
  rw [migrate_eq] at success
  split at success
  · cases success
  · rename_i notNewer
    split at success
    · rename_i isOlder
      cases success
      refine ⟨version_record _ fun version member => ?_, rfl, rfl⟩
      exact Int.lt_of_le_of_lt (le_version member) isOlder
    · rename_i notOlder
      cases success
      exact ⟨Int.le_antisymm (Int.not_lt.1 notNewer) (Int.not_lt.1 notOlder), rfl, rfl⟩

/-- A table of entries that is there stays as it is. -/
theorem migrate_entries {database migrated : Database} {table : Table}
    (success : database.migrate = .ok migrated) (present : database.entries = some table) :
    migrated.entries = some table := by
  rw [migrate_eq] at success
  split at success
  · cases success
  · split at success <;> cases success
    · simp [present]
    · exact present

/-- A store whose table is empty, or is still to be made, has an empty one after a migration. -/
theorem migrate_empty {database migrated : Database} (success : database.migrate = .ok migrated)
    (unused : database.entries = some .empty ∨
      database.entries = none ∧ database.version < latestVersion) :
    migrated.entries = some .empty := by
  rw [migrate_eq] at success
  split at success
  · cases success
  · split at success
    · cases success
      rcases unused with empty | ⟨absent, _⟩
      · simp [empty]
      · simp [absent]
    · rename_i notOlder
      cases success
      rcases unused with empty | ⟨_, older⟩
      · exact empty
      · exact absurd older notOlder

/-- A store of the latest version is not changed by a migration. -/
theorem migrate_current {database : Database} (latest : database.version = latestVersion)
    (recorded : database.versions.isSome) : database.migrate = .ok database := by
  obtain ⟨_ | versions, entries⟩ := database
  · cases recorded
  · simp [migrate_eq, latest, makeVersions]

end FeedCache.Store.Database
