/-
This file says what a device means to the writing of stores.

Main statements: what a device writes is what was to be written, so a change that succeeds on some
device is the change that a free device makes.
-/
import FeedCache.Proofs.Basic
import FeedCache.Proofs.Store.Migration
import FeedCache.Store.Entries

namespace FeedCache.Store

namespace Device

variable {device : Device} {before after database migrated : Database}

@[simp] theorem write_free (before after : Database) : free.write before after = .ok after := rfl

/-- A database is not written exactly if the device refuses it. -/
theorem write_eq_error {fault : Fault} :
    device.write before after = .error fault ↔ device.refuses before after = some fault := by
  unfold write
  cases device.refuses before after <;> simp

theorem eq_of_write {written : Database} (success : device.write before after = .ok written) :
    written = after := by
  unfold write at success
  split at success
  · cases success
  · exact (Except.ok.inj success).symm

/-- A row with more bytes than the limit is refused, whatever else is in the table. -/
theorem limited_refuses {limit : Nat} {row : Row} {table : Table}
    (present : after.entries = some table) (member : row ∈ table.rows)
    (large : limit < row.size) : (limited limit).refuses before after = some .tooBig := by
  have found : table.rows.any fun row => limit < row.size :=
    List.any_eq_true.2 ⟨row, member, decide_eq_true large⟩
  rw [limited]
  dsimp only
  rw [present]
  exact if_pos found

@[simp] theorem migrate_free (database : Database) : free.migrate database = database.migrate := by
  unfold migrate
  split
  · rfl
  · cases database.migrate <;> rfl

/-- What is brought up on a device is brought up on a free one alike. -/
theorem migrate_ok (success : device.migrate database = .ok migrated) :
    database.migrate = .ok migrated := by
  unfold migrate at success
  split at success
  · exact success
  · obtain ⟨raised, done, written⟩ := bind_eq_ok.1 success
    rw [done, eq_of_write written]

/-- A database with the latest schema is not written again. -/
theorem migrate_current (latest : database.version = latestVersion)
    (recorded : database.versions.isSome) : device.migrate database = .ok database := by
  have current : database.isCurrent := by simp [Database.isCurrent, latest, recorded]
  rw [migrate, if_pos current]
  exact Database.migrate_current latest recorded

end Device

namespace Database

variable {device : Device} {database : Database} {key : String} {payload : Payload}
  {storedAt : String}

/-- A payload is stored where there is a table, unless the device refuses that. -/
theorem put_eq (database : Database) (key : String) (payload : Payload) (storedAt : String)
    (device : Device) :
    database.put key payload storedAt device = database.table.bind fun table =>
      device.write database
        { database with entries := some (table.insert (payload.toRow key storedAt)) } := rfl

/-- What is stored on a device is stored on a free one alike. -/
theorem put_ok {changed : Database}
    (success : database.put key payload storedAt device = .ok changed) :
    database.put key payload storedAt = .ok changed := by
  rw [put_eq] at success ⊢
  obtain ⟨table, found, written⟩ := bind_eq_ok.1 success
  rw [found, Device.eq_of_write written]
  rfl

/-- What is taken away on a device is taken away on a free one alike. -/
theorem deleteKeys_ok_free {keys : List String} {count : Nat} {changed : Database}
    (success : database.deleteKeys keys device = .ok (count, changed)) :
    database.deleteKeys keys = .ok (count, changed) := by
  unfold deleteKeys at success ⊢
  split
  · rename_i none
    rwa [if_pos none] at success
  · rename_i some
    rw [if_neg some] at success
    obtain ⟨table, found, success⟩ := bind_eq_ok.1 success
    obtain ⟨written, kept, same⟩ := bind_eq_ok.1 success
    cases same
    rw [found, Device.eq_of_write kept]
    rfl

/-- Where a key can be looked up a payload can be stored, if the device is free. -/
theorem put_of_get {other : String} {found : Option Payload}
    (looked : database.get other = .ok found) :
    ∃ changed, database.put key payload storedAt = .ok changed := by
  obtain ⟨table, present, -⟩ := bind_eq_ok.1 looked
  rw [put_eq, present]
  exact ⟨_, rfl⟩

/-- Where the keys can be listed any of them can be taken away, if the device is free. -/
theorem deleteKeys_of_keys {keys : List String} (listed : database.keys = .ok keys)
    (doomed : List String) : ∃ result, database.deleteKeys doomed = .ok result := by
  obtain ⟨table, present, -⟩ := bind_eq_ok.1 listed
  unfold deleteKeys
  split
  · exact ⟨_, rfl⟩
  · rw [present]
    exact ⟨_, rfl⟩

end Database

end FeedCache.Store
