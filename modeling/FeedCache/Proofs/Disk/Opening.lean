/-
This file says what opening a store does to a disk.

Main statements: opening adds directories and keeps every entry, whether it succeeds or not, and a
store that was opened once opens again with the same content.
-/
import FeedCache.Disk.Stores
import FeedCache.Proofs.Basic
import FeedCache.Proofs.Store.Device

namespace FeedCache.Disk
open Store (Database Table)

/-- A node is found where it was put, and every other place is as before. -/
theorem node?_set (disk : Disk) {place : Place} (below : place ≠ []) (node : Node)
    (other : Place) :
    (disk.set place node).node? other = if other = place then some node else disk.node? other := by
  by_cases same : other = place
  · subst same
    simp [node?, set, below]
  · have kept := lookup_filter (· != place) disk.nodes (bne_iff_ne.2 same)
    have apart : (other == place) = false := by simpa using same
    simp [node?, set, same, List.lookup_cons, apart, kept]

/-- The larger disk has every node of the smaller one, and apart from them only directories. -/
def Extends (before after : Disk) : Prop :=
  ∀ place, after.node? place = before.node? place ∨
    (before.node? place = none ∧ after.node? place = some .directory)

theorem Extends.refl (disk : Disk) : Extends disk disk := fun _ => .inl rfl

theorem Extends.trans {first second third : Disk} (left : Extends first second)
    (right : Extends second third) : Extends first third := by
  intro place
  rcases left place with same | ⟨absent, made⟩
  · rcases right place with kept | ⟨absent, made⟩
    · exact .inl (kept.trans same)
    · exact .inr ⟨same ▸ absent, made⟩
  · rcases right place with kept | ⟨missing, _⟩
    · exact .inr ⟨absent, kept.trans made⟩
    · simp [made] at missing

theorem Extends.keeps {before after : Disk} (extension : Extends before after) {place : Place}
    {node : Node} (present : before.node? place = some node) : after.node? place = some node := by
  rcases extension place with same | ⟨absent, _⟩
  · exact same.trans present
  · simp [present] at absent

/-- Making a directory adds at most that directory. -/
theorem makeDirectory_extends {last : Bool} {disk made : Disk} {place : Place}
    (success : disk.makeDirectory last place = .ok made) :
    Extends disk made ∧ made.node? place = some .directory := by
  unfold makeDirectory at success
  split at success
  · rename_i present
    cases success
    exact ⟨.refl disk, present⟩
  · cases success
  · rename_i absent
    split at success
    · cases success
    · cases success
      have below : place ≠ [] := by
        rintro rfl
        simp [node?] at absent
      refine ⟨fun other => ?_, by simp [node?_set disk below]⟩
      rw [node?_set disk below]
      by_cases same : other = place
      · exact .inr ⟨same ▸ absent, by simp [same]⟩
      · exact .inl (by simp [same])

/-- Every place on the way down, and the place itself, is a directory. -/
structure HasDirectories (disk : Disk) (place : Place) : Prop where
  noZero : holdsZero place = false
  made : ∀ count < place.length, disk.node? (place.take (count + 1)) = some .directory

theorem makeDirectories_steps {place : Place} {last : Nat → Bool} (counts : List Nat)
    {disk made : Disk}
    (success : counts.foldlM
        (fun disk count => disk.makeDirectory (last count) (place.take (count + 1))) disk =
      .ok made) :
    Extends disk made ∧
      ∀ count ∈ counts, made.node? (place.take (count + 1)) = some .directory := by
  induction counts generalizing disk with
  | nil =>
      cases success
      exact ⟨.refl _, by simp⟩
  | cons count rest hypothesis =>
      rw [List.foldlM_cons] at success
      obtain ⟨next, step, success⟩ := bind_eq_ok.1 success
      obtain ⟨first, present⟩ := makeDirectory_extends step
      obtain ⟨later, others⟩ := hypothesis success
      refine ⟨first.trans later, fun other member => ?_⟩
      rcases List.mem_cons.1 member with rfl | inside
      · exact later.keeps present
      · exact others other inside

/-- Making directories adds directories only, and leaves all that were asked for. -/
theorem makeDirectories_extends {disk made : Disk} {place : Place}
    (success : disk.makeDirectories place = .ok made) :
    Extends disk made ∧ made.HasDirectories place := by
  unfold makeDirectories at success
  split at success
  · cases success
  · rename_i noZero
    obtain ⟨extension, present⟩ := makeDirectories_steps _ success
    exact ⟨extension, by simpa using noZero,
      fun count inside => present count (List.mem_range.2 inside)⟩

/-- Directories that are there need not be made. -/
theorem makeDirectories_present {disk : Disk} {place : Place}
    (present : disk.HasDirectories place) : disk.makeDirectories place = .ok disk := by
  have steps : ∀ counts : List Nat, (∀ count ∈ counts, count < place.length) →
      counts.foldlM (fun disk count =>
        disk.makeDirectory (count + 1 == place.length) (place.take (count + 1))) disk =
          (.ok disk : Except Fault Disk) := by
    intro counts
    induction counts with
    | nil => intro _; rfl
    | cons count rest hypothesis =>
        intro inside
        have found := present.made count (inside count List.mem_cons_self)
        have stays : disk.makeDirectory (count + 1 == place.length) (place.take (count + 1)) =
            (.ok disk : Except Fault Disk) := by simp [makeDirectory, found]
        rw [List.foldlM_cons, stays]
        exact hypothesis fun other member => inside other (List.mem_cons_of_mem _ member)
  rw [makeDirectories, present.noZero]
  exact steps _ fun count member => List.mem_range.1 member

/-- The directories above a place stay when something is put there. -/
theorem HasDirectories.set {disk : Disk} {place : Place}
    (present : disk.HasDirectories place.dropLast)
    (below : place ≠ []) (node : Node) : (disk.set place node).HasDirectories place.dropLast := by
  refine ⟨present.noZero, fun count inside => ?_⟩
  have shorter : place.dropLast.take (count + 1) ≠ place := by
    intro same
    have lengths := congrArg List.length same
    have nonempty := List.length_pos_iff.2 below
    rw [List.length_take, List.length_dropLast] at lengths
    omega
  rw [node?_set disk below, if_neg shorter]
  exact present.made count inside

/-- The entries of the store at a place; there are none where there is no store. -/
def table (disk : Disk) (place : Place) : Table :=
  match disk.node? place with
  | some (.store database) => database.entries.getD .empty
  | _ => .empty

theorem Extends.table {before after : Disk} (extension : Extends before after) (place : Place) :
    after.table place = before.table place := by
  rcases extension place with same | ⟨absent, made⟩
  · rw [Disk.table, same, Disk.table]
  · rw [Disk.table, made, Disk.table, absent]

theorem table_set (disk : Disk) {place : Place} (below : place ≠ []) (database : Database) :
    (disk.set place (.store database)).table place = database.entries.getD .empty := by
  rw [table, node?_set disk below, if_pos rfl]

/-- The store at a place can be reached, and it has the latest schema. -/
structure Ready (disk : Disk) (place : Place) (database : Database) : Prop where
  directories : disk.HasDirectories place.dropLast
  found : disk.node? place = some (.store database)
  latest : database.version = Store.latestVersion
  recorded : database.versions.isSome

theorem Ready.below {disk : Disk} {place : Place} {database : Database}
    (ready : disk.Ready place database) : place ≠ [] := by
  rintro rfl
  have found := ready.found
  simp [node?] at found

theorem Ready.table {disk : Disk} {place : Place} {database : Database}
    (ready : disk.Ready place database) : disk.table place = database.entries.getD .empty := by
  rw [Disk.table, ready.found]

/-- A store stays ready when its entries change. -/
theorem Ready.change {disk : Disk} {place : Place} {database : Database}
    (ready : disk.Ready place database) {changed : Database}
    (same : changed.versions = database.versions) :
    (disk.set place (.store changed)).Ready place changed where
  directories := ready.directories.set ready.below _
  found := by rw [node?_set disk ready.below, if_pos rfl]
  latest := by
    rw [← ready.latest, Database.version, Database.version, same]
  recorded := by
    rw [same]
    exact ready.recorded

/-- Bringing up a store keeps its entries, and makes it ready if it succeeds. -/
theorem bringUp_spec (disk : Disk) {place : Place} (below : place ≠ []) (database : Database)
    (device : Store.Device) (directories : disk.HasDirectories place.dropLast)
    (held : disk.table place = database.entries.getD .empty) :
    (disk.bringUp place database device).2.table place = disk.table place ∧
      ∀ opened, (disk.bringUp place database device).1 = .ok opened →
        (disk.bringUp place database device).2.Ready place opened := by
  unfold bringUp
  split
  · rename_i migrated success
    obtain ⟨latest, recorded, entries⟩ := Database.migrate_ok (Store.Device.migrate_ok success)
    refine ⟨by rw [table_set disk below, held, entries], ?_⟩
    rintro opened same
    cases same
    exact ⟨directories.set below _, by rw [node?_set disk below, if_pos rfl], latest, recorded⟩
  · exact ⟨rfl, fun opened impossible => nomatch impossible⟩

theorem beginStore_spec (disk : Disk) {place : Place} (below : place ≠ [])
    (device : Store.Device) (directories : disk.HasDirectories place.dropLast)
    (held : disk.table place = .empty) :
    (disk.beginStore place device).2.table place = disk.table place ∧
      ∀ opened, (disk.beginStore place device).1 = .ok opened →
        (disk.beginStore place device).2.Ready place opened := by
  unfold beginStore
  split
  · exact bringUp_spec disk below .blank device directories held
  · refine ⟨?_, fun opened impossible => nomatch impossible⟩
    rw [held, table, node?_set disk below, if_pos rfl]

/-- Opening a store keeps its entries, and makes it ready if it succeeds. -/
theorem openStore_spec (disk : Disk) (start : Place) (path : String)
    (device : Store.Device := .free) :
    (disk.openStore start path device).2.table (Place.ofPath start path) =
        disk.table (Place.ofPath start path) ∧
      ∀ opened, (disk.openStore start path device).1 = .ok opened →
        (disk.openStore start path device).2.Ready (Place.ofPath start path) opened := by
  unfold openStore
  dsimp only
  generalize Place.ofPath start path = place
  split
  · exact ⟨rfl, fun opened impossible => nomatch impossible⟩
  · rename_i made success
    obtain ⟨extension, directories⟩ := makeDirectories_extends success
    rw [← extension.table place]
    have below : made.node? place ≠ some .directory → place ≠ [] := by
      rintro other rfl
      exact other (by simp [node?])
    split
    · exact ⟨rfl, fun opened impossible => nomatch impossible⟩
    · rename_i content found
      split
      · exact beginStore_spec made (below (by simp [found])) device directories
          (by simp [table, found])
      · exact ⟨rfl, fun opened impossible => nomatch impossible⟩
    · rename_i database found
      exact bringUp_spec made (below (by simp [found])) database device directories
        (by simp [table, found])
    · rename_i found
      split
      · exact ⟨rfl, fun opened impossible => nomatch impossible⟩
      · exact beginStore_spec made (below (by simp [found])) device directories
          (by simp [table, found])

/-- An opened store has the entries that were there before. -/
theorem openStore_entries {disk : Disk} {start : Place} {path : String} {database : Database}
    {device : Store.Device} (opening : (disk.openStore start path device).1 = .ok database) :
    disk.table (Place.ofPath start path) = database.entries.getD .empty := by
  obtain ⟨kept, readied⟩ := openStore_spec disk start path device
  rw [← kept, (readied database opening).table]

theorem bringUp_migrates {disk : Disk} {place : Place} {before database : Database}
    (brought : (disk.bringUp place before).1 = .ok database) : before.migrate = .ok database := by
  unfold bringUp at brought
  split at brought
  · rename_i migrated success
    exact (Store.Device.migrate_ok success).trans brought
  · cases brought

theorem beginStore_migrates {disk : Disk} {place : Place} {database : Database}
    (begun : (disk.beginStore place).1 = .ok database) :
    Database.blank.migrate = .ok database := by
  unfold beginStore at begun
  split at begun
  · exact bringUp_migrates begun
  · cases begun

/-- An opened store is what a migration made of a blank one, or of the store that was there. -/
theorem openStore_migrates {disk : Disk} {start : Place} {path : String} {database : Database}
    (opening : (disk.openStore start path).1 = .ok database) :
    Database.blank.migrate = .ok database ∨
      ∃ before, disk.node? (Place.ofPath start path) = some (.store before) ∧
        before.migrate = .ok database := by
  unfold openStore at opening
  dsimp only at opening
  generalize Place.ofPath start path = place at opening
  split at opening
  · cases opening
  · rename_i made success
    split at opening
    · cases opening
    · split at opening
      · exact .inl (beginStore_migrates opening)
      · cases opening
    · rename_i before found
      refine .inr ⟨before, ?_, bringUp_migrates opening⟩
      rcases (makeDirectories_extends success).1 place with same | ⟨absent, directory⟩
      · exact same ▸ found
      · simp [directory] at found
    · split at opening
      · cases opening
      · exact .inl (beginStore_migrates opening)

/-- A store that is ready opens with the content it has. -/
theorem openStore_ready {disk : Disk} {start : Place} {path : String} {database : Database}
    (ready : disk.Ready (Place.ofPath start path) database) (device : Store.Device := .free) :
    disk.openStore start path device =
      (.ok database, disk.set (Place.ofPath start path) (.store database)) := by
  have current : device.migrate database = .ok database :=
    Store.Device.migrate_current ready.latest ready.recorded
  simp [openStore, makeDirectories_present ready.directories, ready.found, bringUp, current]

/-- Where the directories have been made, a store is opened as it would be without them. -/
theorem openStore_made {disk made : Disk} {start : Place} {path : String}
    (success : disk.makeDirectories (Place.ofPath start path).dropLast = .ok made) :
    made.openStore start path = disk.openStore start path := by
  have present := makeDirectories_present (makeDirectories_extends success).2
  rw [openStore, openStore]
  simp only [success, present]

/-- A store that cannot be brought up is left as it is. -/
theorem bringUp_failed {disk : Disk} {place : Place} {database : Database} {fault : Store.Fault}
    (failed : (disk.bringUp place database).1 = .error fault) :
    (disk.bringUp place database).2 = disk := by
  unfold bringUp at failed ⊢
  split
  · rename_i migrated success
    rw [success] at failed
    cases failed
  · rfl

/-- A new store that cannot be begun leaves an empty file. -/
theorem beginStore_failed {disk : Disk} {place : Place} {fault : Store.Fault}
    (failed : (disk.beginStore place).1 = .error fault) :
    (disk.beginStore place).2 = disk.set place (.file .empty) ∧
      ∀ other : Disk, (other.beginStore place).1 = .error fault := by
  unfold beginStore at failed ⊢
  by_cases room : hasRoomForJournal place
  · rw [if_pos room, bringUp, Store.Device.migrate_free, Database.migrateBlank] at failed
    cases failed
  · rw [if_neg room] at failed
    simp only [if_neg room]
    exact ⟨trivial, fun other => failed⟩

/-- What was begun and failed fails alike when it is opened. -/
theorem openStore_begun {disk : Disk} {start : Place} {path : String} {fault : Store.Fault}
    (below : Place.ofPath start path ≠ [])
    (directories : disk.HasDirectories (Place.ofPath start path).dropLast)
    (failed : (disk.beginStore (Place.ofPath start path)).1 = .error fault) :
    ((disk.beginStore (Place.ofPath start path)).2.openStore start path).1 = .error fault := by
  obtain ⟨left, always⟩ := beginStore_failed failed
  have present := makeDirectories_present (directories.set below (.file .empty))
  have empty : ByteArray.empty.isEmpty = true := rfl
  rw [left, openStore]
  simp only [present, node?_set disk below, if_true, empty]
  exact always _

/-- A store that cannot be opened cannot be opened again, for the same reason. -/
theorem openStore_failed {disk : Disk} {start : Place} {path : String} {fault : Store.Fault}
    (failed : (disk.openStore start path).1 = .error fault) :
    ((disk.openStore start path).2.openStore start path).1 = .error fault := by
  cases making : disk.makeDirectories (Place.ofPath start path).dropLast with
  | error other =>
      have left : (disk.openStore start path).2 = disk := by
        simp only [openStore, making]
      rw [left, failed]
  | ok made =>
      have directories := (makeDirectories_extends making).2
      -- Either nothing but directories was made, or a new store was begun.
      have settled (left : (disk.openStore start path).2 = made) :
          ((disk.openStore start path).2.openStore start path).1 = .error fault := by
        rw [left, openStore_made making, failed]
      have begun (below : Place.ofPath start path ≠ [])
          (same : disk.openStore start path = made.beginStore (Place.ofPath start path)) :
          ((disk.openStore start path).2.openStore start path).1 = .error fault := by
        rw [same] at failed ⊢
        exact openStore_begun below directories failed
      have root (other : made.node? (Place.ofPath start path) ≠ some .directory) :
          Place.ofPath start path ≠ [] := by
        intro top
        rw [top] at other
        exact other rfl
      cases found : made.node? (Place.ofPath start path) with
      | none =>
          by_cases long : (Place.ofPath start path).getLast?.any isTooLong
          · exact settled (by simp only [openStore, making, found, if_pos long])
          · apply begun (root (by simp [found]))
            simp only [openStore, making, found, if_neg long]
      | some node =>
          cases node with
          | directory => exact settled (by simp only [openStore, making, found])
          | file content =>
              by_cases empty : content.isEmpty
              · apply begun (root (by simp [found]))
                simp only [openStore, making, found, if_pos empty]
              · exact settled (by simp only [openStore, making, found, if_neg empty])
          | store database =>
              have same : disk.openStore start path =
                  made.bringUp (Place.ofPath start path) database := by
                simp only [openStore, making, found]
              rw [same] at failed
              exact settled (by rw [same, bringUp_failed failed])

/-- Using a store either fails and keeps the entries, or does what the use says to the opened
store. -/
inductive UseStep {α : Type} (disk : Disk) (start : Place) (path : String)
    (act : Database → Except Store.Fault (α × Database)) (device : Store.Device) :
    Except Store.Fault α × Disk → Prop
  | failed {fault : Store.Fault} {left : Disk}
      (kept : left.table (Place.ofPath start path) = disk.table (Place.ofPath start path))
      (reason : ∀ database, (disk.openStore start path device).1 = .ok database →
        act database = .error fault ∧ left.Ready (Place.ofPath start path) database) :
      UseStep disk start path act device (.error fault, left)
  | done {database changed : Database} {opened : Disk} {answer : α}
      (opening : (disk.openStore start path device).1 = .ok database)
      (ready : opened.Ready (Place.ofPath start path) database)
      (held : disk.table (Place.ofPath start path) = database.entries.getD .empty)
      (acted : act database = .ok (answer, changed)) :
      UseStep disk start path act device
        (.ok answer, opened.set (Place.ofPath start path) (.store changed))

theorem useStore_step {α : Type} (disk : Disk) (start : Place) (path : String)
    (act : Database → Except Store.Fault (α × Database)) (device : Store.Device := .free) :
    UseStep disk start path act device (disk.useStore start path act device) := by
  obtain ⟨kept, readied⟩ := openStore_spec disk start path device
  unfold useStore
  cases result : disk.openStore start path device with
  | mk outcome opened =>
      rw [result] at kept readied
      cases outcome with
      | error fault =>
          refine .failed kept ?_
          rintro database impossible
          rw [result] at impossible
          cases impossible
      | ok database =>
          have ready := readied database rfl
          have opening : (disk.openStore start path device).1 = .ok database := by rw [result]
          dsimp only [changeStore]
          cases acted : act database with
          | error fault =>
              refine .failed kept ?_
              rintro other same
              rw [result] at same
              cases same
              exact ⟨acted, ready⟩
          | ok pair => exact .done opening ready (kept.symm.trans ready.table) acted

end FeedCache.Disk
