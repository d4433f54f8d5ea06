/-
This file says what each session holds, as it is seen from outside, and which uses of the disk leave
that alone.

Main statements: a session that works on its store makes no difference to another one, and neither
does a file for a body or a directory.
-/
import FeedCache.Proofs.Command.Interruption

namespace FeedCache

namespace Disk
open Store (Database Table)

/-- There is a file at a place, be it a store or not. -/
def HoldsFile (disk : Disk) (place : Place) : Prop :=
  ∃ node, disk.node? place = some node ∧ node ≠ .directory

/-- What a use leaves at the place of its store: what was there, or a file where there was no
directory. -/
def Refiled (place : Place) (before after : Disk) : Prop :=
  after.node? place = before.node? place ∨
    before.node? place ≠ some .directory ∧ after.HoldsFile place

theorem Refiled.holdsFile {place : Place} {before after : Disk}
    (refiled : Refiled place before after) (present : before.HoldsFile place) :
    after.HoldsFile place := by
  rcases refiled with same | ⟨-, made⟩
  · rwa [HoldsFile, same]
  · exact made

theorem Refiled.directory {place : Place} {before after : Disk}
    (refiled : Refiled place before after) (directory : before.node? place = some .directory) :
    after.node? place = some .directory := by
  rcases refiled with same | ⟨other, -⟩
  · rw [same, directory]
  · exact absurd directory other

theorem Refiled.of_same {place : Place} {before made after : Disk}
    (same : made.node? place = before.node? place) (refiled : Refiled place made after) :
    Refiled place before after := by
  rwa [Refiled, ← same]

theorem Refiled.trans {place : Place} {first second third : Disk}
    (left : Refiled place first second) (right : Refiled place second third) :
    Refiled place first third := by
  rcases left with same | ⟨other, made⟩
  · exact .of_same same right
  · exact .inr ⟨other, right.holdsFile made⟩

theorem refiled_set (disk : Disk) {place : Place} (below : place ≠ [])
    (other : disk.node? place ≠ some .directory) {node : Node} (file : node ≠ .directory) :
    Refiled place disk (disk.set place node) :=
  .inr ⟨other, node, node?_set_here disk below node, file⟩

theorem bringUp_refiled (disk : Disk) {place : Place} (below : place ≠ [])
    (other : disk.node? place ≠ some .directory) (database : Database) (device : Store.Device) :
    Refiled place disk (disk.bringUp place database device).2 := by
  unfold bringUp
  split
  · exact refiled_set disk below other nofun
  · exact .inl rfl

theorem beginStore_refiled (disk : Disk) {place : Place} (below : place ≠ [])
    (other : disk.node? place ≠ some .directory) (device : Store.Device) :
    Refiled place disk (disk.beginStore place device).2 := by
  unfold beginStore
  split
  · exact bringUp_refiled disk below other .blank device
  · exact refiled_set disk below other nofun

theorem openStore_refiled (disk : Disk) (start : Place) (path : String) (device : Store.Device) :
    Refiled (Place.ofPath start path) disk (disk.openStore start path device).2 := by
  unfold openStore
  dsimp only
  generalize Place.ofPath start path = place
  cases success : disk.makeDirectories place.dropLast with
  | error fault => exact .inl rfl
  | ok made =>
      have same : made.node? place = disk.node? place := makeDirectories_above success
      have below : made.node? place ≠ some .directory → place ≠ [] := by
        rintro other rfl
        exact other rfl
      apply Refiled.of_same same
      dsimp only
      split
      · exact .inl rfl
      · rename_i content found
        split
        · exact beginStore_refiled made (below (by simp [found])) (by simp [found]) device
        · exact .inl rfl
      · rename_i database found
        exact bringUp_refiled made (below (by simp [found])) (by simp [found]) database device
      · rename_i found
        split
        · exact .inl rfl
        · exact beginStore_refiled made (below (by simp [found])) (by simp [found]) device

/-- A use of a store leaves a directory in its place alone, and a file in the place of a file. -/
theorem useStore_refiled {α : Type} (disk : Disk) (start : Place) (path : String)
    (act : Database → Except Store.Fault (α × Database)) (device : Store.Device) :
    Refiled (Place.ofPath start path) disk (disk.useStore start path act device).2 := by
  have refiled := openStore_refiled disk start path device
  have readied := (openStore_spec disk start path device).2
  unfold useStore
  generalize disk.openStore start path device = opening at refiled readied
  obtain ⟨outcome, opened⟩ := opening
  cases outcome with
  | error fault => exact refiled
  | ok database =>
      have ready := readied database rfl
      dsimp only [changeStore]
      cases act database with
      | error fault => exact refiled
      | ok result =>
          apply refiled.trans
          apply refiled_set opened ready.below
          · rw [ready.found]
            nofun
          · nofun

theorem Worked.refiled {start : Place} {path : String} {before after : Disk}
    (worked : Worked start path before after) :
    Refiled (Place.ofPath start path) before after := by
  induction worked with
  | rest => exact .inl rfl
  | use earlier act device hypothesis =>
      exact hypothesis.trans (useStore_refiled _ start path act device)

/-- A directory has no entries that could be opened. -/
theorem openStore_directory {disk : Disk} {start : Place} {path : String}
    (directory : disk.node? (Place.ofPath start path) = some .directory) (device : Store.Device) :
    ∃ fault, (disk.openStore start path device).1 = .error fault := by
  unfold openStore
  dsimp only
  cases success : disk.makeDirectories (Place.ofPath start path).dropLast with
  | error fault => exact ⟨_, rfl⟩
  | ok made =>
      have same := (makeDirectories_above success).trans directory
      simp only [same]
      exact ⟨_, rfl⟩

end Disk

namespace World
open Store (Key Row Table)

variable {State : Type}

/-- The entries of the store at a path, if there is a file. A file that is no store has none. -/
def store? (world : World State) (path : String) : Option Table :=
  if Disk.holdsZero (world.place path) then none
  else match world.disk.node? (world.place path) with
    | none | some .directory => none
    | some _ => some (world.table path)

/-- The entries of a session, if it has a store. -/
def holdings (world : World State) (base namespaceName name : String) : Option Table :=
  (Store.path base namespaceName name).toOption.bind world.store?

theorem store?_eq_some {world : World State} {path : String} {table : Table} :
    world.store? path = some table ↔ Disk.holdsZero (world.place path) = false ∧
      world.disk.HoldsFile (world.place path) ∧ world.table path = table := by
  rw [store?, Disk.HoldsFile]
  cases Disk.holdsZero (world.place path) with
  | true => simp
  | false =>
      rcases world.disk.node? (world.place path) with _ | node
      · simp
      · cases node <;> simp

/-- What there is at the path of a store is kept, apart from a directory where there was nothing. -/
structure KeepsStore (path : String) (before after : World State) : Prop where
  start : after.start = before.start
  store : after.store? path = before.store? path

namespace KeepsStore

variable {path : String} {before between after : World State}

theorem refl (path : String) (world : World State) : KeepsStore path world world := ⟨rfl, rfl⟩

theorem trans (left : KeepsStore path before between) (right : KeepsStore path between after) :
    KeepsStore path before after :=
  ⟨right.start.trans left.start, right.store.trans left.store⟩

theorem of_node (start : after.start = before.start)
    (node : after.disk.node? (before.place path) = before.disk.node? (before.place path)) :
    KeepsStore path before after := by
  refine ⟨start, ?_⟩
  rw [store?, store?, table, table, Disk.table, Disk.table, place, start, ← place, node]

theorem of_extends (start : after.start = before.start)
    (extension : before.disk.Extends after.disk) : KeepsStore path before after := by
  refine ⟨start, ?_⟩
  have table := extension.table (before.place path)
  rw [store?, store?, World.table, World.table, place, start, ← place, table]
  rcases extension (before.place path) with same | ⟨absent, made⟩
  · rw [same]
  · rw [absent, made]

/-- The work of a session on its own store is not seen in another one. -/
theorem of_worked {other : String} (start : after.start = before.start)
    (worked : Disk.Worked before.start other before.disk after.disk)
    (beside : (before.place path).Beside (before.place other)) : KeepsStore path before after :=
  .of_node start (worked.beside beside).here

end KeepsStore

/-- A table with a row is the one of a store. -/
theorem store?_of_find? {world : World State} {path : String} {key : Key} {row : Row}
    (readable : Disk.holdsZero (world.place path) = false)
    (found : (world.table path).find? key = some row) :
    world.store? path = some (world.table path) := by
  refine store?_eq_some.2 ⟨readable, ?_, rfl⟩
  rw [table, Disk.table] at found
  split at found
  · rename_i database present
    exact ⟨_, present, by simp⟩
  · cases found

/-- A store with its entries stays such a store, and a directory in its place stays one. -/
theorem store?_of_kept {before after : World State} {path : String}
    (start : after.start = before.start)
    (refiled : Disk.Refiled (before.place path) before.disk after.disk)
    (kept : after.table path = before.table path) (present : before.exists? path) :
    after.store? path = before.store? path := by
  have place : after.place path = before.place path := by
    rw [World.place, start, ← World.place]
  simp only [World.exists?, Disk.exists?, Bool.and_eq_true, Bool.not_eq_true'] at present
  obtain ⟨readable, some⟩ := present
  obtain ⟨node, found⟩ := Option.isSome_iff_exists.1 some
  by_cases directory : node = .directory
  · rw [directory] at found
    rw [store?, store?, place, refiled.directory found, found]
  · have file : before.disk.HoldsFile (before.place path) := ⟨node, found, directory⟩
    rw [store?_eq_some.2 ⟨readable, file, rfl⟩, store?_eq_some, place]
    exact ⟨readable, refiled.holdsFile file, kept⟩

/-- Where there is nothing there is no store. -/
theorem store?_of_absent {world : World State} {path : String} (absent : ¬world.exists? path) :
    world.store? path = none := by
  simp only [World.exists?, Disk.exists?, Bool.and_eq_true, Bool.not_eq_true', not_and] at absent
  rw [store?]
  split
  · rfl
  · rename_i readable
    have missing := absent (by simpa using readable)
    rw [Option.not_isSome_iff_eq_none] at missing
    rw [missing]

/-- A store that can be opened is there if its file is. -/
theorem store?_of_opened {world : World State} {path : String} {database : Store.Database}
    {device : Store.Device} (present : world.exists? path)
    (opening : world.opened path device = .ok database) :
    world.store? path = some (world.table path) := by
  simp only [World.exists?, Disk.exists?, Bool.and_eq_true, Bool.not_eq_true'] at present
  obtain ⟨readable, some⟩ := present
  obtain ⟨node, found⟩ := Option.isSome_iff_exists.1 some
  refine store?_eq_some.2 ⟨readable, ⟨node, found, ?_⟩, rfl⟩
  rintro rfl
  obtain ⟨fault, barred⟩ := Disk.openStore_directory found device
  rw [World.opened, barred] at opening
  cases opening

end World

namespace Command
open World (KeepsStore)

variable {State : Type} {base namespaceName other path : String}

/-- A file for a body is not written into a store. -/
theorem Wrote.keepsStore {world after : World State} {name : String} {value : Option ByteArray}
    {directory file : Option String} (wrote : Wrote world name value directory file after)
    (isBody : IsBodyName name) (named : Store.path base namespaceName other = .ok path) :
    KeepsStore path world after := by
  apply KeepsStore.of_node
  · rw [wrote.frame]
  · apply wrote.elsewhere
    intro directory _
    exact (bodyPlace_ne_store named isBody world.start directory).symm

section

variable {session : Session State} {device : Store.Device}
  (beside : ∀ start, (Place.ofPath start path).Beside (Place.ofPath start session.storePath))
  (named : Store.path base namespaceName other = .ok path)
include beside

/-- An operation of a session is not seen in the store of another one. -/
theorem perform_keeps (call : Session.Call) (world : World State) (device : Store.Device) :
    KeepsStore path world (session.perform call world device).2.2 :=
  .of_worked (session.perform_place call world device).2 (session.perform_worked call world device)
    (beside world.start)

theorem getCached_keeps {world fetched : World State} {url : String}
    {answer : Except Session.Fault (Option ByteArray)} {middle : Session State}
    (asked : session.getCached url world device = (answer, middle, fetched)) :
    KeepsStore path world fetched ∧ middle.storePath = session.storePath := by
  have kept : KeepsStore path world (session.getCached url world device).2.2 :=
    perform_keeps beside (.cached url) world device
  have same : (session.getCached url world device).2.1.storePath = session.storePath :=
    (session.perform_place (.cached url) world device).1
  rw [asked] at kept same
  exact ⟨kept, same⟩

include named

/-- A series of look-ups is not seen there either, and neither are the files for its bodies. -/
theorem lookUp_keeps {directory : Option String} {index : Nat} {world after : World State}
    {urls : List String} {items : Except Failure (List Item)} {later : Session State}
    (looked : lookUp directory session index world urls device = (items, later, after)) :
    KeepsStore path world after := by
  induction urls generalizing session index world items with
  | nil =>
      cases looked
      exact .refl path _
  | cons url urls hypothesis =>
      cases items with
      | ok items =>
          obtain ⟨value, middle, fetched, file, between, rest, asked, wrote, others, -⟩ :=
            lookUp_cons looked
          obtain ⟨kept, same⟩ := getCached_keeps beside asked
          have written := wrote.keepsStore (isBodyName_fileName index) named
          exact (kept.trans written).trans (hypothesis (by rwa [same]) others)
      | error failure =>
          rcases lookUp_cons_failed looked with
            ⟨fault, refused⟩ | ⟨value, middle, fetched, asked, rfl | ⟨file, between, wrote, others⟩⟩
          · exact (getCached_keeps beside refused).1
          · exact (getCached_keeps beside asked).1
          · obtain ⟨kept, same⟩ := getCached_keeps beside asked
            have written := wrote.keepsStore (isBodyName_fileName index) named
            exact (kept.trans written).trans (hypothesis (by rwa [same]) others)

/-- A run in an open session is not seen in the store of another one. -/
theorem grabIn_keeps (unclosed : ¬session.isClosed)
    (own : Store.path base namespaceName session.name = .ok session.storePath)
    {primary : String} {urls : List String}
    {directory : Option String} {world after : World State} {report : Except Failure RunReport}
    (grabbed : grabIn session primary urls directory world device = (report, after)) :
    KeepsStore path world after := by
  have fetched : KeepsStore path world
      (world.fetch session.transport session.policy primary).2 := .of_node rfl rfl
  have active : ∀ start, (Place.ofPath start path).Beside
    (Place.ofPath start ({ session with stage := .active } : Session State).storePath) := beside
  have written {value : Option ByteArray} {file : Option String} {between : World State}
      (wrote : Wrote (world.fetch session.transport session.policy primary).2 primaryName value
        directory file between) : KeepsStore path world between :=
    fetched.trans (wrote.keepsStore isBodyName_primaryName named)
  -- Between its look-ups and its cleanup a run works on nothing but its own store.
  have cleaned {file : Option String} {between looked after : World State} {later : Session State}
      {value : Option ByteArray} {items : List Item}
      (wrote : Wrote (world.fetch session.transport session.policy primary).2 primaryName value
        directory file between)
      (served : lookUp directory { session with stage := .active } 0 between urls device =
        (.ok items, later, looked))
      (ended : (later.cleanup looked device).2.2 = after) : KeepsStore path world after := by
    have apart : StoreApart { session with stage := .active } between.start :=
      fun directory name isBody => bodyPlace_ne_store own isBody between.start directory
    have same : later.storePath = session.storePath :=
      (lookUp_ok (lookUp_accepted served) apart).served.storePath
    have kept : KeepsStore path looked (later.perform .cleanup looked device).2.2 :=
      perform_keeps (by rwa [same]) .cleanup looked device
    rw [← ended]
    exact ((written wrote).trans (lookUp_keeps active named served)).trans kept
  cases report with
  | ok report =>
      obtain ⟨page, file, between, items, later, looked, cleanup, ended, -, wrote, served, done,
        -⟩ := grabIn_ok unclosed grabbed
      exact cleaned wrote served (by rw [done])
  | error failure =>
      rcases grabIn_failed unclosed grabbed with
        rfl | ⟨page, file, between, items, later, looked, -, wrote, served, stopped⟩
      · exact fetched
      · rcases stopped with ⟨refusal, rfl, rfl⟩ | ⟨found, fault, ended, rfl, uncleaned⟩
        · exact (written wrote).trans (lookUp_keeps active named served)
        · exact cleaned wrote served (by rw [uncleaned])

end

/-- A whole run is not seen in the store of another session. -/
theorem grabAll_keeps (named : Store.path base namespaceName other = .ok path)
    (opened : Except Session.Fault (Session State))
    (own : ∀ session, opened = .ok session → ¬session.isClosed ∧ session.name ≠ other ∧
      Store.path base namespaceName session.name = .ok session.storePath)
    (primary : String) (secondary : List String) (input : Option ByteArray)
    (directory : Option String) (world : World State) (device : Store.Device) :
    KeepsStore path world (grabAll opened primary secondary input directory world device).2 := by
  have entered {session : Session State} {made : Disk} {after : World State}
      {report : Except Failure RunReport} {urls : List String} (entry : opened = .ok session)
      (extension : world.disk.Extends made)
      (grabbed : grabIn session primary urls directory { world with disk := made } device =
        (report, after)) : KeepsStore path world after := by
    obtain ⟨unclosed, different, place⟩ := own session entry
    have prepared : KeepsStore path world { world with disk := made } := .of_extends rfl extension
    have beside := Store.beside_of_names named place different.symm
    exact prepared.trans (grabIn_keeps beside named unclosed place grabbed)
  cases grabbed : grabAll opened primary secondary input directory world device with
  | mk report after =>
      cases report with
      | ok report =>
          obtain ⟨further, session, made, -, entry, extension, done⟩ := grabAll_ok grabbed
          exact entered entry extension done
      | error failure =>
          rcases grabAll_failed grabbed with
            ⟨made, rfl, extension⟩ | ⟨further, session, made, -, entry, extension, done⟩
          · exact .of_extends rfl extension
          · exact entered entry extension done

end Command

end FeedCache
