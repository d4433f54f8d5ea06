/-
This file shows that a store is a finite map from keys to payloads.

Main statements: each operation answers as it does on the map, and so does every run of them, in
memory and on a disk, over any closing and opening in between.
-/
import FeedCache.Proofs.Disk.Opening
import FeedCache.Proofs.Store.Deletion
import FeedCache.Proofs.Store.Operation

namespace FeedCache.Store

/-- The mark is one exactly where there is no body, and zero elsewhere. -/
theorem Payload.marks_toRow (payload : Payload) (key time : String) :
    let row := payload.toRow key time
    (row.failed = .integer 0 ∨ row.failed = .integer 1) ∧
      (row.failed = .integer 1 ↔ row.body = .null) := by
  cases payload <;> simp [Payload.toRow]

/-- A stored entry is listed with the length of its body, or as a failure. -/
theorem Payload.summary_toRow (payload : Payload) (key time : String) :
    (payload.toRow key time).summary = .ok ⟨key, payload.size, payload.isFailed, time⟩ := by
  cases payload <;> rfl

/-- The row is that of the key in the map. -/
def Contents.HasRow (contents : Contents) (row : Row) (key : String) : Prop :=
  ∃ payload time, row = Payload.toRow payload key time ∧ contents.lookup key = some payload

/-- The table holds the map: its rows are rows of payloads, and they are found as the map says. -/
structure Table.Represents (table : Table) (contents : Contents) : Prop where
  rows : ∀ row ∈ table.rows, ∃ key payload time, row = Payload.toRow payload key time
  lookup : ∀ key, contents.lookup key =
    (table.find? (.text key)).bind fun row => row.payload.toOption

namespace Table.Represents

theorem empty : Table.empty.Represents ∅ where
  rows _ member := absurd member List.not_mem_nil
  lookup _ := rfl

variable {table : Table} {contents : Contents}

/-- The row of a key is the row of its payload. -/
theorem find? (represents : table.Represents contents) (key : String) :
    (table.find? (.text key) = none ∧ contents.lookup key = none) ∨
      ∃ payload time, table.find? (.text key) = some (Payload.toRow payload key time) ∧
        contents.lookup key = some payload := by
  have read := represents.lookup key
  cases found : table.find? (.text key) with
  | none => exact .inl ⟨rfl, by rw [read, found]; rfl⟩
  | some row =>
      obtain ⟨member, named⟩ := Table.find?_eq_some.1 found
      obtain ⟨other, payload, time, rfl⟩ := represents.rows row member
      rw [Payload.key_toRow] at named
      cases Key.text.inj named
      rw [found] at read
      refine .inr ⟨payload, time, rfl, ?_⟩
      rw [read, Option.bind_some, Payload.payload_toRow]
      rfl

theorem isSome (represents : table.Represents contents) (key : String) :
    (table.find? (.text key)).isSome = decide (key ∈ contents) := by
  rcases represents.find? key with ⟨absent, missing⟩ | ⟨payload, time, present, held⟩
  · simp [absent, Finmap.lookup_eq_none.1 missing]
  · simp [present, Finmap.mem_of_lookup_eq_some held]

/-- A put replaces whatever the key had, in all columns. -/
theorem insert (represents : table.Represents contents) (key : String) (payload : Payload)
    (time : String) :
    (table.insert (payload.toRow key time)).Represents (contents.insert key payload) where
  rows row member := by
    rcases Table.memInsertRow member with rfl | inside
    · exact ⟨key, payload, time, rfl⟩
    · exact represents.rows row inside
  lookup other := by
    rw [Table.findInsert, Payload.key_toRow]
    by_cases same : key = other
    · subst same
      rw [Finmap.lookup_insert, if_pos rfl, Option.bind_some, Payload.payload_toRow]
      rfl
    · simp [same, represents.lookup other, Finmap.lookup_insert_of_ne _ (Ne.symm same)]

theorem erase (represents : table.Represents contents) (key : String) :
    (table.erase (.text key)).Represents (contents.erase key) where
  rows row member := represents.rows row (List.mem_filter.1 member).1
  lookup other := by
    rw [Table.findErase]
    by_cases same : key = other
    · subst same
      simp
    · simp [same, represents.lookup other, Finmap.lookup_erase_ne (Ne.symm same)]

theorem eraseAll (represents : table.Represents contents) (keys : List String) :
    (table.eraseAll keys).Represents (contents.eraseAll keys) := by
  induction keys generalizing table contents with
  | nil => exact represents
  | cons key keys hypothesis => exact hypothesis (represents.erase key)

theorem mem_rows (represents : table.Represents contents) {key : String} :
    Key.text key ∈ table.rows.map Row.key ↔ key ∈ contents := by
  have found := represents.isSome key
  constructor
  · intro listed
    obtain ⟨row, member, named⟩ := List.mem_map.1 listed
    rw [Table.find?_eq_some.2 ⟨member, named⟩] at found
    simpa using found.symm
  · intro inside
    rw [decide_eq_true inside] at found
    obtain ⟨row, read⟩ := Option.isSome_iff_exists.1 found
    obtain ⟨member, named⟩ := Table.find?_eq_some.1 read
    exact List.mem_map.2 ⟨row, member, named⟩

/-- The keys of the rows are those of the map in increasing order. -/
theorem keys_eq_sorted (represents : table.Represents contents) :
    table.rows.map Row.key = contents.sorted.map Key.text := by
  obtain ⟨names, listed⟩ := Database.exists_texts.2 fun row member => by
    obtain ⟨key, payload, time, rfl⟩ := represents.rows row member
    exact ⟨key, payload.key_toRow key time⟩
  have increasing := Database.keys_increasing listed
  have distinct : names.Nodup := increasing.imp Precedes.ne
  have ordered : names.Pairwise NotAfter := increasing.imp fun before after =>
    Key.ltIrrefl _ (Key.ltTrans (text_lt_iff.2 before) (text_lt_iff.2 after))
  have domain : names.toFinset = contents.keys := by
    ext key
    rw [List.mem_toFinset, Finmap.mem_keys, ← represents.mem_rows, listed,
      List.mem_map_of_injective Key.text_injective]
  rw [listed, Contents.sorted, ← domain, (List.toFinset_sort NotAfter distinct).2 ordered]

theorem size_eq (represents : table.Represents contents) : table.size = contents.keys.card := by
  have lengths := congrArg List.length represents.keys_eq_sorted
  rw [List.length_map, List.length_map, Contents.sorted, Finset.length_sort] at lengths
  exact lengths

/-- The rows are those of the sorted keys, one by one. -/
theorem rows_sorted (represents : table.Represents contents) :
    List.Forall₂ contents.HasRow table.rows contents.sorted := by
  have keyed := represents.keys_eq_sorted
  rw [← List.forall₂_eq_eq_eq, List.forall₂_map_left_iff, List.forall₂_map_right_iff,
    List.forall₂_iff_zip] at keyed
  refine List.forall₂_iff_zip.2 ⟨keyed.1, fun {row key} inside => ?_⟩
  have found := Table.find?_eq_some.2 ⟨(List.of_mem_zip inside).1, keyed.2 inside⟩
  rcases represents.find? key with ⟨absent, _⟩ | ⟨payload, time, present, held⟩
  · simp [absent] at found
  · rw [present] at found
    exact ⟨payload, time, (Option.some.inj found).symm, held⟩

end Table.Represents

/-- Rows of keys of a map are listed as the map says. -/
theorem mapM_summary {contents : Contents} {rows : List Row} {keys : List String}
    (listed : List.Forall₂ contents.HasRow rows keys) :
    ∃ entries, rows.mapM Row.summary = .ok entries ∧
      entries.map Summary.shown = keys.filterMap fun key =>
        (contents.lookup key).map fun payload => (key, payload.size, payload.isFailed) := by
  induction listed with
  | nil => exact ⟨[], rfl, rfl⟩
  | @cons row key rows keys head tail hypothesis =>
      obtain ⟨payload, time, rfl, held⟩ := head
      obtain ⟨entries, success, shown⟩ := hypothesis
      refine ⟨⟨key, payload.size, payload.isFailed, time⟩ :: entries, ?_, ?_⟩
      · rw [List.mapM_cons, Payload.summary_toRow, success]
        rfl
      · simp [held, ← shown, Summary.shown]

theorem Contents.keys_eraseAll (contents : Contents) (keys : List String) :
    (contents.eraseAll keys).keys = contents.keys \ keys.toFinset := by
  induction keys generalizing contents with
  | nil => simp [eraseAll]
  | cons key keys hypothesis =>
      have first : contents.eraseAll (key :: keys) =
          Contents.eraseAll (contents.erase key) keys := rfl
      rw [first, hypothesis, Finmap.keys_erase]
      ext other
      simp only [Finset.mem_sdiff, Finset.mem_erase, List.mem_toFinset, List.mem_cons, not_or]
      exact ⟨fun ⟨⟨apart, inside⟩, others⟩ => ⟨inside, apart, others⟩,
        fun ⟨inside, apart, others⟩ => ⟨⟨apart, inside⟩, others⟩⟩

namespace Database

variable {database : Database} {table : Table} {contents : Contents}

theorem get_represented (present : database.entries = some table)
    (represents : table.Represents contents) (key : String) :
    database.get key = .ok (contents.lookup key) := by
  rcases represents.find? key with ⟨absent, missing⟩ | ⟨payload, time, found, held⟩
  · rw [missing]
    exact get_eq_none.2 ⟨table, present, absent⟩
  · rw [held]
    exact get_eq_some.2 ⟨table, _, present, found, payload.payload_toRow key time⟩

theorem keys_represented (present : database.entries = some table)
    (represents : table.Represents contents) : database.keys = .ok contents.sorted :=
  keys_eq_ok.2 ⟨table, present, represents.keys_eq_sorted⟩

theorem summaries_represented (present : database.entries = some table)
    (represents : table.Represents contents) :
    ∃ entries, database.summaries = .ok entries ∧ entries.map Summary.shown = contents.listing := by
  obtain ⟨entries, success, shown⟩ := mapM_summary represents.rows_sorted
  refine ⟨entries, ?_, shown⟩
  rw [summaries, table_eq_ok.2 present]
  exact success

theorem deleteKeys_represented (present : database.entries = some table)
    (represents : table.Represents contents) (keys : List String) :
    database.deleteKeys keys = .ok ((contents.keys ∩ keys.toFinset).card,
      { database with entries := some (table.eraseAll keys) }) := by
  obtain ⟨erased, success, total⟩ := deleteKeys_ok present keys
  have parted := Finset.card_inter_add_card_sdiff contents.keys keys.toFinset
  rw [(represents.eraseAll keys).size_eq, represents.size_eq, Contents.keys_eraseAll] at total
  have counted : erased = (contents.keys ∩ keys.toFinset).card := by omega
  rw [success, counted]

end Database

/-- Every operation answers as on the map, and leaves a store that holds the changed map. -/
theorem Operation.run_represented (operation : Operation) {database : Database} {table : Table}
    {contents : Contents} (present : database.entries = some table)
    (represents : table.Represents contents) :
    ∃ changed after, operation.run database = .ok ((operation.apply contents).1, changed) ∧
      changed.entries = some after ∧ after.Represents (operation.apply contents).2 ∧
      changed.versions = database.versions := by
  have opened := Database.table_eq_ok.2 present
  cases operation with
  | put key payload time =>
      refine ⟨{ database with entries := some _ }, _, ?_, rfl, represents.insert key payload time,
        rfl⟩
      rw [run, Database.put, opened]
      rfl
  | delete key =>
      refine ⟨{ database with entries := some _ }, _, ?_, rfl, represents.erase key, rfl⟩
      rw [run, Database.delete, opened]
      simp only [apply, ← represents.isSome key]
      rfl
  | deleteKeys keys =>
      refine ⟨{ database with entries := some _ }, _, ?_, rfl, represents.eraseAll keys, rfl⟩
      rw [run, Database.deleteKeys_represented present represents]
      rfl
  | get key =>
      refine ⟨database, table, ?_, present, represents, rfl⟩
      rw [run, Database.get_represented present represents]
      rfl
  | hasKey key =>
      refine ⟨database, table, ?_, present, represents, rfl⟩
      rw [run, Database.hasKey, opened]
      simp only [apply, ← represents.isSome key]
      rfl
  | keys =>
      refine ⟨database, table, ?_, present, represents, rfl⟩
      rw [run, Database.keys_represented present represents]
      rfl
  | size =>
      refine ⟨database, table, ?_, present, represents, rfl⟩
      rw [run, Database.size, opened, apply, ← represents.size_eq]
      rfl
  | summaries =>
      obtain ⟨entries, success, shown⟩ := Database.summaries_represented present represents
      refine ⟨database, table, ?_, present, represents, rfl⟩
      rw [run, success, apply, ← shown]
      rfl

namespace OpenStore

/-- The open store holds the map, and its file is as the store is. -/
structure Holds (store : OpenStore) (contents : Contents) : Prop where
  represented : ∃ table, store.database.entries = some table ∧ table.Represents contents
  written : ∀ disk start path, store.medium = .file disk start path →
    disk.Ready (Place.ofPath start path) store.database

/-- At first there is nothing in the store. -/
theorem Starts.holds {store : OpenStore} (starts : store.Starts) : store.Holds ∅ := by
  cases starts with
  | memory =>
      refine ⟨⟨.empty, rfl, .empty⟩, ?_⟩
      rintro disk start path impossible
      cases impossible
  | @file disk opened start path database unused opening =>
      have empty : database.entries = some .empty := by
        rcases Disk.openStore_migrates (congrArg Prod.fst opening) with
          begun | ⟨before, found, raised⟩
        · exact Database.migrate_empty begun (.inr ⟨rfl, by decide⟩)
        · exact Database.migrate_empty raised (unused before found)
      refine ⟨⟨.empty, empty, .empty⟩, ?_⟩
      rintro other start path same
      cases same
      have readied := (Disk.openStore_spec disk start path).2 database
      rw [opening] at readied
      exact readied rfl

/-- Every action answers as on the map, and leaves a store that holds the changed map. -/
theorem act_holds {store : OpenStore} {contents : Contents} (holds : store.Holds contents)
    (action : Action) :
    (store.act action).1 = .ok (action.apply store.isKept contents).1 ∧
      (store.act action).2.Holds (action.apply store.isKept contents).2 ∧
      (store.act action).2.isKept = store.isKept := by
  obtain ⟨medium, database⟩ := store
  obtain ⟨⟨table, present, represents⟩, written⟩ := holds
  cases action with
  | use operation =>
      obtain ⟨changed, after, ran, left, kept, versions⟩ :=
        operation.run_represented present represents
      have acted : act ⟨medium, database⟩ (.use operation) =
          (.ok (operation.apply contents).1, ⟨medium.write changed, changed⟩) := by
        simp only [act, ran]
      rw [acted]
      refine ⟨rfl, ⟨⟨after, left, kept⟩, ?_⟩, by cases medium <;> rfl⟩
      cases medium with
      | memory =>
          rintro disk start path impossible
          cases impossible
      | file before start path =>
          rintro disk _ _ same
          cases same
          exact (written before start path rfl).change versions
  | reopen =>
      cases medium with
      | memory => exact ⟨rfl, Starts.memory.holds, rfl⟩
      | file before start path =>
          have ready := written before start path rfl
          have acted : act ⟨.file before start path, database⟩ .reopen =
              (.ok .done, ⟨.file (before.set (Place.ofPath start path) (.store database)) start
                path, database⟩) := by
            simp only [act, Disk.openStore_ready ready]
          rw [acted]
          refine ⟨rfl, ⟨⟨table, present, represents⟩, ?_⟩, rfl⟩
          rintro disk _ _ same
          cases same
          exact ready.change rfl

/-- All actions of a run answer as on the map, and the map is held at its end. -/
theorem actAll_holds {store : OpenStore} {contents : Contents} (holds : store.Holds contents)
    (actions : List Action) :
    (store.actAll actions).1 = (contents.actAll store.isKept actions).1.map .ok ∧
      (store.actAll actions).2.Holds (contents.actAll store.isKept actions).2 := by
  induction actions generalizing store contents with
  | nil => exact ⟨rfl, holds⟩
  | cons action actions hypothesis =>
      obtain ⟨answered, held, kept⟩ := act_holds holds action
      obtain ⟨answers, last⟩ := hypothesis held
      rw [kept] at answers last
      refine ⟨?_, last⟩
      simp only [actAll, Contents.actAll, List.map_cons, answered, answers]

/-- A store that starts empty answers every run of actions as a finite map does. At its end each
row is a body with the mark zero or no body with the mark one, no key has two rows, and a file on a
disk holds the same rows. -/
theorem actions_refine_map (store : OpenStore) (starts : store.Starts) (actions : List Action) :
    (store.actAll actions).1 = (Contents.actAll store.isKept ∅ actions).1.map .ok ∧
      ∃ table, (store.actAll actions).2.database.entries = some table ∧
        (∀ row ∈ table.rows, (row.failed = .integer 0 ∨ row.failed = .integer 1) ∧
          (row.failed = .integer 1 ↔ row.body = .null)) ∧
        (table.rows.map Row.key).Nodup ∧
        ∀ disk start path, (store.actAll actions).2.medium = .file disk start path →
          disk.node? (Place.ofPath start path) =
            some (.store (store.actAll actions).2.database) := by
  obtain ⟨answers, ⟨table, present, represents⟩, written⟩ := actAll_holds starts.holds actions
  refine ⟨answers, table, present, ?_, ?_, fun disk start path kept =>
    (written disk start path kept).found⟩
  · intro row member
    obtain ⟨key, payload, time, rfl⟩ := represents.rows row member
    exact payload.marks_toRow key time
  · refine List.pairwise_map.2 (table.ordered.imp fun {first second} before same => ?_)
    exact Key.ltIrrefl _ (same ▸ before)

/-- A new store on a disk that is used, closed and opened again. -/
def sampleStore : OpenStore :=
  ⟨.file (Disk.empty.set ["news.db"] (.store .fresh)) [] "news.db", .fresh⟩

def sampleActions : List Action :=
  [.use (.put "b" .failed "noon"), .use (.put "a\x00" (.body ⟨#[7, 0]⟩) "noon"),
    .use (.put "b" (.body .empty) "night"), .reopen, .use (.get "b"), .use .summaries,
    .use (.deleteKeys ["b", "b", "c"]), .use .keys]

theorem actions_refine_map_sample : sampleStore.Starts ∧
    [.done, .done, .done, .done, .payload (some (.body .empty)),
        .listing [("a\x00", 2, false), ("b", 0, false)], .erased 1, .keys ["a\x00"]].map .ok =
      (Contents.actAll true ∅ sampleActions).1.map (Except.ok : Answer → Except Fault Answer) := by
  have starts : sampleStore.Starts := by
    refine @Starts.file .empty _ [] "news.db" _ ?_ rfl
    rintro before found
    cases found
  exact ⟨starts, Eq.trans rfl (actions_refine_map sampleStore starts sampleActions).1⟩

end OpenStore

end FeedCache.Store
