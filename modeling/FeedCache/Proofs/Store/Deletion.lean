/-
This file says what taking entries away does to the table of a store.

Main statements: a bulk deletion leaves exactly the rows whose keys are not listed, and it is the
same as deleting one key after another, in whatever order and however often the keys are listed.
-/
import FeedCache.Proofs.Store.Reading
import Mathlib.Data.Finset.Card

namespace FeedCache.Store

namespace Table

theorem length_without {rows : List Row} (key : Key)
    (ordered : rows.Pairwise fun first second => first.key < second.key) :
    (if (rows.find? fun row => row.key = key).isSome then 1 else 0) +
      (rows.filter fun row => row.key ≠ key).length = rows.length := by
  induction rows with
  | nil => rfl
  | cons first rest hypothesis =>
      have later := List.pairwise_cons.1 ordered
      by_cases same : first.key = key
      · have others : rest.filter (fun row => row.key ≠ key) = rest := by
          refine List.filter_eq_self.2 fun row member => ?_
          have after := later.1 row member
          simpa using fun equal : row.key = key => Key.ltIrrefl _ (same.trans equal.symm ▸ after)
        rw [List.find?_cons_of_pos (by simp [same]), List.filter_cons_of_neg (by simp [same]),
          others]
        exact Nat.add_comm 1 rest.length
      · rw [List.find?_cons_of_neg (by simp [same]), List.filter_cons_of_pos (by simp [same]),
          List.length_cons, List.length_cons, ← hypothesis later.2]
        rfl

/-- Erasing a key takes away one row if the key has one, and none otherwise. -/
theorem size_erase (table : Table) (key : Key) :
    (if (table.find? key).isSome then 1 else 0) + (table.erase key).size = table.size :=
  length_without key table.ordered

/-- All listed keys are taken away, one after the other. -/
def eraseAll (table : Table) (keys : List String) : Table :=
  keys.foldl (fun table key => table.erase (.text key)) table

@[simp] theorem eraseAll_nil (table : Table) : table.eraseAll [] = table := rfl

@[simp] theorem eraseAll_cons (table : Table) (key : String) (keys : List String) :
    table.eraseAll (key :: keys) = (table.erase (.text key)).eraseAll keys := rfl

/-- The rows that stay are those whose keys are not listed. -/
theorem eraseAll_rows (table : Table) (keys : List String) :
    (table.eraseAll keys).rows = table.rows.filter fun row => row.key ∉ keys.map Key.text := by
  induction keys generalizing table with
  | nil => simp
  | cons key keys hypothesis =>
      rw [eraseAll_cons, hypothesis, erase, List.filter_filter]
      congr 1
      funext row
      simp [Bool.and_comm]

theorem find?_eraseAll (table : Table) (keys : List String) (key : Key) :
    (table.eraseAll keys).find? key =
      if key ∈ keys.map Key.text then none else table.find? key := by
  induction keys generalizing table with
  | nil => simp
  | cons first keys hypothesis =>
      rw [eraseAll_cons, hypothesis, findErase]
      by_cases here : key = .text first
      · simp [here]
      · simp [here, Ne.symm here]

theorem eq_of_rows {left right : Table} (same : left.rows = right.rows) : left = right := by
  cases left
  cases right
  cases same
  rfl

/-- Neither the order of a list nor its repetitions matter for what it takes away. -/
theorem eraseAll_congr (table : Table) {first second : List String}
    (same : ∀ key, key ∈ first ↔ key ∈ second) : table.eraseAll first = table.eraseAll second := by
  refine eq_of_rows ?_
  have sameKeys (key : Key) : key ∈ first.map Key.text ↔ key ∈ second.map Key.text := by
    simp only [List.mem_map, same]
  simp only [eraseAll_rows, sameKeys]

/-- The distinct keys of a list that have a row. -/
def listed (table : Table) (keys : List String) : Finset String :=
  keys.toFinset.filter fun key => Key.text key ∈ table.rows.map Row.key

/-- As many rows go as there are distinct keys in the list that have one. -/
theorem card_listed (table : Table) (keys : List String) :
    (table.listed keys).card + (table.eraseAll keys).size = table.size := by
  let gone := table.rows.filter fun row => row.key ∈ keys.map Key.text
  have distinct : (gone.map Row.key).Nodup :=
    table.nodup_keys.sublist (List.filter_sublist.map Row.key)
  have named : (gone.map Row.key).toFinset = (table.listed keys).image Key.text := by
    ext key
    simp only [gone, listed, List.mem_toFinset, List.mem_map, List.mem_filter, decide_eq_true_eq,
      Finset.mem_image, Finset.mem_filter]
    constructor
    · rintro ⟨row, ⟨member, text, inside, named⟩, rfl⟩
      exact ⟨text, ⟨inside, row, member, named.symm⟩, named⟩
    · rintro ⟨text, ⟨inside, row, member, named⟩, rfl⟩
      exact ⟨row, ⟨member, text, inside, named.symm⟩, named⟩
  have counted : (table.listed keys).card = gone.length := by
    rw [← Finset.card_image_of_injective _ Key.text_injective, ← named,
      List.toFinset_card_of_nodup distinct, List.length_map]
  have parted := List.length_eq_length_filter_add (l := table.rows)
    fun row => decide (row.key ∈ keys.map Key.text)
  rw [counted, size, size, eraseAll_rows, parted]
  simp only [gone, decide_not]

end Table

namespace Database

theorem foldl_erase (keys : List String) (count : Nat) (table : Table) :
    ∃ erased, keys.foldl
        (fun (pair : Nat × Table) key =>
          (if (pair.2.find? (.text key)).isSome then pair.1 + 1 else pair.1,
            pair.2.erase (.text key)))
        (count, table) = (erased, table.eraseAll keys) ∧
      erased + (table.eraseAll keys).size = count + table.size := by
  induction keys generalizing count table with
  | nil => exact ⟨count, rfl, rfl⟩
  | cons key keys hypothesis =>
      have counted := table.size_erase (.text key)
      rw [List.foldl_cons]
      obtain ⟨erased, folded, total⟩ := hypothesis
        (if (table.find? (.text key)).isSome then count + 1 else count) (table.erase (.text key))
      refine ⟨erased, folded, ?_⟩
      rw [Table.eraseAll_cons, total]
      split at counted
      · rename_i present
        simp only [present, ↓reduceIte]
        omega
      · rename_i absent
        simp only [absent, Bool.false_eq_true, ↓reduceIte]
        omega

/-- A bulk deletion succeeds where there is a table, and its answer is the number of rows that
went. -/
theorem deleteKeys_ok {database : Database} {table : Table}
    (present : database.entries = some table) (keys : List String) :
    ∃ erased, database.deleteKeys keys =
        .ok (erased, { database with entries := some (table.eraseAll keys) }) ∧
      erased + (table.eraseAll keys).size = table.size := by
  cases keys with
  | nil => exact ⟨0, by simp [deleteKeys, ← present], by simp⟩
  | cons key keys =>
      obtain ⟨erased, folded, total⟩ := foldl_erase (key :: keys) 0 table
      refine ⟨erased, ?_, by rw [total, Nat.zero_add]⟩
      simp only [deleteKeys, List.isEmpty_cons, Bool.false_eq_true, ↓reduceIte,
        table_eq_ok.2 present, bind, Except.bind, folded]
      rfl

/-- A bulk deletion succeeds where the device takes in what it leaves. -/
theorem deleteKeys_accepted {database : Database} {table : Table} {keys : List String}
    {device : Device} (present : database.entries = some table)
    (accepted : keys ≠ [] →
      device.refuses database { database with entries := some (table.eraseAll keys) } = none) :
    ∃ result, database.deleteKeys keys device = .ok result := by
  cases keys with
  | nil => exact ⟨_, rfl⟩
  | cons key keys =>
      obtain ⟨erased, folded, -⟩ := foldl_erase (key :: keys) 0 table
      simp only [deleteKeys, List.isEmpty_cons, Bool.false_eq_true, ↓reduceIte,
        table_eq_ok.2 present, bind, Except.bind, folded, Device.write,
        accepted (List.cons_ne_nil key keys)]
      exact ⟨_, rfl⟩

/-- The keys are deleted one after another. Each deletion answers whether there was an entry. -/
def deleteEach (database : Database) : List String → Except Fault (List Bool × Database)
  | [] => .ok ([], database)
  | key :: keys => do
      let (present, rest) ← database.delete key
      let (answers, last) ← rest.deleteEach keys
      return (present :: answers, last)

/-- A deletion succeeds where there is a table. -/
theorem delete_ok {database : Database} {table : Table} (present : database.entries = some table)
    (key : String) : database.delete key = .ok ((table.find? (.text key)).isSome,
      { database with entries := some (table.erase (.text key)) }) := by
  rw [delete, table_eq_ok.2 present]
  rfl

/-- Deletions one after another leave what a bulk deletion does, and as many of them find an entry
as there are rows that went. -/
theorem deleteEach_ok {database : Database} {table : Table}
    (present : database.entries = some table) (keys : List String) :
    ∃ answers, database.deleteEach keys =
        .ok (answers, { database with entries := some (table.eraseAll keys) }) ∧
      answers.count true + (table.eraseAll keys).size = table.size := by
  induction keys generalizing database table with
  | nil => exact ⟨[], by simp [deleteEach, ← present], by simp⟩
  | cons key keys hypothesis =>
      obtain ⟨answers, deleted, total⟩ :=
        @hypothesis { database with entries := some (table.erase (.text key)) } _ rfl
      refine ⟨(table.find? (.text key)).isSome :: answers, ?_, ?_⟩
      · rw [deleteEach, delete_ok present]
        simp only [bind, Except.bind, deleted]
        rfl
      · rw [Table.eraseAll_cons, List.count_cons, Nat.add_right_comm, total, Nat.add_comm,
          ← table.size_erase (.text key)]
        simp

/-- Without a table only the empty list can be deleted, at once or one key after another. -/
theorem deleteKeys_missing {database : Database} (missing : database.entries = none)
    (keys : List String) :
    database.deleteKeys keys =
        (if keys = [] then .ok (0, database) else .error (.missingTable "entries")) ∧
      database.deleteEach keys =
        if keys = [] then .ok ([], database) else .error (.missingTable "entries") := by
  cases keys with
  | nil => exact ⟨rfl, rfl⟩
  | cons key keys =>
      have failed : database.table = .error (.missingTable "entries") := by
        rw [Database.table, missing]
      simp [deleteKeys, deleteEach, delete, failed, bind, Except.bind]

theorem deleteKeys_eq_deleteEach (database : Database) (keys : List String) :
    database.deleteKeys keys =
      (database.deleteEach keys).map fun (answers, last) => (answers.count true, last) := by
  cases present : database.entries with
  | none =>
      obtain ⟨bulk, each⟩ := deleteKeys_missing present keys
      rw [bulk, each]
      split <;> rfl
  | some table =>
      obtain ⟨erased, bulk, total⟩ := deleteKeys_ok present keys
      obtain ⟨answers, each, counted⟩ := deleteEach_ok present keys
      have same : erased = answers.count true := by omega
      rw [bulk, each, same]
      rfl

theorem deleteKeys_congr (database : Database) {first second : List String}
    (same : ∀ key, key ∈ first ↔ key ∈ second) :
    database.deleteKeys first = database.deleteKeys second := by
  cases present : database.entries with
  | none =>
      have empty : first = [] ↔ second = [] := by
        simp only [List.eq_nil_iff_forall_not_mem, same]
      rw [(deleteKeys_missing present first).1, (deleteKeys_missing present second).1]
      simp only [empty]
  | some table =>
      obtain ⟨erased, left, total⟩ := deleteKeys_ok present first
      obtain ⟨others, right, counted⟩ := deleteKeys_ok present second
      rw [table.eraseAll_congr same] at left total
      have equal : erased = others := by omega
      rw [left, right, equal]

/-- A bulk deletion is the deletion of one key after another, and it counts those that find an
entry: as many as there are distinct keys in the list that have one. The order and the repetitions
of the list do not matter. Exactly the rows with listed keys go. -/
theorem deletions_agree (database : Database) (keys : List String) :
    database.deleteKeys keys =
        ((database.deleteEach keys).map fun (answers, last) => (answers.count true, last)) ∧
    (∀ others : List String, (∀ key, key ∈ others ↔ key ∈ keys) →
      database.deleteKeys others = database.deleteKeys keys) ∧
    ∀ table, database.entries = some table → ∃ count rest,
      database.deleteKeys keys = .ok (count, { database with entries := some rest }) ∧
      count = (table.listed keys).card ∧
      database.size = .ok (count + rest.size) ∧
      Database.size { database with entries := some rest } = .ok rest.size ∧
      rest.rows = (table.rows.filter fun row => row.key ∉ keys.map Key.text) ∧
      (∀ row ∈ table.rows, (∀ key, row.key ≠ .text key) → row ∈ rest.rows) ∧
      ∀ key ∈ keys, Database.get { database with entries := some rest } key = .ok none := by
  refine ⟨database.deleteKeys_eq_deleteEach keys, fun others same => database.deleteKeys_congr same,
    fun table present => ?_⟩
  obtain ⟨count, deleted, total⟩ := deleteKeys_ok present keys
  have counted := table.card_listed keys
  refine ⟨count, table.eraseAll keys, deleted, ?_, ?_, rfl, table.eraseAll_rows keys, ?_, ?_⟩
  · omega
  · rw [size, table_eq_ok.2 present, total]
    rfl
  · intro row member foreign
    rw [Table.eraseAll_rows, List.mem_filter, decide_eq_true_eq]
    refine ⟨member, fun inside => ?_⟩
    obtain ⟨key, -, named⟩ := List.mem_map.1 inside
    exact foreign key named.symm
  · intro key inside
    refine get_eq_none.2 ⟨_, rfl, ?_⟩
    rw [Table.find?_eraseAll, if_pos (List.mem_map_of_mem inside)]

/-- A table with an entry, a row that cannot be read, and a row whose key is no text. -/
def foreignTable : Table :=
  [⟨.text "a", .blob ⟨#[7]⟩, .integer 0, .text "noon"⟩,
    ⟨.text "b", .integer 5, .text "no", .text "noon"⟩,
    ⟨.blob ⟨#[0x62]⟩, .null, .integer 1, .text "noon"⟩].foldl Table.insert .empty

/-- A row that cannot be read is deleted like any other, and it counts once. -/
theorem deletions_agree_sample :
    let database : Database := ⟨some [latestVersion], some foreignTable⟩
    (∀ key, key ∈ ["c", "b"] ↔ key ∈ ["b", "c", "b"]) ∧
      database.deleteKeys ["c", "b"] = database.deleteKeys ["b", "c", "b"] ∧
      ∃ rest, database.deleteKeys ["b", "c", "b"] =
          .ok (1, { database with entries := some rest }) ∧
        rest.rows.map Row.key = [.text "a", .blob ⟨#[0x62]⟩] ∧
        Database.get { database with entries := some rest } "b" = .ok none := by
  intro database
  have same : ∀ key, key ∈ ["c", "b"] ↔ key ∈ ["b", "c", "b"] := by
    intro key
    simp [or_comm]
  obtain ⟨-, others, of_table⟩ := deletions_agree database ["b", "c", "b"]
  obtain ⟨count, rest, deleted, counted, -, -, rows, -, gone⟩ := of_table foreignTable rfl
  have one : count = 1 := by
    rw [counted]
    decide +kernel
  refine ⟨same, others _ same, rest, one ▸ deleted, ?_, gone "b" (by simp)⟩
  rw [rows]
  decide +kernel

end Database

end FeedCache.Store
