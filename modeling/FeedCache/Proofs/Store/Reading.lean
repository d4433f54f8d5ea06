/-
This file says what is read from the table of a store.

Main statements: a key is looked up by its row alone, and all keys are listed exactly if each of
them is a text, in strictly increasing order of their bytes.
-/
import FeedCache.Proofs.Basic
import FeedCache.Store.Entries
import Mathlib.Data.List.Forall2
import Mathlib.Data.Set.List

namespace FeedCache.Store

/-- The bytes of the first text come before those of the second one. -/
def Precedes (first second : String) : Prop :=
  first.toUTF8.data.toList < second.toUTF8.data.toList

instance (first second : String) : Decidable (Precedes first second) :=
  inferInstanceAs (Decidable (_ < _))

theorem text_lt_iff {first second : String} :
    Key.text first < Key.text second ↔ Precedes first second := by
  change (0 :: first.toUTF8.data.toList : List UInt8) < 0 :: second.toUTF8.data.toList ↔ _
  rw [List.cons_lt_cons_iff]
  simp [Precedes]

theorem Precedes.ne {first second : String} (before : Precedes first second) : first ≠ second := by
  rintro rfl
  exact Key.ltIrrefl _ (text_lt_iff.2 before)

theorem Key.text_injective : Function.Injective Key.text := fun _ _ same => Key.text.inj same

@[simp] theorem toText_eq_ok {key : Key} {value : String} :
    key.toText = .ok value ↔ key = .text value := by
  cases key <;> simp [Key.toText]

/-- A payload is read back from its row as it was stored, an empty body too. -/
@[simp] theorem Payload.payload_toRow (payload : Payload) (key time : String) :
    (payload.toRow key time).payload = .ok payload := by
  cases payload <;> rfl

@[simp] theorem Payload.key_toRow (payload : Payload) (key time : String) :
    (payload.toRow key time).key = .text key := by
  cases payload <;> rfl

/-- A reading of a whole list succeeds if it does so at each element. -/
theorem mapM_eq_ok {α β ε : Type} {read : α → Except ε β} {list : List α} {results : List β} :
    list.mapM read = .ok results ↔
      List.Forall₂ (fun element result => read element = .ok result) list results := by
  induction list generalizing results with
  | nil => cases results <;> simp [pure, Except.pure]
  | cons first rest hypothesis =>
      rw [List.mapM_cons]
      cases head : read first with
      | error fault => cases results <;> simp [bind, Except.bind, head]
      | ok value =>
          cases tail : rest.mapM read with
          | error fault => cases results <;> simp [bind, Except.bind, ← hypothesis, tail, head]
          | ok values =>
              cases results <;>
                simp [bind, Except.bind, pure, Except.pure, ← hypothesis, tail, head]

/-- The body of the row is a blob or missing, and its mark is an integer of 32 bits. -/
structure Row.Readable (row : Row) : Prop where
  body : row.body = .null ∨ ∃ bytes, row.body = .blob bytes
  mark : ∃ value, row.failed = .integer value ∧ -0x80000000 ≤ value ∧ value < 0x80000000

theorem Cell.toBody_isOk {cell : Cell} :
    (∃ body, cell.toBody = .ok body) ↔ cell = .null ∨ ∃ bytes, cell = .blob bytes := by
  cases cell <;> simp [toBody]

/-- A mark is read alike wherever it stands in a query. -/
theorem Cell.toMark_eq_ok {cell : Cell} {index : Nat} {mark : Bool} :
    cell.toMark index = .ok mark ↔
      ∃ value, cell = .integer value ∧ (-0x80000000 ≤ value ∧ value < 0x80000000) ∧
        (value == 1) = mark := by
  cases cell with
  | integer value =>
      by_cases inside : -0x80000000 ≤ value ∧ value < 0x80000000 <;> simp [toMark, inside]
  | null => simp [toMark]
  | number value => simp [toMark]
  | text value => simp [toMark]
  | blob value => simp [toMark]

theorem Cell.toMark_isOk {cell : Cell} {index : Nat} :
    (∃ mark, cell.toMark index = .ok mark) ↔
      ∃ value, cell = .integer value ∧ -0x80000000 ≤ value ∧ value < 0x80000000 := by
  simp only [toMark_eq_ok]
  constructor
  · rintro ⟨mark, value, same, inside, -⟩
    exact ⟨value, same, inside⟩
  · rintro ⟨value, same, inside⟩
    exact ⟨value == 1, value, same, inside, rfl⟩

/-- A row has a payload exactly if it can be read. -/
theorem Row.payload_isOk {row : Row} : (∃ payload, row.payload = .ok payload) ↔ row.Readable := by
  constructor
  · rintro ⟨payload, success⟩
    obtain ⟨bytes, body, success⟩ := bind_eq_ok.1 success
    obtain ⟨failed, mark, -⟩ := bind_eq_ok.1 success
    exact ⟨Cell.toBody_isOk.1 ⟨bytes, body⟩, Cell.toMark_isOk.1 ⟨failed, mark⟩⟩
  · rintro ⟨body, mark⟩
    obtain ⟨bytes, body⟩ := Cell.toBody_isOk.2 body
    obtain ⟨failed, mark⟩ : ∃ failed, row.failed.toMark 1 = .ok failed := Cell.toMark_isOk.2 mark
    rw [Row.payload, body, mark]
    exact ⟨_, rfl⟩

namespace Table

/-- A row is found under a key if it is in the table and has that key. -/
theorem find?_eq_some {table : Table} {key : Key} {row : Row} :
    table.find? key = some row ↔ row ∈ table.rows ∧ row.key = key := by
  constructor
  · intro found
    exact ⟨List.mem_of_find?_eq_some found, by simpa using List.find?_some found⟩
  · rintro ⟨member, rfl⟩
    obtain ⟨before, after, split⟩ := List.append_of_mem member
    have ordered := table.ordered
    rw [split, List.pairwise_append] at ordered
    rw [find?, split, List.find?_append, List.find?_cons]
    have earlier : before.find? (fun other => other.key = row.key) = none := by
      refine List.find?_eq_none.2 fun other inside => ?_
      have less := ordered.2.2 other inside row List.mem_cons_self
      simpa using fun same : other.key = row.key => Key.ltIrrefl _ (same ▸ less)
    simp [earlier]

theorem find?_eq_none {table : Table} {key : Key} :
    table.find? key = none ↔ ∀ row ∈ table.rows, row.key ≠ key := by
  simp [find?]

theorem isSome_find?_iff {table : Table} {key : Key} :
    (table.find? key).isSome ↔ key ∈ table.rows.map Row.key := by
  rw [find?, List.find?_isSome, List.mem_map]
  simp

/-- No two rows of a table have one key. -/
theorem nodup_keys (table : Table) : (table.rows.map Row.key).Nodup := by
  refine List.pairwise_map.2 (table.ordered.imp fun {first second} before same => ?_)
  rw [same] at before
  exact Key.ltIrrefl _ before

end Table

namespace Database

theorem table_eq_ok {database : Database} {table : Table} :
    database.table = .ok table ↔ database.entries = some table := by
  unfold Database.table
  cases database.entries <;> simp

/-- Nothing is read under a key that has no row. -/
theorem get_eq_none {database : Database} {key : String} :
    database.get key = .ok none ↔
      ∃ table, database.entries = some table ∧ table.find? (.text key) = none := by
  unfold Database.get Database.table
  cases present : database.entries with
  | none => simp [bind, Except.bind]
  | some table =>
      cases found : table.find? (.text key) with
      | none => simp [bind, Except.bind, found, pure, Except.pure]
      | some row =>
          cases read : row.payload <;> simp [bind, Except.bind, found, pure, Except.pure, read]

/-- A payload is read under a key if its row has one. -/
theorem get_eq_some {database : Database} {key : String} {payload : Payload} :
    database.get key = .ok (some payload) ↔
      ∃ table row, database.entries = some table ∧ table.find? (.text key) = some row ∧
        row.payload = .ok payload := by
  unfold Database.get Database.table
  cases present : database.entries with
  | none => simp [bind, Except.bind]
  | some table =>
      cases found : table.find? (.text key) with
      | none => simp [bind, Except.bind, found, pure, Except.pure]
      | some row =>
          cases read : row.payload <;> simp [bind, Except.bind, found, pure, Except.pure, read]

/-- What is read under a key is what the row under the key is read as. -/
theorem get_of_entries {database : Database} {table : Table}
    (present : database.entries = some table) (key : String) :
    database.get key =
      ((table.find? (.text key)).map Row.payload).elim (.ok none) fun read => read.map some := by
  rw [Database.get, table_eq_ok.2 present]
  cases found : table.find? (.text key) with
  | none => simp [bind, Except.bind, found, pure, Except.pure]
  | some row => cases read : row.payload <;>
      simp [bind, Except.bind, Except.map, found, pure, Except.pure, read]

/-- A key can be looked up where there is a table and the row under the key, if any, can be read. -/
theorem get_isOk {database : Database} {key : String} :
    (∃ found, database.get key = .ok found) ↔
      ∃ table, database.entries = some table ∧
        ∀ row, table.find? (.text key) = some row → row.Readable := by
  constructor
  · rintro ⟨found, success⟩
    cases found with
    | none =>
        obtain ⟨table, present, absent⟩ := get_eq_none.1 success
        exact ⟨table, present, fun row here => by simp [absent] at here⟩
    | some payload =>
        obtain ⟨table, row, present, here, readable⟩ := get_eq_some.1 success
        refine ⟨table, present, fun other there => ?_⟩
        rw [here] at there
        cases there
        exact Row.payload_isOk.1 ⟨payload, readable⟩
  · rintro ⟨table, present, readable⟩
    cases here : table.find? (.text key) with
    | none => exact ⟨none, get_eq_none.2 ⟨table, present, here⟩⟩
    | some row =>
        obtain ⟨payload, read⟩ := Row.payload_isOk.2 (readable row here)
        exact ⟨some payload, get_eq_some.2 ⟨table, row, present, here, read⟩⟩

/-- The keys can be listed if there is a table and all its keys are texts. -/
theorem keys_eq_ok {database : Database} {keys : List String} :
    database.keys = .ok keys ↔
      ∃ table, database.entries = some table ∧ table.rows.map Row.key = keys.map Key.text := by
  unfold Database.keys Database.table
  cases present : database.entries with
  | none => simp [bind, Except.bind]
  | some table =>
      have texts : table.rows.map Row.key = keys.map Key.text ↔
          List.Forall₂ (fun row key => row.key = Key.text key) table.rows keys := by
        rw [← List.forall₂_eq_eq_eq, List.forall₂_map_left_iff, List.forall₂_map_right_iff]
      simp [bind, Except.bind, mapM_eq_ok, texts]

/-- The keys of rows are a list of texts if each of them is a text. -/
theorem exists_texts {rows : List Row} :
    (∃ keys : List String, rows.map Row.key = keys.map Key.text) ↔
      ∀ row ∈ rows, ∃ key, row.key = .text key := by
  have range := Set.ext_iff.1 (Set.range_list_map Key.text) (rows.map Row.key)
  simp only [Set.mem_range, Set.mem_ofPred_eq, List.forall_mem_map] at range
  simpa only [eq_comm] using range

/-- Listed keys are strictly increasing. -/
theorem keys_increasing {table : Table} {keys : List String}
    (listed : table.rows.map Row.key = keys.map Key.text) : keys.Pairwise Precedes := by
  have ordered := List.pairwise_map.2 table.ordered
  rw [listed, List.pairwise_map] at ordered
  exact ordered.imp text_lt_iff.1

end Database

end FeedCache.Store
