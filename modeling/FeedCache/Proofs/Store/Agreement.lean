/-
This file compares what the readings of a store say about one table, whoever has written its rows.

Main statement: a key is there for one reading exactly if it is for the others, both listings have
the same keys, and each of them fails exactly if there is a row that it cannot show.
-/
import FeedCache.Proofs.Disk.Opening
import FeedCache.Proofs.Store.Operation

namespace FeedCache.Store

section Lists

variable {α β ε : Type} {read : α → Except ε β} {list : List α}

/-- A reading of a whole list succeeds if it does so at each element. -/
theorem mapM_isOk : (∃ results, list.mapM read = .ok results) ↔
    ∀ element ∈ list, ∃ result, read element = .ok result := by
  induction list with
  | nil => simp [pure, Except.pure]
  | cons first rest hypothesis =>
      rw [List.mapM_cons, List.forall_mem_cons, ← hypothesis]
      constructor
      · rintro ⟨results, success⟩
        obtain ⟨result, head, success⟩ := bind_eq_ok.1 success
        obtain ⟨others, tail, -⟩ := bind_eq_ok.1 success
        exact ⟨⟨result, head⟩, ⟨others, tail⟩⟩
      · rintro ⟨⟨result, head⟩, ⟨others, tail⟩⟩
        rw [head, tail]
        exact ⟨_, rfl⟩

/-- Each result was read from an element of the list. -/
theorem exists_of_mem_mapM {results : List β} {result : β} (success : list.mapM read = .ok results)
    (member : result ∈ results) : ∃ element ∈ list, read element = .ok result := by
  have pairs := List.forall₂_iff_get.1 (mapM_eq_ok.1 success)
  obtain ⟨index, inside, found⟩ := List.getElem_of_mem member
  have shorter : index < list.length := by
    have := pairs.1
    omega
  have one := pairs.2 index shorter inside
  simp only [List.get_eq_getElem, found] at one
  exact ⟨list[index], List.getElem_mem shorter, one⟩

end Lists

/-- The row can be listed: its key and its time are texts, and its mark is an integer of 32 bits.
Nothing is asked of its body. -/
structure Row.Listable (row : Row) : Prop where
  key : ∃ key, row.key = .text key
  mark : ∃ value, row.failed = .integer value ∧ -0x80000000 ≤ value ∧ value < 0x80000000
  time : ∃ time, row.storedAt = .text time

@[simp] theorem toTime_eq_ok {cell : Cell} {time : String} :
    cell.toTime = .ok time ↔ cell = .text time := by
  cases cell <;> simp [Cell.toTime]

namespace Row

variable {row : Row}

/-- A row is listed by its key, its mark, its time, and the length of whatever its body is. -/
theorem summary_eq_ok {entry : Summary} :
    row.summary = .ok entry ↔ row.key = .text entry.key ∧ row.failed.toMark 2 = .ok entry.failed ∧
      row.storedAt = .text entry.storedAt ∧ row.body.length = entry.size := by
  constructor
  · intro success
    obtain ⟨key, named, success⟩ := bind_eq_ok.1 success
    obtain ⟨failed, marked, success⟩ := bind_eq_ok.1 success
    obtain ⟨time, timed, success⟩ := bind_eq_ok.1 success
    cases success
    exact ⟨toText_eq_ok.1 named, marked, toTime_eq_ok.1 timed, rfl⟩
  · rintro ⟨named, marked, timed, sized⟩
    rw [summary, toText_eq_ok.2 named, marked, toTime_eq_ok.2 timed, sized]
    rfl

theorem summary_isOk : (∃ entry, row.summary = .ok entry) ↔ row.Listable := by
  constructor
  · rintro ⟨entry, success⟩
    obtain ⟨named, marked, timed, -⟩ := summary_eq_ok.1 success
    exact ⟨⟨_, named⟩, Cell.toMark_isOk.1 ⟨_, marked⟩, ⟨_, timed⟩⟩
  · rintro ⟨⟨key, named⟩, marked, ⟨time, timed⟩⟩
    obtain ⟨failed, marked⟩ : ∃ failed, row.failed.toMark 2 = .ok failed :=
      Cell.toMark_isOk.2 marked
    exact ⟨⟨key, row.body.length, failed, time⟩, summary_eq_ok.2 ⟨named, marked, timed, rfl⟩⟩

/-- What is wrong with a row that cannot be listed. -/
theorem not_listable_iff : ¬row.Listable ↔ (∀ text, row.key ≠ .text text) ∨
    (∀ value, row.failed = .integer value → ¬(-0x80000000 ≤ value ∧ value < 0x80000000)) ∨
    ∀ text, row.storedAt ≠ .text text := by
  have parts : row.Listable ↔ (∃ text, row.key = .text text) ∧
      (∃ value, row.failed = .integer value ∧ -0x80000000 ≤ value ∧ value < 0x80000000) ∧
      ∃ text, row.storedAt = .text text :=
    ⟨fun listable => ⟨listable.key, listable.mark, listable.time⟩,
      fun ⟨key, mark, time⟩ => ⟨key, mark, time⟩⟩
  rw [parts, not_and_or, not_and_or, not_exists, not_exists, not_exists]
  simp only [not_and]

/-- A body that can be read has the length that is listed. -/
theorem length_of_toBody {cell : Cell} {body : Option ByteArray}
    (success : cell.toBody = .ok body) : cell.length = (body.getD .empty).size := by
  cases cell with
  | null =>
      cases success
      rfl
  | blob bytes =>
      cases success
      rfl
  | integer value => cases success
  | number value => cases success
  | text value => cases success

/-- A row that is listed and can be read is listed as what it is read as. -/
theorem summary_of_payload {entry : Summary} {payload : Payload}
    (listed : row.summary = .ok entry) (readable : row.payload = .ok payload) :
    entry.failed = payload.isFailed ∧ ∀ bytes, payload = .body bytes → entry.size = bytes.size := by
  obtain ⟨-, marked, -, sized⟩ := summary_eq_ok.1 listed
  obtain ⟨body, stored, readable⟩ := bind_eq_ok.1 readable
  obtain ⟨failed, found, readable⟩ := bind_eq_ok.1 readable
  have second : row.failed.toMark 2 = .ok failed :=
    Cell.toMark_eq_ok.2 (Cell.toMark_eq_ok.1 found)
  have same : failed = entry.failed := Except.ok.inj (second.symm.trans marked)
  cases readable
  rw [← same, ← sized, length_of_toBody stored]
  cases failed with
  | true => exact ⟨rfl, nofun⟩
  | false => exact ⟨rfl, fun bytes here => congrArg ByteArray.size (Payload.body.inj here)⟩

end Row

namespace Database

variable {versions : Option (List Int)} {table : Table} {key : String}

theorem hasKey_eq : hasKey ⟨versions, some table⟩ key = .ok (table.find? (.text key)).isSome := rfl

/-- A key is looked up in vain exactly if it has no row, whatever its row holds. -/
theorem get_eq_none_iff :
    get ⟨versions, some table⟩ key = .ok none ↔ (table.find? (.text key)).isSome = false := by
  simp [get_eq_none]

/-- A key is listed exactly if it has a row. -/
theorem mem_keys_iff {keys : List String} (listed : table.rows.map Row.key = keys.map Key.text) :
    key ∈ keys ↔ (table.find? (.text key)).isSome := by
  rw [Table.isSome_find?_iff, listed, List.mem_map_of_injective Key.text_injective]

/-- The keys can be listed exactly if all of them are texts. -/
theorem keys_isOk : (∃ keys, Database.keys ⟨versions, some table⟩ = .ok keys) ↔
    ∀ row ∈ table.rows, ∃ text, row.key = .text text := by
  simp [keys_eq_ok, exists_texts]

/-- All entries can be listed exactly if each of the rows can. -/
theorem summaries_isOk : (∃ entries, summaries ⟨versions, some table⟩ = .ok entries) ↔
    ∀ row ∈ table.rows, row.Listable := by
  have whole : summaries ⟨versions, some table⟩ = table.rows.mapM Row.summary := rfl
  simp only [whole, mapM_isOk, Row.summary_isOk]

/-- The listed entries have the listed keys. -/
theorem keys_of_summaries {entries : List Summary}
    (listed : summaries ⟨versions, some table⟩ = .ok entries) :
    Database.keys ⟨versions, some table⟩ = .ok (entries.map Summary.key) := by
  have rows : table.rows.mapM Row.summary = .ok entries := listed
  have named := (mapM_eq_ok.1 rows).imp fun row entry success => (Row.summary_eq_ok.1 success).1
  refine keys_eq_ok.2 ⟨table, rfl, ?_⟩
  rw [List.map_map, ← List.forall₂_eq_eq_eq, List.forall₂_map_left_iff,
    List.forall₂_map_right_iff]
  exact named

/-- A listed entry has a row, and is listed as what the row is read as. -/
theorem get_of_summaries {entries : List Summary} {entry : Summary} {found : Option Payload}
    (listed : summaries ⟨versions, some table⟩ = .ok entries) (member : entry ∈ entries)
    (readable : get ⟨versions, some table⟩ entry.key = .ok found) :
    ∃ payload, found = some payload ∧ entry.failed = payload.isFailed ∧
      ∀ bytes, payload = .body bytes → entry.size = bytes.size := by
  have rows : table.rows.mapM Row.summary = .ok entries := listed
  obtain ⟨row, inside, shown⟩ := exists_of_mem_mapM rows member
  have here := Table.find?_eq_some.2 ⟨inside, (Row.summary_eq_ok.1 shown).1⟩
  cases found with
  | none =>
      obtain ⟨other, same, absent⟩ := get_eq_none.1 readable
      cases same
      rw [here] at absent
      cases absent
  | some payload =>
      obtain ⟨other, stored, same, there, success⟩ := get_eq_some.1 readable
      cases same
      cases here.symm.trans there
      exact ⟨payload, rfl, Row.summary_of_payload shown success⟩

end Database

/-- The operations that only read. -/
def Operation.isReading : Operation → Bool
  | .get _ | .hasKey _ | .keys | .size | .summaries => true
  | .put _ _ _ | .delete _ | .deleteKeys _ => false

/-- A reading that succeeds gives back the store as it is. -/
theorem Operation.run_reading {operation : Operation} {database after : Database} {answer : Answer}
    (reads : operation.isReading) (success : operation.run database = .ok (answer, after)) :
    after = database := by
  cases operation with
  | put key payload time => cases reads
  | delete key => cases reads
  | deleteKeys keys => cases reads
  | get key | hasKey key | keys | size | summaries =>
      obtain ⟨found, -, same⟩ := bind_eq_ok.1 success
      cases same
      rfl

/-- What is at each place of the disk that a store is kept on; in memory there is nothing. -/
def Medium.node? (medium : Medium) (place : Place) : Option Node :=
  match medium with
  | .memory => none
  | .file disk _ _ => disk.node? place

/-- A store that is kept in a file is in its file. -/
def OpenStore.IsWritten (store : OpenStore) : Prop :=
  ∀ disk start path, store.medium = .file disk start path →
    disk.node? (Place.ofPath start path) = some (.store store.database)

/-- A reading leaves an open store as it is, with its file and every other place on the disk. -/
theorem OpenStore.act_reading {store : OpenStore} {operation : Operation}
    (written : store.IsWritten) (reads : operation.isReading) :
    (store.act (.use operation)).2.database = store.database ∧
      ∀ place, (store.act (.use operation)).2.medium.node? place = store.medium.node? place := by
  obtain ⟨medium, database⟩ := store
  cases ran : operation.run database with
  | error fault => simp [act, ran]
  | ok result =>
      obtain ⟨answer, after⟩ := result
      cases operation.run_reading reads ran
      simp only [act, ran, true_and]
      intro place
      cases medium with
      | memory => rfl
      | file disk start path =>
          have found := written disk start path rfl
          have below : Place.ofPath start path ≠ [] := by
            intro root
            simp [root, Disk.node?] at found
          simp only [Medium.write, Medium.node?, Disk.node?_set disk below]
          split
          · rename_i here
            rw [here, found]
          · rfl

/-- The readings of a store agree, whatever its table holds. A key is there exactly if it is not
looked up in vain, and it is there exactly if it is listed among the keys, which are strictly
increasing and as many as there are rows. The entries are listed under the same keys, and one that
can be read is listed as what it is read as. The keys cannot be listed exactly if one of them is no
text, and the entries exactly if some row has a key or a time that is no text, or a mark that is no
integer of 32 bits. No reading changes anything. -/
theorem readings_agree (versions : Option (List Int)) (table : Table) :
    let database : Database := ⟨versions, some table⟩
    (∀ key, ∃ present, database.hasKey key = .ok present ∧
      (present = true ↔ database.get key ≠ .ok none)) ∧
    (∀ keys, database.keys = .ok keys →
      keys.Pairwise Precedes ∧ (∀ key, key ∈ keys ↔ database.hasKey key = .ok true) ∧
        database.size = .ok keys.length) ∧
    ((∃ fault, database.keys = .error fault) ↔
      ∃ row ∈ table.rows, ∀ text, row.key ≠ .text text) ∧
    (∀ entries, database.summaries = .ok entries →
      database.keys = .ok (entries.map Summary.key) ∧
      ∀ entry ∈ entries, ∀ found, database.get entry.key = .ok found →
        ∃ payload, found = some payload ∧ entry.failed = payload.isFailed ∧
          ∀ bytes, payload = .body bytes → entry.size = bytes.size) ∧
    ((∃ fault, database.summaries = .error fault) ↔
      ∃ row ∈ table.rows, (∀ text, row.key ≠ .text text) ∨
        (∀ value, row.failed = .integer value → ¬(-0x80000000 ≤ value ∧ value < 0x80000000)) ∨
        ∀ text, row.storedAt ≠ .text text) ∧
    ∀ (medium : Medium) (operation : Operation), OpenStore.IsWritten ⟨medium, database⟩ →
      operation.isReading →
      let after := (OpenStore.act ⟨medium, database⟩ (.use operation)).2
      after.database = database ∧ ∀ place, after.medium.node? place = medium.node? place := by
  intro database
  refine ⟨fun key => ⟨_, Database.hasKey_eq, ?_⟩, fun keys listed => ?_, ?_,
    fun entries listed => ⟨Database.keys_of_summaries listed, fun entry member found =>
      Database.get_of_summaries listed member⟩, ?_,
    fun medium operation written reads => OpenStore.act_reading written reads⟩
  · rw [Ne, Database.get_eq_none_iff, Bool.not_eq_false]
  · obtain ⟨other, same, texts⟩ := Database.keys_eq_ok.1 listed
    cases same
    refine ⟨Database.keys_increasing texts, fun key => ?_, ?_⟩
    · rw [Database.mem_keys_iff texts, Database.hasKey_eq, Except.ok.injEq]
    · have lengths := congrArg List.length texts
      rw [List.length_map, List.length_map] at lengths
      exact congrArg Except.ok lengths
  · rw [exists_error_iff, Database.keys_isOk]
    push Not
    rfl
  · rw [exists_error_iff, Database.summaries_isOk]
    simp only [not_forall, exists_prop, Row.not_listable_iff]

/-- A row with a mark of more than 32 bits. -/
def oddRow : Row := ⟨.text "b", .text "body", .integer 0x80000000, .text "noon"⟩

def oddTable : Table :=
  (Table.empty.insert ⟨.text "a", .null, .integer 2, .text "noon"⟩).insert oddRow

theorem readings_agree_sample :
    let database : Database := ⟨some [latestVersion], some oddTable⟩
    let store : OpenStore :=
      ⟨.file (Disk.empty.set ["news.db"] (.store database)) [] "news.db", database⟩
    database.keys = .ok ["a", "b"] ∧ database.size = .ok 2 ∧ database.hasKey "b" = .ok true ∧
      database.get "b" ≠ .ok none ∧ (∃ fault, database.summaries = .error fault) ∧
      (store.act (.use .summaries)).2.database = database := by
  intro database store
  obtain ⟨present, keys, -, -, entries, kept⟩ := readings_agree (some [latestVersion]) oddTable
  have listed : database.keys = .ok ["a", "b"] := rfl
  obtain ⟨-, same, counted⟩ := keys ["a", "b"] listed
  have there : database.hasKey "b" = .ok true := (same "b").1 (by decide)
  obtain ⟨found, answered, looked⟩ := present "b"
  have yes : found = true := Except.ok.inj (answered.symm.trans there)
  have written : store.IsWritten := by
    rintro disk start path ⟨rfl⟩
    rfl
  have unlisted : ∃ fault, database.summaries = .error fault := by
    refine entries.2 ⟨oddRow, List.mem_cons_of_mem _ List.mem_cons_self, .inr (.inl ?_)⟩
    rintro value ⟨rfl⟩
    decide
  exact ⟨listed, counted, there, looked.1 yes, unlisted,
    (kept store.medium .summaries written rfl).1⟩

end FeedCache.Store
