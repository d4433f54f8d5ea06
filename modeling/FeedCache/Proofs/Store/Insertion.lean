/-
This file says what is found in a table after several rows were inserted.
-/
import FeedCache.Proofs.Store.Reading

namespace FeedCache.Store.Table

/-- All rows are inserted, one after the other. -/
def insertAll (table : Table) (rows : List Row) : Table := rows.foldl insert table

@[simp] theorem insertAll_nil (table : Table) : table.insertAll [] = table := rfl

@[simp] theorem insertAll_cons (table : Table) (row : Row) (rows : List Row) :
    table.insertAll (row :: rows) = (table.insert row).insertAll rows := rfl

theorem insertAll_append (table : Table) (first second : List Row) :
    table.insertAll (first ++ second) = (table.insertAll first).insertAll second :=
  List.foldl_append

/-- What is under other keys stays. -/
theorem find?_insertAll_of_ne {rows : List Row} {key : Key}
    (others : ∀ row ∈ rows, row.key ≠ key) (table : Table) :
    (table.insertAll rows).find? key = table.find? key := by
  induction rows generalizing table with
  | nil => rfl
  | cons first rows hypothesis =>
      obtain ⟨here, later⟩ := List.forall_mem_cons.1 others
      rw [insertAll_cons, hypothesis later, findInsert, if_neg here]

/-- Each of the rows is found, if no two of them have one key. -/
theorem find?_insertAll_of_mem {rows : List Row} (distinct : (rows.map Row.key).Nodup) {row : Row}
    (member : row ∈ rows) (table : Table) : (table.insertAll rows).find? row.key = some row := by
  induction rows generalizing table with
  | nil => cases member
  | cons first rows hypothesis =>
      obtain ⟨apart, later⟩ := List.nodup_cons.1 distinct
      rw [insertAll_cons]
      rcases List.mem_cons.1 member with rfl | inside
      · rw [find?_insertAll_of_ne, findInsert, if_pos rfl]
        rintro other inside same
        exact apart (same ▸ List.mem_map_of_mem inside)
      · exact hypothesis later inside _

/-- A key has a row afterwards if it had one before or one of the rows has it. -/
theorem isSome_find?_insertAll (table : Table) (rows : List Row) (key : Key) :
    ((table.insertAll rows).find? key).isSome ↔
      (table.find? key).isSome ∨ ∃ row ∈ rows, row.key = key := by
  induction rows generalizing table with
  | nil => simp
  | cons first rows hypothesis =>
      rw [insertAll_cons, hypothesis, findInsert]
      by_cases here : first.key = key <;> simp [here]

end FeedCache.Store.Table
