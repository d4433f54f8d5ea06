/-
This file holds the rows of a store in the order of their keys.

Main statements: an inserted row is found under its key and hides none of the others, and an
erased key is found no more.
-/
import FeedCache.Store.Cell
import FeedCache.Store.Key

namespace FeedCache.Store

/-- A stored row: the key, the body, the mark of a failure, and the time. -/
structure Row where
  key : Key
  body : Cell
  failed : Cell
  storedAt : Cell
  deriving DecidableEq

/-- The rows are in strictly increasing order of their keys. -/
structure Table where
  rows : List Row
  ordered : rows.Pairwise fun first second => first.key < second.key

instance : DecidableEq Table := fun first second =>
  decidable_of_iff (first.rows = second.rows)
    ⟨fun same => by cases first; cases second; simp_all, fun same => by rw [same]⟩

namespace Table

def empty : Table := ⟨[], .nil⟩

def size (table : Table) : Nat := table.rows.length

/-- The row under a key. -/
def find? (table : Table) (key : Key) : Option Row := table.rows.find? fun row => row.key = key

/-- A row goes to its place; one with the same key gives way. -/
def insertRow (row : Row) : List Row → List Row
  | [] => [row]
  | other :: rest =>
      if row.key < other.key then row :: other :: rest
      else if row.key = other.key then row :: rest
      else other :: insertRow row rest

theorem memInsertRow {row other : Row} {rows : List Row} (member : other ∈ insertRow row rows) :
    other = row ∨ other ∈ rows := by
  induction rows with
  | nil => simpa [insertRow] using member
  | cons first rest hypothesis =>
      rw [insertRow] at member
      split at member
      · simpa using member
      · split at member
        · rcases List.mem_cons.1 member with here | there
          · exact .inl here
          · exact .inr (List.mem_cons_of_mem _ there)
        · rcases List.mem_cons.1 member with here | there
          · exact .inr (here ▸ List.mem_cons_self)
          · exact (hypothesis there).imp_right (List.mem_cons_of_mem _)

theorem insertRowOrdered (row : Row) {rows : List Row}
    (ordered : rows.Pairwise fun first second => first.key < second.key) :
    (insertRow row rows).Pairwise fun first second => first.key < second.key := by
  induction rows with
  | nil => simp [insertRow]
  | cons first rest hypothesis =>
      have later := List.pairwise_cons.1 ordered
      rw [insertRow]
      split
      · rename_i before
        refine List.pairwise_cons.2 ⟨fun other member => ?_, ordered⟩
        rcases List.mem_cons.1 member with here | there
        · exact here ▸ before
        · exact Key.ltTrans before (later.1 other there)
      · split
        · rename_i same
          exact List.pairwise_cons.2 ⟨fun other member => same ▸ later.1 other member, later.2⟩
        · rename_i notBefore different
          refine List.pairwise_cons.2 ⟨fun other member => ?_, hypothesis later.2⟩
          rcases memInsertRow member with here | there
          · exact here ▸ Key.ltOfNotLt different notBefore
          · exact later.1 other there

def insert (table : Table) (row : Row) : Table :=
  ⟨insertRow row table.rows, insertRowOrdered row table.ordered⟩

/-- The row under a key is taken away. -/
def erase (table : Table) (key : Key) : Table :=
  ⟨table.rows.filter fun row => row.key ≠ key, table.ordered.filter _⟩

theorem findInsertRow (row : Row) (rows : List Row) (key : Key) :
    (insertRow row rows).find? (fun other => other.key = key) =
      if row.key = key then some row else rows.find? fun other => other.key = key := by
  induction rows with
  | nil => by_cases same : row.key = key <;> simp [insertRow, same]
  | cons first rest hypothesis =>
      rw [insertRow]
      split
      · by_cases same : row.key = key <;> simp [List.find?_cons, same]
      · split
        · rename_i equal
          by_cases same : row.key = key
          · simp [same]
          · simp [same, equal ▸ same]
        · rename_i different
          by_cases same : first.key = key
          · have apart : row.key ≠ key := fun equal => different (equal.trans same.symm)
            simp [same, apart]
          · rw [List.find?_cons, List.find?_cons]
            simp [same, hypothesis]

/-- An inserted row is found under its key, and all others stay. -/
@[simp] theorem findInsert (table : Table) (row : Row) (key : Key) :
    (table.insert row).find? key = if row.key = key then some row else table.find? key :=
  findInsertRow row table.rows key

/-- An erased key is found no more, and all others stay. -/
@[simp] theorem findErase (table : Table) (erased key : Key) :
    (table.erase erased).find? key = if erased = key then none else table.find? key := by
  simp only [find?, erase]
  rw [List.find?_filter]
  split
  · rename_i same
    subst same
    exact List.find?_eq_none.2 fun row _ => by simp
  · rename_i different
    congr 1
    funext row
    by_cases same : row.key = key
    · have apart : row.key ≠ erased := fun equal => different (equal.symm.trans same)
      simp [same, Ne.symm different]
    · simp [same]

end Table

end FeedCache.Store
