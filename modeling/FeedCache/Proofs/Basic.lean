/-
This file collects what the proofs share about computations that may fail and about lists in which
something is looked up.
-/
namespace FeedCache

section

variable {ε φ α β : Type} {result : Except ε α} {answer : β}

theorem bind_eq_ok {next : α → Except ε β} :
    result.bind next = .ok answer ↔ ∃ value, result = .ok value ∧ next value = .ok answer := by
  cases result with
  | error fault => simp [Except.bind]
  | ok value => simp [Except.bind]

theorem map_eq_ok {change : α → β} :
    result.map change = .ok answer ↔ ∃ value, result = .ok value ∧ change value = answer := by
  cases result with
  | error fault => simp [Except.map]
  | ok value => simp [Except.map]

theorem mapError_eq_ok {change : ε → φ} {value : α} :
    result.mapError change = .ok value ↔ result = .ok value := by
  cases result with
  | error fault => exact iff_of_false nofun nofun
  | ok found =>
      constructor
      · intro same
        exact congrArg Except.ok (Except.ok.inj same)
      · intro same
        exact congrArg Except.ok (Except.ok.inj same)

/-- What does not fail gives a value. -/
theorem exists_error_iff : (∃ fault, result = .error fault) ↔ ¬∃ value, result = .ok value := by
  cases result <;> simp

theorem eq_ok_of_toOption {value : α} (found : result.toOption = some value) :
    result = .ok value := by
  cases result with
  | error fault => cases found
  | ok other => exact congrArg _ (Option.some.inj found)

end

section

variable {ε α : Type} {check : α → Except ε Unit}

/-- A check of a whole list passes if each entry does. -/
theorem forM_eq_ok_iff (list : List α) :
    forM list check = .ok () ↔ ∀ entry ∈ list, check entry = .ok () := by
  induction list with
  | nil => exact iff_of_true rfl (by simp)
  | cons entry list hypothesis =>
      rw [List.forM_cons, List.forall_mem_cons, ← hypothesis]
      cases check entry with
      | error fault => exact iff_of_false nofun nofun
      | ok passed => exact (and_iff_right rfl).symm

/-- A check of a whole list fails because of an entry. -/
theorem exists_of_forM_eq_error {list : List α} {fault : ε}
    (failed : forM list check = .error fault) : ∃ entry ∈ list, check entry = .error fault := by
  induction list with
  | nil => cases failed
  | cons entry list hypothesis =>
      rw [List.forM_cons] at failed
      cases checked : check entry with
      | error other =>
          rw [checked] at failed
          cases failed
          exact ⟨entry, List.mem_cons_self, checked⟩
      | ok passed =>
          rw [checked] at failed
          obtain ⟨later, member, found⟩ := hypothesis failed
          exact ⟨later, List.mem_cons_of_mem entry member, found⟩

end

/-- Entries that give nothing may be left out of a search. -/
theorem findSome?_filter {α β : Type} {keeps : α → Bool} {read : α → Option β} (list : List α)
    (passed : ∀ entry, keeps entry = false → read entry = none) :
    (list.filter keeps).findSome? read = list.findSome? read := by
  induction list with
  | nil => rfl
  | cons entry list hypothesis =>
      cases kept : keeps entry with
      | true =>
          rw [List.filter_cons_of_pos kept, List.findSome?_cons, List.findSome?_cons, hypothesis]
      | false =>
          rw [List.filter_cons_of_neg (by simp [kept]), List.findSome?_cons, passed entry kept]
          exact hypothesis

section

variable {κ α : Type} [BEq κ] [LawfulBEq κ]

/-- A key is found as before if entries with other keys are left out. -/
theorem lookup_filter (keeps : κ → Bool) (list : List (κ × α)) {key : κ} (kept : keeps key) :
    (list.filter fun entry => keeps entry.1).lookup key = list.lookup key := by
  rw [List.lookup_eq_findSome?, List.lookup_eq_findSome?]
  refine findSome?_filter list fun entry dropped => if_neg fun same => ?_
  rw [← beq_iff_eq.1 same, kept] at dropped
  cases dropped

theorem lookup_cons_ite [DecidableEq κ] (entry : κ × α) (entries : List (κ × α)) (key : κ) :
    (entry :: entries).lookup key = if key = entry.1 then some entry.2 else entries.lookup key := by
  rw [List.lookup_cons]
  by_cases same : key = entry.1
  · rw [beq_iff_eq.2 same, if_pos same]
  · rw [beq_eq_false_iff_ne.2 same, if_neg same]

end

end FeedCache
