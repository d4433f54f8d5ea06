/-
This file says that what is written of a value determines the value.

Main statement: no two values are written alike, whatever stands after them.
-/
import FeedCache.Json.Writer
import FeedCache.Proofs.Text.Characters
import Mathlib.Logic.Function.Basic

namespace FeedCache.Json

/-- What is left is no more of a number. -/
def Stops (rest : List Char) : Prop := ∀ c ∈ rest.head?, c.isDigit = false

/-- What is left starts with the end of a line. -/
def Breaks (rest : List Char) : Prop := ∃ more, rest = '\n' :: more

theorem Breaks.stops {rest : List Char} (breaks : Breaks rest) : Stops rest := by
  obtain ⟨more, rfl⟩ := breaks
  rintro c ⟨⟩
  rfl

theorem breaks_lineStart (level : Nat) (rest : List Char) : Breaks (lineStart level ++ rest) :=
  ⟨List.replicate (2 * level) ' ' ++ rest, rfl⟩

/-- The character that is escaped, and what is left of the text. -/
def unescape : List Char → Option (Char × List Char)
  | '\\' :: '"' :: rest => some ('"', rest)
  | '\\' :: '\\' :: rest => some ('\\', rest)
  | '\\' :: 'b' :: rest => some ('\x08', rest)
  | '\\' :: 'f' :: rest => some ('\x0c', rest)
  | '\\' :: 'n' :: rest => some ('\n', rest)
  | '\\' :: 'r' :: rest => some ('\r', rest)
  | '\\' :: 't' :: rest => some ('\t', rest)
  | '\\' :: 'u' :: _ :: _ :: high :: low :: rest =>
      some (Char.ofNat (Text.hexNumber [high, low]), rest)
  | c :: rest => some (c, rest)
  | [] => none

theorem hexNumber_hexDigits : ∀ number < 0x20,
    Text.hexNumber [Text.hexDigit (number / 16), Text.hexDigit number] = number := by decide

theorem unescape_escape (c : Char) (rest : List Char) :
    unescape (escape c ++ rest) = some (c, rest) := by
  unfold escape
  split
  case h_8 quote backslash _ _ _ _ _ =>
    split
    · rename_i control
      simp only [List.cons_append, List.nil_append, unescape,
        hexNumber_hexDigits c.toNat control, Char.ofNat_toNat]
    · rw [List.singleton_append, unescape.eq_def]
      split <;> simp_all
  all_goals rfl

theorem head?_escape (c : Char) (rest : List Char) : (escape c ++ rest).head? ≠ some '"' := by
  unfold escape
  split
  case h_8 quote _ _ _ _ _ _ =>
    split
    · simp
    · simpa using quote
  all_goals simp

/-- A text ends at the first quote that is not escaped. -/
theorem escaped_unique {first second rest other : List Char}
    (same : first.flatMap escape ++ '"' :: rest = second.flatMap escape ++ '"' :: other) :
    first = second ∧ rest = other := by
  induction first generalizing second with
  | nil =>
      cases second with
      | nil => exact ⟨rfl, (List.cons.inj same).2⟩
      | cons d second =>
          rw [List.flatMap_cons, List.append_assoc] at same
          exact absurd (congrArg List.head? same.symm) (head?_escape d _)
  | cons c first hypothesis =>
      cases second with
      | nil =>
          rw [List.flatMap_cons, List.append_assoc] at same
          exact absurd (congrArg List.head? same) (head?_escape c _)
      | cons d second =>
          rw [List.flatMap_cons, List.flatMap_cons, List.append_assoc, List.append_assoc] at same
          have read := congrArg unescape same
          rw [unescape_escape, unescape_escape] at read
          obtain ⟨rfl, left⟩ := Prod.mk.inj (Option.some.inj read)
          obtain ⟨rfl, ends⟩ := hypothesis left
          exact ⟨rfl, ends⟩

theorem writeText_unique {first second : String} {rest other : List Char}
    (same : writeText first ++ rest = writeText second ++ other) :
    first = second ∧ rest = other := by
  simp only [writeText, List.cons_append, List.append_assoc, List.nil_append,
    List.cons.injEq, true_and] at same
  obtain ⟨characters, ends⟩ := escaped_unique same
  exact ⟨String.toList_injective characters, ends⟩

theorem number_unique {first second : Nat} {rest other : List Char} (stops : Stops rest)
    (stopsOther : Stops other)
    (same : (toString first).toList ++ rest = (toString second).toList ++ other) :
    first = second ∧ rest = other := by
  have digits (number : Nat) : (toString number).toList = Nat.toDigits 10 number := by
    rw [Nat.toString_eq_repr, Nat.toList_repr]
  have kept (number : Nat) : ∀ c ∈ Nat.toDigits 10 number, c.isDigit :=
    fun c member => Nat.isDigit_of_mem_toDigits (by decide) (by decide) member
  rw [digits, digits] at same
  obtain ⟨taken, left⟩ := Text.takeWhile_append_stop (kept first) rest stops
  obtain ⟨takenOther, leftOther⟩ := Text.takeWhile_append_stop (kept second) other stopsOther
  rw [same] at taken left
  have read := congrArg (Nat.ofDigitChars 10 · 0) (taken.symm.trans takenOther)
  simp only [Nat.ofDigitChars_ten_toDigits] at read
  exact ⟨read, left.symm.trans leftOther⟩

/-- The kinds of values differ in how they start. -/
def kindOf (c : Char) : Nat :=
  if c = '"' then 0 else if c = '[' then 1 else if c = '\x7b' then 2
  else if c.isDigit then 3 else 4

def Value.kind : Value → Nat
  | .text _ => 0
  | .list _ => 1
  | .object _ => 2
  | .number _ => 3
  | .boolean _ => 4

theorem kindOf_digit {c : Char} (digit : c.isDigit) : kindOf c = 3 := by
  have quote : c ≠ '"' := fun same => absurd (same ▸ digit) (by decide)
  have bracket : c ≠ '[' := fun same => absurd (same ▸ digit) (by decide)
  have brace : c ≠ '\x7b' := fun same => absurd (same ▸ digit) (by decide)
  simp only [kindOf, if_neg quote, if_neg bracket, if_neg brace, if_pos digit]

theorem kind_write (level : Nat) (value : Value) (rest : List Char) :
    (write level value ++ rest).head?.map kindOf = some value.kind := by
  cases value with
  | boolean value => cases value <;> rfl
  | number value =>
      rw [write, Nat.toString_eq_repr, Nat.toList_repr]
      obtain ⟨first, others, digits⟩ :=
        List.exists_cons_of_ne_nil (Nat.toDigits_ne_nil (n := value) (b := 10))
      have member : first ∈ Nat.toDigits 10 value := digits ▸ List.mem_cons_self
      have digit := Nat.isDigit_of_mem_toDigits (by decide) (by decide) member
      rw [digits]
      exact congrArg some (kindOf_digit digit)
  | text content => rfl
  | list items => cases items <;> rfl
  | object members => cases members <;> rfl

theorem boolean_unique {first second : Bool} {rest other : List Char}
    (same : (toString first).toList ++ rest = (toString second).toList ++ other) :
    first = second ∧ rest = other := by
  cases first with
  | false =>
      cases second with
      | false => exact ⟨rfl, by simpa using same⟩
      | true =>
          have heads : some 'f' = some 't' := congrArg List.head? same
          exact absurd heads (by decide)
  | true =>
      cases second with
      | false =>
          have heads : some 't' = some 'f' := congrArg List.head? same
          exact absurd heads (by decide)
      | true => exact ⟨rfl, by simpa using same⟩

/-- What comes after an item or a member does not go on with a number. -/
theorem stops_writeItems (level : Nat) (items : List Value) {rest : List Char}
    (breaks : Breaks rest) : Stops (writeItems level items ++ rest) := by
  cases items with
  | nil => exact breaks.stops
  | cons item items =>
      rintro c ⟨⟩
      rfl

theorem stops_writeMembers (level : Nat) (members : List (String × Value)) {rest : List Char}
    (breaks : Breaks rest) : Stops (writeMembers level members ++ rest) := by
  cases members with
  | nil => exact breaks.stops
  | cons member members =>
      rintro c ⟨⟩
      rfl

-- The recursion is that of the writer.
mutual

/-- What is written of a value determines the value and where it ends. -/
theorem write_unique (level : Nat) (value again : Value) {rest other : List Char}
    (stops : Stops rest) (stopsOther : Stops other)
    (same : write level value ++ rest = write level again ++ other) :
    value = again ∧ rest = other := by
  have kinds : value.kind = again.kind := by
    rw [← Option.some.injEq, ← kind_write level value rest, same, kind_write]
  match value, again with
  | .boolean first, .boolean second =>
      obtain ⟨rfl, ends⟩ := boolean_unique same
      exact ⟨rfl, ends⟩
  | .number first, .number second =>
      obtain ⟨rfl, ends⟩ := number_unique stops stopsOther same
      exact ⟨rfl, ends⟩
  | .text first, .text second =>
      obtain ⟨rfl, ends⟩ := writeText_unique same
      exact ⟨rfl, ends⟩
  | .list [], .list [] => exact ⟨rfl, by simpa [write] using same⟩
  | .list [], .list (second :: others) => simp [write, lineStart] at same
  | .list (first :: items), .list [] => simp [write, lineStart] at same
  | .list (first :: items), .list (second :: others) =>
      simp only [write, List.cons_append, List.append_assoc, List.cons.injEq, true_and,
        List.append_cancel_left_eq] at same
      obtain ⟨rfl, left⟩ := write_unique (level + 1) first second
        (stops_writeItems _ _ (breaks_lineStart _ _)) (stops_writeItems _ _ (breaks_lineStart _ _))
        same
      obtain ⟨rfl, ends⟩ := writeItems_unique (level + 1) items others (breaks_lineStart _ _)
        (breaks_lineStart _ _) left
      exact ⟨rfl, by simpa using ends⟩
  | .object [], .object [] => exact ⟨rfl, by simpa [write] using same⟩
  | .object [], .object ((label, second) :: others) => simp [write, lineStart] at same
  | .object ((name, first) :: members), .object [] => simp [write, lineStart] at same
  | .object ((name, first) :: members), .object ((label, second) :: others) =>
      simp only [write, List.cons_append, List.append_assoc, List.cons.injEq, true_and,
        List.append_cancel_left_eq] at same
      obtain ⟨rfl, named⟩ := writeText_unique same
      simp only [List.cons.injEq, true_and] at named
      obtain ⟨rfl, left⟩ := write_unique (level + 1) first second
        (stops_writeMembers _ _ (breaks_lineStart _ _))
        (stops_writeMembers _ _ (breaks_lineStart _ _)) named
      obtain ⟨rfl, ends⟩ := writeMembers_unique (level + 1) members others (breaks_lineStart _ _)
        (breaks_lineStart _ _) left
      exact ⟨rfl, by simpa using ends⟩

theorem writeItems_unique (level : Nat) (items again : List Value) {rest other : List Char}
    (breaks : Breaks rest) (breaksOther : Breaks other)
    (same : writeItems level items ++ rest = writeItems level again ++ other) :
    items = again ∧ rest = other := by
  match items, again with
  | [], [] => exact ⟨rfl, same⟩
  | [], second :: others =>
      obtain ⟨more, rfl⟩ := breaks
      simp [writeItems] at same
  | first :: items, [] =>
      obtain ⟨more, rfl⟩ := breaksOther
      simp [writeItems] at same
  | first :: items, second :: others =>
      simp only [writeItems, List.cons_append, List.append_assoc, List.cons.injEq, true_and,
        List.append_cancel_left_eq] at same
      obtain ⟨rfl, left⟩ := write_unique level first second (stops_writeItems _ _ breaks)
        (stops_writeItems _ _ breaksOther) same
      obtain ⟨rfl, ends⟩ := writeItems_unique level items others breaks breaksOther left
      exact ⟨rfl, ends⟩

theorem writeMembers_unique (level : Nat) (members again : List (String × Value))
    {rest other : List Char} (breaks : Breaks rest) (breaksOther : Breaks other)
    (same : writeMembers level members ++ rest = writeMembers level again ++ other) :
    members = again ∧ rest = other := by
  match members, again with
  | [], [] => exact ⟨rfl, same⟩
  | [], (label, second) :: others =>
      obtain ⟨more, rfl⟩ := breaks
      simp [writeMembers] at same
  | (name, first) :: members, [] =>
      obtain ⟨more, rfl⟩ := breaksOther
      simp [writeMembers] at same
  | (name, first) :: members, (label, second) :: others =>
      simp only [writeMembers, List.cons_append, List.append_assoc, List.cons.injEq, true_and,
        List.append_cancel_left_eq] at same
      obtain ⟨rfl, named⟩ := writeText_unique same
      simp only [List.cons.injEq, true_and] at named
      obtain ⟨rfl, left⟩ := write_unique level first second (stops_writeMembers _ _ breaks)
        (stops_writeMembers _ _ breaksOther) named
      obtain ⟨rfl, ends⟩ := writeMembers_unique level members others breaks breaksOther left
      exact ⟨rfl, ends⟩

end

theorem Value.toString_injective : Function.Injective Value.toString := by
  intro first second same
  have written : write 0 first ++ [] = write 0 second ++ [] := by
    rw [List.append_nil, List.append_nil]
    exact String.ofList_injective same
  have stops : Stops [] := by rintro c ⟨⟩
  exact (write_unique 0 first second stops stops written).1

end FeedCache.Json
