/-
This file says which characters stand in a text that was cut, joined, stripped, or written for a
number.
-/
import FeedCache.Text.Blank
import FeedCache.Text.Hex
import FeedCache.Text.Pieces
import Mathlib.Data.List.DropRight

namespace FeedCache.Text

/-- A property of all ASCII characters is checked for each of their numbers. -/
theorem forall_ascii (holds : Char → Prop) (each : ∀ number < 128, holds (Char.ofNat number))
    {c : Char} (small : c.toNat < 128) : holds c := by
  have this := each c.toNat small
  rwa [Char.ofNat_toNat] at this

/-- A property of all characters in a list is checked for each of them. -/
theorem forall_marks {marks : List Char} {holds : Char → Prop} [DecidablePred holds]
    (each : marks.all fun mark => holds mark) : ∀ mark ∈ marks, holds mark := by
  intro mark member
  exact of_decide_eq_true (List.all_eq_true.1 each mark member)

/-- Nothing is stripped from a text that fails the test everywhere. -/
theorem strip_eq_self {test : Char → Bool} {text : List Char}
    (kept : ∀ c ∈ text, test c = false) : strip test text = text := by
  have front {text : List Char} (kept : ∀ c ∈ text, test c = false) :
      text.dropWhile test = text := by
    cases text with
    | nil => rfl
    | cons c rest => rw [List.dropWhile_cons_of_neg (by simp [kept c List.mem_cons_self])]
  rw [strip, front kept, front fun c member => kept c (List.mem_reverse.1 member),
    List.reverse_reverse]

/-- What is stripped from a text stands at its ends. -/
theorem exists_strip (test : Char → Bool) (text : List Char) :
    ∃ front back, text = front ++ strip test text ++ back ∧
      (∀ c ∈ front, test c) ∧ ∀ c ∈ back, test c := by
  have tail : text.dropWhile test = strip test text ++
      ((text.dropWhile test).reverse.takeWhile test).reverse := by
    rw [strip, ← List.reverse_append, List.takeWhile_append_dropWhile, List.reverse_reverse]
  refine ⟨text.takeWhile test, ((text.dropWhile test).reverse.takeWhile test).reverse, ?_,
    List.all_eq_true.1 List.all_takeWhile,
    fun c member => List.all_eq_true.1 List.all_takeWhile c (List.mem_reverse.1 member)⟩
  rw [List.append_assoc, ← tail, List.takeWhile_append_dropWhile]

/-- Nothing is stripped from a text whose ends fail the test. -/
theorem strip_eq_self_of_ends {test : Char → Bool} {text : List Char}
    (first : ∀ c ∈ text.head?, test c = false) (last : ∀ c ∈ text.getLast?, test c = false) :
    strip test text = text := by
  have front : text.dropWhile test = text := by
    cases text with
    | nil => rfl
    | cons c rest => rw [List.dropWhile_cons_of_neg (by simp [first c rfl])]
  have back : text.rdropWhile test = text := List.rdropWhile_eq_self_iff.2 fun filled =>
    Bool.eq_false_iff.1 (last _ (List.getLast?_eq_some_getLast filled))
  rw [strip, front]
  exact back

/-- A text is stripped on both sides of a character that fails the test. -/
theorem strip_append_cons {test : Char → Bool} {mark : Char} (kept : test mark = false)
    (front rest : List Char) :
    strip test (front ++ mark :: rest) = front.dropWhile test ++ mark :: rest.rdropWhile test := by
  have closed (front : List Char) :
      (front ++ mark :: rest).rdropWhile test = front ++ mark :: rest.rdropWhile test := by
    induction rest using List.reverseRecOn with
    | nil => exact List.rdropWhile_concat_neg test front mark (by simp [kept])
    | append_singleton rest c hypothesis =>
        rw [← List.cons_append, ← List.append_assoc, List.rdropWhile_concat,
          List.rdropWhile_concat]
        split
        · exact hypothesis
        · simp
  have opened : (front ++ mark :: rest).dropWhile test = front.dropWhile test ++ mark :: rest := by
    induction front with
    | nil => exact List.dropWhile_cons_of_neg (by simp [kept])
    | cons c front hypothesis =>
        by_cases dropped : test c
        · rw [List.cons_append, List.dropWhile_cons_of_pos dropped, hypothesis,
            List.dropWhile_cons_of_pos dropped]
        · rw [List.cons_append, List.dropWhile_cons_of_neg dropped,
            List.dropWhile_cons_of_neg dropped, List.cons_append]
  rw [strip, opened]
  exact closed _

/-- A text is cut in front of the first character that is not kept. -/
theorem takeWhile_append_stop {keeps : Char → Bool} {front : List Char}
    (kept : ∀ c ∈ front, keeps c) (rest : List Char) (stops : ∀ c ∈ rest.head?, keeps c = false) :
    (front ++ rest).takeWhile keeps = front ∧ (front ++ rest).dropWhile keeps = rest := by
  rw [List.takeWhile_append_of_pos kept, List.dropWhile_append_of_pos kept]
  cases rest with
  | nil => exact ⟨List.append_nil front, rfl⟩
  | cons stop rest =>
      have ends : ¬ keeps stop := Bool.eq_false_iff.1 (stops stop rfl)
      rw [List.takeWhile_cons_of_neg ends, List.dropWhile_cons_of_neg ends, List.append_nil]
      exact ⟨rfl, rfl⟩

/-- No piece holds a separator. -/
theorem mem_pieces {separator : Char → Bool} {text piece : List Char} {c : Char}
    (found : piece ∈ pieces separator text) (member : c ∈ piece) : separator c = false := by
  induction text generalizing piece with
  | nil =>
      rw [List.mem_singleton.1 found] at member
      cases member
  | cons first rest hypothesis =>
      rw [pieces] at found
      split at found
      · rcases List.mem_cons.1 found with rfl | later
        · cases member
        · exact hypothesis later member
      · rename_i plain
        obtain ⟨head, others, cut⟩ := List.exists_cons_of_ne_nil (piecesNeNil separator rest)
        rw [cut] at found hypothesis
        rcases List.mem_cons.1 found with rfl | later
        · rcases List.mem_cons.1 member with rfl | inside
          · simpa using plain
          · exact hypothesis List.mem_cons_self inside
        · exact hypothesis (List.mem_cons_of_mem head later) member

/-- Joining undoes cutting. -/
theorem joined_pieces (separator : Char) (text : List Char) :
    joined separator (pieces (· == separator) text) = text := by
  induction text with
  | nil => rfl
  | cons c rest hypothesis =>
      obtain ⟨piece, others, cut⟩ := List.exists_cons_of_ne_nil (piecesNeNil (· == separator) rest)
      rw [cut] at hypothesis
      rw [pieces, cut]
      by_cases same : c = separator
      · simp [same, joined, hypothesis]
      · cases others <;> simpa [same, joined] using hypothesis

/-- The characters of a joined text are separators and the characters of its pieces. -/
theorem mem_joined {separator c : Char} {parts : List (List Char)}
    (member : c ∈ joined separator parts) : c = separator ∨ ∃ part ∈ parts, c ∈ part := by
  fun_induction joined separator parts with
  | case1 => cases member
  | case2 part => exact .inr ⟨part, List.mem_singleton_self part, member⟩
  | case3 part others more hypothesis =>
      rcases List.mem_append.1 member with here | later
      · exact .inr ⟨part, List.mem_cons_self, here⟩
      · rcases List.mem_cons.1 later with rfl | inside
        · exact .inl rfl
        · rcases hypothesis inside with same | ⟨other, found, inside⟩
          · exact .inl same
          · exact .inr ⟨other, List.mem_cons_of_mem part found, inside⟩

/-- A number is written with the digits below its base. -/
theorem mem_toDigits {base number : Nat} {c : Char} (large : 1 < base)
    (member : c ∈ Nat.toDigits base number) : ∃ value < base, c = Nat.digitChar value := by
  induction number using Nat.strongRecOn with
  | ind number hypothesis =>
      rw [Nat.toDigits_eq_if large] at member
      split at member
      · rename_i small
        exact ⟨number, small, List.mem_singleton.1 member⟩
      · rename_i more
        rcases List.mem_append.1 member with front | last
        · exact hypothesis (number / base) (Nat.div_lt_self (by omega) large) front
        · exact ⟨number % base, Nat.mod_lt number (by omega), List.mem_singleton.1 last⟩

theorem hexNumber_append (front : List Char) (last : Char) :
    hexNumber (front ++ [last]) = hexNumber front * 16 + (hexValue? last).getD 0 := by
  rw [hexNumber, List.foldl_append]
  rfl

/-- Reading a number in base sixteen undoes writing it. -/
theorem hexNumber_toHex (number : Nat) : hexNumber (toHex number) = number := by
  have digit : ∀ value < 16, (hexValue? (Nat.digitChar value)).getD 0 = value := by decide
  induction number using Nat.strongRecOn with
  | ind number hypothesis =>
      rw [toHex, Nat.toDigits_eq_if (by decide)]
      split
      · rename_i small
        have single := hexNumber_append [] (Nat.digitChar number)
        rw [digit number small] at single
        simpa [hexNumber] using single
      · rename_i large
        have shorter := hypothesis (number / 16) (Nat.div_lt_self (by omega) (by decide))
        rw [toHex] at shorter
        rw [hexNumber_append, shorter, digit _ (Nat.mod_lt number (by decide))]
        omega

end FeedCache.Text
