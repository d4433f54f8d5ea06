/-
This file says what the value of a variable stands for.

Main statements: a text that opens nothing and is neither a truth value nor a number stands for
itself, whatever is inside it; the digits of a natural number stand for the number if it has no
more than 64 bits, and for themselves otherwise.
-/
import FeedCache.Proofs.Decimal.Literal
import FeedCache.Settings.Spelled

namespace FeedCache.Settings

/-- The text spells an integer that fits 64 bits. -/
def IsWord64 (text : List Char) : Prop :=
  ∃ value, Decimal.Spells text value ∧ -0x8000000000000000 ≤ value ∧ value < 0x10000000000000000

/-- The marks that open a table, a list or a quoted text. -/
def openings : List Char := ['"', '\'', '[', '\x7b']

/-- A text without blanks around it that opens nothing and is neither a truth value nor a number. -/
structure IsPlain (text : List Char) : Prop where
  filled : text ≠ []
  first : ∀ c ∈ text.head?, Text.isBlank c = false
  last : ∀ c ∈ text.getLast?, Text.isBlank c = false
  opensNothing : ∀ c ∈ text.head?, c ∉ openings
  noTruth : text ≠ "true".toList ∧ text ≠ "false".toList
  noInteger : ¬IsWord64 text
  noNumber : ¬Decimal.IsPointed text

section

variable {text word rest : List Char} {c : Char}

theorem isWord64_iff : IsWord64 text ↔
    ∃ value ∈ Decimal.readInteger 0x10000000000000000 text, -0x8000000000000000 ≤ value := by
  constructor
  · rintro ⟨value, spells, lower, upper⟩
    exact ⟨value, (Decimal.readInteger_eq_some_iff (by decide)).2 ⟨spells, by omega, by omega⟩,
      lower⟩
  · rintro ⟨value, read, lower⟩
    obtain ⟨spells, -, upper⟩ := (Decimal.readInteger_eq_some_iff (by decide)).1 read
    exact ⟨value, spells, lower, by omega⟩

instance : Decidable (IsWord64 text) := decidable_of_iff' _ isWord64_iff

example : IsWord64 "-9223372036854775808".toList ∧ ¬IsWord64 "18446744073709551616".toList := by
  decide +kernel

instance : Decidable (Decimal.IsPointed text) := decidable_of_iff _ Decimal.readNumber_pointed

theorem isPlain_iff : IsPlain text ↔ text ≠ [] ∧ (text.head?.all fun c => !Text.isBlank c) ∧
    (text.getLast?.all fun c => !Text.isBlank c) ∧ (text.head?.all fun c => !openings.contains c) ∧
    (text ≠ "true".toList ∧ text ≠ "false".toList) ∧ ¬IsWord64 text ∧
    ¬Decimal.IsPointed text := by
  simp only [Option.all_eq_true, Bool.not_eq_true', List.contains_eq_mem, decide_eq_false_iff_not]
  constructor
  · rintro ⟨filled, first, last, opensNothing, noTruth, noInteger, noNumber⟩
    exact ⟨filled, first, last, opensNothing, noTruth, noInteger, noNumber⟩
  · rintro ⟨filled, first, last, opensNothing, noTruth, noInteger, noNumber⟩
    exact ⟨filled, first, last, opensNothing, noTruth, noInteger, noNumber⟩

instance : Decidable (IsPlain text) := decidable_of_iff' _ isPlain_iff

/-- A word that is no number stands for itself. -/
theorem ofWord_eq_text (noInteger : ¬IsWord64 word) (noNumber : ¬Decimal.IsPointed word) :
    Value.ofWord word = .text (String.ofList word) := by
  have noPoint : (if word.contains '.' then Decimal.readNumber word else none) = none := by
    split
    · rename_i point
      by_contra read
      exact noNumber (Decimal.readNumber_pointed.1
        ⟨Option.isSome_iff_ne_none.2 read, by simpa using point⟩)
    · rfl
  have noNatural : Decimal.readNatural 0x10000000000000000 word = none := by
    refine Option.eq_none_iff_forall_ne_some.2 fun count read => noInteger ⟨count, ?_⟩
    obtain ⟨small, digits, rfl | rfl, isDigits, rfl⟩ := Decimal.readNatural_eq_some_iff.1 read
    · exact ⟨.plain isDigits, by omega, by omega⟩
    · exact ⟨.plus isDigits, by omega, by omega⟩
  have noNegative : Decimal.readInteger 0x8000000000000000 word = none := by
    refine Option.eq_none_iff_forall_ne_some.2 fun value read => noInteger ⟨value, ?_⟩
    obtain ⟨spells, lower, upper⟩ := (Decimal.readInteger_eq_some_iff (by decide)).1 read
    exact ⟨spells, by omega, by omega⟩
  simp only [Value.ofWord, noPoint, noNatural, noNegative]

theorem isBlank_of_isGap (gap : isGap c) : Text.isBlank c := by
  simp only [isGap, Bool.or_eq_true, beq_iff_eq] at gap
  rcases gap with (((rfl | rfl) | rfl) | rfl) | rfl <;> decide

/-- A text that opens nothing starts with a word, which ends in front of the first delimiter. -/
theorem readSpelled_word (steps : Nat) (first : ∀ c ∈ text.head?, Text.isBlank c = false)
    (opensNothing : ∀ c ∈ text.head?, c ∉ openings)
    (noTruth : ∀ rest, text ≠ "true".toList ++ rest ∧ text ≠ "false".toList ++ rest) :
    readSpelled (steps + 1) text =
      some (Value.ofWord (Text.trim (text.takeWhile fun c => !isDelimiter c)),
        (text.dropWhile fun c => !isDelimiter c).dropWhile isGap) := by
  have noGap : text.dropWhile isGap = text := by
    cases text with
    | nil => rfl
    | cons c rest =>
        have kept : ¬isGap c := mt isBlank_of_isGap (by simp [first c rfl])
        exact List.dropWhile_cons_of_neg kept
  have after : text.drop (text.takeWhile fun c => !isDelimiter c).length =
      text.dropWhile fun c => !isDelimiter c := by
    have cut := @List.takeWhile_append_dropWhile _ (fun c => !isDelimiter c) text
    exact (congrArg _ cut.symm).trans List.drop_left
  rw [readSpelled, noGap]
  -- The reader looks for a truth value, a table, a list and quotes before it takes a word.
  split
  · exact absurd rfl (noTruth _).1
  · exact absurd rfl (noTruth _).2
  · exact absurd (by decide) (opensNothing _ rfl)
  · exact absurd (by decide) (opensNothing _ rfl)
  · exact absurd (by decide) (opensNothing _ rfl)
  · exact absurd (by decide) (opensNothing _ rfl)
  · exact absurd (by decide) (opensNothing _ rfl)
  · rw [← after]
    rfl

/-- Gaps at the end of a text whose last character is no blank are no gaps at all. -/
theorem eq_nil_of_gaps (last : ∀ c ∈ text.getLast?, Text.isBlank c = false)
    (suffix : rest <:+ text) (gaps : rest.dropWhile isGap = []) : rest = [] := by
  by_contra filled
  have final : rest.getLast filled ∈ text.getLast? := by
    rw [suffix.getLast filled]
    exact List.getLast?_eq_some_getLast _
  have gap := List.dropWhile_eq_nil_iff.1 gaps _ (List.getLast_mem filled)
  exact absurd (isBlank_of_isGap gap) (by simp [last _ final])

/-- A text stands for itself unless it is read to its end as something else. -/
theorem ofSpelling_eq_text {spelling : String} {value : Value}
    (read : readSpelled (2 * spelling.toList.length + 2) spelling.toList = some (value, rest))
    (whole : rest = [] → value = .text spelling) : Value.ofSpelling spelling = .text spelling := by
  simp only [Value.ofSpelling, read]
  split
  · rename_i same
    cases same
    exact whole rfl
  · rfl

/-- Behind a truth value a plain text goes on, so that it stands for itself. -/
theorem ofSpelling_of_truth {spelling : String} {truth : List Char} {value : Bool}
    (last : ∀ c ∈ spelling.toList.getLast?, Text.isBlank c = false)
    (parts : spelling.toList = truth ++ rest) (more : spelling.toList ≠ truth)
    (read : ∀ steps, readSpelled (steps + 1) (truth ++ rest) =
      some (.boolean value, rest.dropWhile isGap)) : Value.ofSpelling spelling = .text spelling := by
  refine ofSpelling_eq_text (by rw [parts]; exact read _) fun gaps => absurd ?_ more
  rw [parts, eq_nil_of_gaps last ⟨truth, parts.symm⟩ gaps, List.append_nil]

/-- Whatever is inside it, a plain text stands for itself. -/
theorem ofSpelling_of_isPlain {spelling : String} (isPlain : IsPlain spelling.toList) :
    Value.ofSpelling spelling = .text spelling := by
  -- A truth value is read wherever a text starts with one, and what follows it is left over.
  by_cases truth : ∃ rest, spelling.toList = "true".toList ++ rest
  · obtain ⟨rest, parts⟩ := truth
    exact ofSpelling_of_truth isPlain.last parts isPlain.noTruth.1 fun steps => rfl
  by_cases untruth : ∃ rest, spelling.toList = "false".toList ++ rest
  · obtain ⟨rest, parts⟩ := untruth
    exact ofSpelling_of_truth isPlain.last parts isPlain.noTruth.2 fun steps => rfl
  refine ofSpelling_eq_text (readSpelled_word _ isPlain.first isPlain.opensNothing fun rest =>
    ⟨fun same => truth ⟨rest, same⟩, fun same => untruth ⟨rest, same⟩⟩) fun gaps => ?_
  -- The word is not followed by a delimiter, so it is the whole text.
  have none := eq_nil_of_gaps isPlain.last (List.dropWhile_suffix _) gaps
  have whole : (spelling.toList.takeWhile fun c => !isDelimiter c) = spelling.toList := by
    have cut := @List.takeWhile_append_dropWhile _ (fun c => !isDelimiter c) spelling.toList
    rwa [none, List.append_nil] at cut
  have trimmed : Text.trim spelling.toList = spelling.toList :=
    Text.strip_eq_self_of_ends isPlain.first isPlain.last
  rw [whole, trimmed, ofWord_eq_text isPlain.noInteger isPlain.noNumber, String.ofList_toList]

/-- A word that stands alone counts as a whole. -/
theorem ofSpelling_of_word {spelling : String}
    (kept : ∀ c ∈ spelling.toList, Text.isBlank c = false ∧ isDelimiter c = false)
    (opensNothing : ∀ c ∈ spelling.toList.head?, c ∉ openings)
    (noTruth : ∀ rest, spelling.toList ≠ "true".toList ++ rest ∧
      spelling.toList ≠ "false".toList ++ rest) :
    Value.ofSpelling spelling = Value.ofWord spelling.toList := by
  have whole : (spelling.toList.takeWhile fun c => !isDelimiter c) = spelling.toList :=
    List.takeWhile_eq_self_iff.2 fun c member => by simp [(kept c member).2]
  have nothing : (spelling.toList.dropWhile fun c => !isDelimiter c) = [] :=
    List.dropWhile_eq_nil_iff.2 fun c member => by simp [(kept c member).2]
  have trimmed : Text.trim spelling.toList = spelling.toList :=
    Text.strip_eq_self fun c member => (kept c member).1
  have read := readSpelled_word (2 * spelling.toList.length + 1)
    (fun c head => (kept c (List.mem_of_mem_head? head)).1) opensNothing noTruth
  rw [whole, nothing, trimmed] at read
  simp [Value.ofSpelling, read]

/-- No digit means anything else in a value, and no truth value starts with one. -/
theorem toDigits_plain {count : Nat} (member : c ∈ Nat.toDigits 10 count) :
    (Text.isBlank c = false ∧ isDelimiter c = false) ∧
      c ∉ openings ∧ c ∉ ['.', '+', '-', 't', 'f'] := by
  have each : ∀ value < 10,
      (Text.isBlank (Nat.digitChar value) = false ∧ isDelimiter (Nat.digitChar value) = false) ∧
        Nat.digitChar value ∉ openings ∧ Nat.digitChar value ∉ ['.', '+', '-', 't', 'f'] := by
    decide
  obtain ⟨value, small, rfl⟩ := Text.mem_toDigits (by decide) member
  exact each value small

theorem isDigits_toDigits (count : Nat) : Decimal.IsDigits (Nat.toDigits 10 count) :=
  ⟨Nat.toDigits_ne_nil, fun _ => Nat.isDigit_of_mem_toDigits (by decide) (by decide)⟩

/-- The digits of a number spell no other one. -/
theorem spells_toDigits {count : Nat} {value : Int}
    (spells : Decimal.Spells (Nat.toDigits 10 count) value) : value = count := by
  generalize same : Nat.toDigits 10 count = digits at spells
  have clean (c : Char) (mark : c ∈ ['.', '+', '-', 't', 'f']) : c ∉ digits := fun member =>
    (toDigits_plain (same ▸ member)).2.2 mark
  cases spells with
  | plain isDigits => rw [← same, Nat.ofDigitChars_ten_toDigits]
  | plus isDigits => exact absurd List.mem_cons_self (clean '+' (by decide))
  | minus isDigits => exact absurd List.mem_cons_self (clean '-' (by decide))

theorem ofWord_toDigits (count : Nat) : Value.ofWord (Nat.toDigits 10 count) =
    if count < 0x10000000000000000 then .unsigned count
    else .text (String.ofList (Nat.toDigits 10 count)) := by
  have noPoint : '.' ∉ Nat.toDigits 10 count := fun point =>
    (toDigits_plain point).2.2 (by decide)
  split
  · rename_i small
    have read : Decimal.readNatural 0x10000000000000000 (Nat.toDigits 10 count) = some count :=
      Decimal.readNatural_eq_some_iff.2 ⟨small, _, .inl rfl, isDigits_toDigits count,
        Nat.ofDigitChars_ten_toDigits⟩
    simp [Value.ofWord, noPoint, read]
  · rename_i large
    refine ofWord_eq_text ?_ fun isPointed => noPoint (Decimal.readNumber_pointed.2 isPointed).2
    rintro ⟨value, spells, -, upper⟩
    have same := spells_toDigits spells
    omega

/-- The digits of a number stand for the number as long as it has no more than 64 bits. -/
theorem ofSpelling_toString (count : Nat) : Value.ofSpelling (toString count) =
    if count < 0x10000000000000000 then .unsigned count else .text (toString count) := by
  have digits : (toString count).toList = Nat.toDigits 10 count := by
    rw [Nat.toString_eq_repr, Nat.toList_repr]
  have noLetter (c : Char) (mark : c ∈ ['.', '+', '-', 't', 'f']) : c ∉ Nat.toDigits 10 count :=
    fun member => (toDigits_plain member).2.2 mark
  rw [ofSpelling_of_word, digits, ofWord_toDigits, ← digits, String.ofList_toList]
  · exact fun c member => (toDigits_plain (digits ▸ member)).1
  · exact fun c head => (toDigits_plain (digits ▸ List.mem_of_mem_head? head)).2.1
  · rw [digits]
    refine fun rest => ⟨fun same => ?_, fun same => ?_⟩
    · exact noLetter 't' (by decide) (by simp [same])
    · exact noLetter 'f' (by decide) (by simp [same])

end

end FeedCache.Settings
