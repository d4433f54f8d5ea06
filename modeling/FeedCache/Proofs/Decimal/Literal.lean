/-
This file says which texts are read as numbers.

Main statements: a text with a point is read as a number exactly if it has the form of one, and a
text is read as an integer exactly if it spells one within the bounds.
-/
import FeedCache.Decimal.Literal
import FeedCache.Proofs.Text.Characters

namespace FeedCache.Decimal

/-- A sign or none. -/
inductive IsSign : List Char → Prop where
  | none : IsSign []
  | plus : IsSign ['+']
  | minus : IsSign ['-']

/-- There are digits and nothing else. -/
structure IsDigits (text : List Char) : Prop where
  filled : text ≠ []
  digits : ∀ c ∈ text, c.isDigit

/-- A letter, a sign or none and digits; or nothing at all. -/
inductive IsExponent : List Char → Prop where
  | none : IsExponent []
  | some {letter : Char} {sign digits : List Char} (isLetter : letter = 'e' ∨ letter = 'E')
      (isSign : IsSign sign) (isDigits : IsDigits digits) : IsExponent (letter :: (sign ++ digits))

/-- A number with a point has digits before the point, behind it or on both sides. -/
inductive IsPointed : List Char → Prop where
  | intro {sign whole fraction exponent : List Char} (isSign : IsSign sign)
      (isDigits : IsDigits (whole ++ fraction)) (isExponent : IsExponent exponent) :
      IsPointed (sign ++ (whole ++ '.' :: (fraction ++ exponent)))

/-- The digits of an integer stand behind a sign or none. -/
inductive Spells : List Char → Int → Prop where
  | plain {digits : List Char} (isDigits : IsDigits digits) :
      Spells digits (Nat.ofDigitChars 10 digits 0)
  | plus {digits : List Char} (isDigits : IsDigits digits) :
      Spells ('+' :: digits) (Nat.ofDigitChars 10 digits 0)
  | minus {digits : List Char} (isDigits : IsDigits digits) :
      Spells ('-' :: digits) (-(Nat.ofDigitChars 10 digits 0 : Int))

section

variable {text digits rest sign : List Char} {limit : Nat}

theorem digitsValue_eq (digits : List Char) :
    digitsValue digits = Nat.ofDigitChars 10 digits 0 := by
  simp only [digitsValue, Nat.ofDigitChars, Nat.mul_comm]

theorem isDigits_iff : IsDigits text ↔ text.isEmpty = false ∧ text.all Char.isDigit := by
  rw [List.isEmpty_eq_false_iff, List.all_eq_true]
  exact ⟨fun digits => ⟨digits.filled, digits.digits⟩, fun both => ⟨both.1, both.2⟩⟩

theorem isSign_splitSign (text : List Char) :
    ∃ sign, IsSign sign ∧ text = sign ++ (splitSign text).2 := by
  rw [splitSign.eq_def]
  split
  · exact ⟨_, .minus, rfl⟩
  · exact ⟨_, .plus, rfl⟩
  · exact ⟨_, .none, rfl⟩

/-- Neither a digit nor a point is a sign. -/
theorem splitSign_append (isSign : IsSign sign) (starts : ∀ c ∈ rest.head?, c.isDigit ∨ c = '.') :
    splitSign (sign ++ rest) = (sign == ['-'], rest) := by
  cases isSign with
  | plus => rfl
  | minus => rfl
  | none =>
      rw [List.nil_append, splitSign.eq_def]
      split
      · exact absurd (starts '-' rfl) (by decide)
      · exact absurd (starts '+' rfl) (by decide)
      · rfl

theorem IsDigits.starts (isDigits : IsDigits digits) :
    ∀ c ∈ digits.head?, c.isDigit ∨ c = '.' :=
  fun c first => .inl (isDigits.digits c (List.mem_of_mem_head? first))

theorem readExponent_isSome_iff : (readExponent text).isSome ↔ IsExponent text := by
  cases text with
  | nil => exact iff_of_true rfl .none
  | cons letter rest =>
      obtain ⟨sign, isSign, parts⟩ := isSign_splitSign rest
      rw [readExponent]
      constructor
      · intro read
        simp only [Option.isSome_ite, Bool.and_eq_true, Bool.or_eq_true, beq_iff_eq,
          Bool.not_eq_true'] at read
        rw [parts]
        exact .some read.1.1 isSign (isDigits_iff.2 ⟨read.1.2, read.2⟩)
      · intro isExponent
        cases isExponent with
        | some isLetter isSign isDigits =>
            have digits := isDigits_iff.1 isDigits
            simp [splitSign_append isSign isDigits.starts, isLetter, digits.1, digits.2]

/-- There is no point in an exponent. -/
theorem IsExponent.noPoint (isExponent : IsExponent text) : '.' ∉ text := by
  cases isExponent with
  | none => exact List.not_mem_nil
  | some isLetter isSign isDigits =>
      have noDigit := mt (isDigits.digits '.') (by decide)
      rcases isLetter with rfl | rfl <;> cases isSign <;> simpa using noDigit

theorem IsExponent.stops (isExponent : IsExponent text) :
    ∀ c ∈ text.head?, c.isDigit = false := by
  cases isExponent with
  | none => exact nofun
  | some isLetter isSign isDigits =>
      intro c first
      cases first
      rcases isLetter with rfl | rfl <;> rfl

theorem readNumber_isSome_iff {whole fraction : List Char} (isSign : IsSign sign)
    (digits : ∀ c ∈ whole ++ fraction, c.isDigit) (stops : ∀ c ∈ rest.head?, c.isDigit = false) :
    (readNumber (sign ++ (whole ++ '.' :: (fraction ++ rest)))).isSome ↔
      IsExponent rest ∧ whole ++ fraction ≠ [] := by
  have starts : ∀ c ∈ (whole ++ '.' :: (fraction ++ rest)).head?, c.isDigit ∨ c = '.' := by
    cases whole with
    | nil => simp
    | cons digit whole => simpa using .inl (digits digit (by simp))
  obtain ⟨taken, dropped⟩ := @Text.takeWhile_append_stop Char.isDigit whole
    (fun c member => digits c (List.mem_append_left _ member)) ('.' :: (fraction ++ rest))
    (by simp)
  obtain ⟨takenNext, droppedNext⟩ := @Text.takeWhile_append_stop Char.isDigit fraction
    (fun c member => digits c (List.mem_append_right _ member)) rest stops
  rw [readNumber, splitSign_append isSign starts]
  simp only [taken, dropped, takenNext, droppedNext, ← readExponent_isSome_iff]
  cases readExponent rest <;> simp

/-- Unless a point follows the first digits, an exponent does. -/
theorem isExponent_of_readNumber (read : (readNumber text).isSome)
    (plain : ∀ after, (splitSign text).2.dropWhile Char.isDigit ≠ '.' :: after) :
    IsExponent ((splitSign text).2.dropWhile Char.isDigit) := by
  rw [← readExponent_isSome_iff]
  revert read
  simp only [readNumber]
  cases readExponent ((splitSign text).2.dropWhile Char.isDigit) <;> simp

/-- A text is read as a number with a point exactly if it has the form of one. -/
theorem readNumber_pointed : (readNumber text).isSome ∧ '.' ∈ text ↔ IsPointed text := by
  constructor
  · rintro ⟨read, point⟩
    obtain ⟨sign, isSign, parts⟩ := isSign_splitSign text
    have digits {text : List Char} : ∀ c ∈ text.takeWhile Char.isDigit, c.isDigit :=
      fun c member => List.mem_takeWhile_imp member
    have cut := @List.takeWhile_append_dropWhile _ Char.isDigit (splitSign text).2
    -- Only behind the first digits can a point stand: an exponent holds none.
    by_cases follows : ∃ after, (splitSign text).2.dropWhile Char.isDigit = '.' :: after
    · obtain ⟨after, follows⟩ := follows
      rw [← cut, follows, ← @List.takeWhile_append_dropWhile _ Char.isDigit after] at parts
      have both : ∀ c ∈ (splitSign text).2.takeWhile Char.isDigit ++ after.takeWhile Char.isDigit,
          c.isDigit := fun c member => (List.mem_append.1 member).elim (digits c) (digits c)
      have stops : ∀ c ∈ (after.dropWhile Char.isDigit).head?, c.isDigit = false := by
        intro c first
        simpa [Option.mem_def.1 first] using List.head?_dropWhile_not Char.isDigit after
      rw [parts, readNumber_isSome_iff isSign both stops] at read
      rw [parts]
      exact .intro isSign ⟨read.2, both⟩ read.1
    · have isExponent := isExponent_of_readNumber read fun after same => follows ⟨after, same⟩
      rw [parts, ← cut] at point
      rcases List.mem_append.1 point with inSign | inRest
      · cases isSign <;> simp at inSign
      · rcases List.mem_append.1 inRest with inDigits | inExponent
        · exact absurd (digits _ inDigits) (by decide)
        · exact absurd inExponent isExponent.noPoint
  · rintro ⟨isSign, isDigits, isExponent⟩
    exact ⟨(readNumber_isSome_iff isSign isDigits.digits isExponent.stops).2
      ⟨isExponent, isDigits.filled⟩, by simp⟩

/-- A natural number is read exactly if it is below the limit and only digits are there, behind a
plus sign or none. -/
theorem readNatural_eq_some_iff {count : Nat} :
    readNatural limit text = some count ↔ count < limit ∧
      ∃ digits, (text = digits ∨ text = '+' :: digits) ∧ IsDigits digits ∧
        Nat.ofDigitChars 10 digits 0 = count := by
  have read (digits : List Char) : (if digits.isEmpty ∨ ¬digits.all Char.isDigit ∨
      limit ≤ digitsValue digits then none else some (digitsValue digits)) = some count ↔
        count < limit ∧ IsDigits digits ∧ Nat.ofDigitChars 10 digits 0 = count := by
    rw [isDigits_iff, ← digitsValue_eq]
    grind
  have noSign {digits : List Char} (isDigits : IsDigits ('+' :: digits)) : False :=
    absurd (isDigits.digits '+' List.mem_cons_self) (by decide)
  by_cases signed : ∃ rest, text = '+' :: rest
  · obtain ⟨rest, rfl⟩ := signed
    refine (read rest).trans ⟨fun ⟨small, both⟩ => ⟨small, rest, .inr rfl, both⟩, ?_⟩
    rintro ⟨small, digits, rfl | spelled, both⟩
    · exact (noSign both.1).elim
    · cases spelled
      exact ⟨small, both⟩
  · have unsigned : ∀ rest, text ≠ '+' :: rest := fun rest same => signed ⟨rest, same⟩
    simp only [readNatural]
    rw [read]
    refine ⟨fun ⟨small, both⟩ => ⟨small, text, .inl rfl, both⟩, ?_⟩
    rintro ⟨small, digits, rfl | spelled, both⟩
    · exact ⟨small, both⟩
    · exact absurd spelled (unsigned digits)

theorem readInteger_append (isSign : IsSign sign) (isDigits : IsDigits digits) :
    readInteger limit (sign ++ digits) =
      if sign = ['-'] then
        if Nat.ofDigitChars 10 digits 0 ≤ limit then some (-(Nat.ofDigitChars 10 digits 0 : Int))
        else none
      else if Nat.ofDigitChars 10 digits 0 < limit then some (Nat.ofDigitChars 10 digits 0 : Int)
      else none := by
  have both := isDigits_iff.1 isDigits
  rw [readInteger, splitSign_append isSign isDigits.starts]
  simp [both.1, both.2, digitsValue_eq]

/-- An integer is read exactly if it is spelled and within the bounds. -/
theorem readInteger_eq_some_iff {value : Int} (positive : 0 < limit) :
    readInteger limit text = some value ↔
      Spells text value ∧ -(limit : Int) ≤ value ∧ value < limit := by
  constructor
  · intro read
    obtain ⟨sign, isSign, parts⟩ := isSign_splitSign text
    have isDigits : IsDigits (splitSign text).2 := by
      rw [isDigits_iff]
      grind [readInteger]
    rw [parts, readInteger_append isSign isDigits] at read
    rw [parts]
    cases isSign with
    | none =>
        obtain ⟨small, rfl⟩ := by simpa using read
        exact ⟨.plain isDigits, by omega, by omega⟩
    | plus =>
        obtain ⟨small, rfl⟩ := by simpa using read
        exact ⟨.plus isDigits, by omega, by omega⟩
    | minus =>
        obtain ⟨small, rfl⟩ := by simpa using read
        exact ⟨.minus isDigits, by omega, by omega⟩
  · rintro ⟨spells, lower, upper⟩
    cases spells with
    | plain isDigits =>
        have small : Nat.ofDigitChars 10 text 0 < limit := by omega
        exact (readInteger_append .none isDigits).trans (by simp [small])
    | @plus digits isDigits =>
        have small : Nat.ofDigitChars 10 digits 0 < limit := by omega
        exact (readInteger_append .plus isDigits).trans (by simp [small])
    | @minus digits isDigits =>
        have small : Nat.ofDigitChars 10 digits 0 ≤ limit := by omega
        exact (readInteger_append .minus isDigits).trans (by simp [small])

end

end FeedCache.Decimal
