/-
This file says which characters percent encoding leaves in a text.

Main statements: an encoded text holds no character that is to be encoded, so that encoding it again
changes nothing, and it is a dot segment only if the text was one.
-/
import FeedCache.Proofs.Text.Characters
import FeedCache.Url.Path

namespace FeedCache.Url

/-- The characters that percent encoding writes itself. -/
def percentMarks : List Char := "%0123456789ABCDEF".toList

theorem upperHexDigit_mem (value : Nat) : Text.upperHexDigit value ∈ percentMarks := by
  have digits : ∀ digit < 16, (Nat.digitChar digit).toUpper ∈ percentMarks := by decide
  exact digits (value % 16) (Nat.mod_lt value (by decide))

theorem mem_percentByte {byte : UInt8} {c : Char} (member : c ∈ percentByte byte) :
    c ∈ percentMarks := by
  simp only [percentByte, List.mem_cons, List.not_mem_nil, or_false] at member
  rcases member with rfl | rfl | rfl
  · decide
  · exact upperHexDigit_mem _
  · exact upperHexDigit_mem _

variable {set : Char → Bool} {text : List Char} {c : Char}

theorem percentEncode_cons (set : Char → Bool) (c : Char) (text : List Char) :
    percentEncode set (c :: text) =
      (if set c then (String.utf8EncodeChar c).flatMap percentByte else [c]) ++
        percentEncode set text := rfl

/-- A character of an encoded text was in the text and is not in the set, or is one of the marks. -/
theorem mem_percentEncode (member : c ∈ percentEncode set text) :
    (c ∈ text ∧ set c = false) ∨ c ∈ percentMarks := by
  obtain ⟨source, inside, written⟩ := List.mem_flatMap.1 member
  split at written
  · obtain ⟨byte, -, mark⟩ := List.mem_flatMap.1 written
    exact .inr (mem_percentByte mark)
  · rename_i spared
    rw [List.mem_singleton.1 written]
    exact .inl ⟨inside, by simpa using spared⟩

/-- No character of an encoded text is in the set, if the set leaves the marks alone. -/
theorem percentEncode_clean (marks : ∀ mark ∈ percentMarks, set mark = false)
    (member : c ∈ percentEncode set text) : set c = false :=
  (mem_percentEncode member).elim And.right (marks c)

theorem percentEncode_of_clean (clean : ∀ c ∈ text, set c = false) :
    percentEncode set text = text := by
  induction text with
  | nil => rfl
  | cons c text hypothesis =>
      obtain ⟨here, later⟩ := List.forall_mem_cons.1 clean
      rw [percentEncode_cons, hypothesis later, here]
      rfl

theorem percentEncode_eq_nil : percentEncode set text = [] ↔ text = [] := by
  constructor
  · intro empty
    cases text with
    | nil => rfl
    | cons c text =>
        rw [percentEncode_cons, List.append_eq_nil_iff] at empty
        obtain ⟨first, rest, bytes⟩ := List.exists_cons_of_ne_nil (@String.utf8EncodeChar_ne_nil c)
        rw [bytes] at empty
        split at empty
        · simp [percentByte] at empty
        · simp at empty
  · rintro rfl
    rfl

theorem isEmpty_percentEncode (set : Char → Bool) (text : List Char) :
    (percentEncode set text).isEmpty = text.isEmpty := by
  rw [Bool.eq_iff_iff, List.isEmpty_iff, List.isEmpty_iff]
  exact percentEncode_eq_nil

theorem isEncodedInPath_marks : ∀ mark ∈ percentMarks, isEncodedInPath mark = false :=
  Text.forall_marks (by decide)

theorem isEncodedInUserInfo_marks : ∀ mark ∈ percentMarks, isEncodedInUserInfo mark = false :=
  Text.forall_marks (by decide)

theorem isEncodedInQuery_marks : ∀ mark ∈ percentMarks, isEncodedInQuery mark = false :=
  Text.forall_marks (by decide)

/-- Only a dot is written with the byte of a dot in front. -/
theorem utf8EncodeChar_dot {rest : List UInt8} (dotted : String.utf8EncodeChar c = 0x2E :: rest) :
    c = '.' := by
  have first {number : Nat} {others : List UInt8}
      (same : UInt8.ofNat number :: others = 0x2E :: rest) : number % 256 = 0x2E := by
    simpa using congrArg UInt8.toNat (List.cons.inj same).1
  unfold String.utf8EncodeChar at dotted
  dsimp only at dotted
  split at dotted
  · rename_i small
    have byte := first dotted
    have point : c.val.toNat = '.'.val.toNat := by
      change c.val.toNat = 0x2E
      omega
    exact Char.ext (UInt32.toNat_inj.1 point)
  · split at dotted
    · have byte := first dotted
      omega
    · split at dotted
      · have byte := first dotted
        omega
      · have byte := first dotted
        omega

/-- The first character of an encoded text is the first one of the text, or the percent sign in
front of a byte. -/
theorem percentEncode_eq_cons {rest : List Char} (written : percentEncode set text = c :: rest) :
    (∃ more, text = c :: more ∧ rest = percentEncode set more) ∨
      ∃ source byte bytes tail, set source ∧ String.utf8EncodeChar source = byte :: bytes ∧
        c :: rest = percentByte byte ++ tail := by
  cases text with
  | nil => cases written
  | cons source more =>
      rw [percentEncode_cons] at written
      split at written
      · rename_i encoded
        obtain ⟨byte, bytes, split⟩ :=
          List.exists_cons_of_ne_nil (@String.utf8EncodeChar_ne_nil source)
        rw [split, List.flatMap_cons, List.append_assoc] at written
        exact .inr ⟨source, byte, bytes, _, encoded, split, written.symm⟩
      · obtain ⟨rfl, rfl⟩ := List.cons.inj written
        exact .inl ⟨more, rfl, rfl⟩

theorem dropDot_eq_some {rest : List Char} :
    dropDot text = some rest ↔
      text = '.' :: rest ∨ text = '%' :: '2' :: 'e' :: rest ∨ text = '%' :: '2' :: 'E' :: rest := by
  constructor
  · intro dotted
    unfold dropDot at dotted
    split at dotted
    · exact .inl (by rw [Option.some.inj dotted])
    · exact .inr (.inl (by rw [Option.some.inj dotted]))
    · exact .inr (.inr (by rw [Option.some.inj dotted]))
    · cases dotted
  · rintro (rfl | rfl | rfl) <;> rfl

/-- Two digits that name the byte of a dot. -/
theorem byte_of_digits {byte : UInt8} (high : Text.upperHexDigit (byte.toNat / 16) = '2')
    (low : Text.upperHexDigit byte.toNat = 'e' ∨ Text.upperHexDigit byte.toNat = 'E') :
    byte = 0x2E := by
  have two : ∀ digit < 16, (Nat.digitChar digit).toUpper = '2' → digit = 2 := by decide
  have fourteen : ∀ digit < 16, (Nat.digitChar digit).toUpper = 'e' ∨
      (Nat.digitChar digit).toUpper = 'E' → digit = 14 := by decide
  have left := two _ (Nat.mod_lt _ (by decide)) high
  have right := fourteen _ (Nat.mod_lt _ (by decide)) low
  have small := byte.toNat_lt
  refine UInt8.toNat_inj.1 ?_
  change byte.toNat = 0x2E
  omega

/-- A character that is encoded is not written like a dot. -/
theorem percentByte_ne_dot {source low : Char} {byte : UInt8} {bytes : List UInt8}
    {tail rest : List Char} (encoded : isEncodedInPath source)
    (split : String.utf8EncodeChar source = byte :: bytes) (isE : low = 'e' ∨ low = 'E') :
    '%' :: '2' :: low :: rest ≠ percentByte byte ++ tail := by
  intro same
  simp only [percentByte, List.cons_append, List.cons.injEq] at same
  obtain ⟨-, high, digit, -⟩ := same
  rw [byte_of_digits high.symm (digit ▸ isE)] at split
  rw [utf8EncodeChar_dot split] at encoded
  cases encoded

/-- An escaped dot in an encoded text was in the text. -/
theorem percentEncode_eq_escape {low : Char} {rest : List Char} (isE : low = 'e' ∨ low = 'E')
    (written : percentEncode isEncodedInPath text = '%' :: '2' :: low :: rest) :
    ∃ more, text = '%' :: '2' :: low :: more ∧ rest = percentEncode isEncodedInPath more := by
  have plain {c : Char} {rest : List Char} {text : List Char} (other : c ≠ '%')
      (written : percentEncode isEncodedInPath text = c :: rest) :
      ∃ more, text = c :: more ∧ rest = percentEncode isEncodedInPath more := by
    rcases percentEncode_eq_cons written with found | ⟨_, _, _, _, _, _, same⟩
    · exact found
    · exact absurd (List.cons.inj same).1 other
  rcases percentEncode_eq_cons written with
    ⟨first, rfl, later⟩ | ⟨source, byte, bytes, tail, encoded, split, same⟩
  · obtain ⟨second, rfl, last⟩ := plain (by decide) later.symm
    obtain ⟨more, rfl, rest⟩ := plain (by rcases isE with rfl | rfl <;> decide) last.symm
    exact ⟨more, rfl, rest⟩
  · exact absurd same (percentByte_ne_dot encoded split isE)

/-- An encoded text starts with a dot exactly if the text does. -/
theorem dropDot_percentEncode (text : List Char) :
    dropDot (percentEncode isEncodedInPath text) =
      (dropDot text).map (percentEncode isEncodedInPath) := by
  refine Option.ext fun rest => ?_
  rw [Option.map_eq_some_iff]
  constructor
  · intro dotted
    rcases dropDot_eq_some.1 dotted with plain | lower | upper
    · rcases percentEncode_eq_cons plain with ⟨more, rfl, rfl⟩ | ⟨_, _, _, _, _, _, same⟩
      · exact ⟨more, rfl, rfl⟩
      · exact absurd (List.cons.inj same).1 (by decide)
    · obtain ⟨more, rfl, rfl⟩ := percentEncode_eq_escape (.inl rfl) lower
      exact ⟨more, rfl, rfl⟩
    · obtain ⟨more, rfl, rfl⟩ := percentEncode_eq_escape (.inr rfl) upper
      exact ⟨more, rfl, rfl⟩
  · rintro ⟨more, dotted, rfl⟩
    rcases dropDot_eq_some.1 dotted with rfl | rfl | rfl <;> rfl

/-- A segment is a dot segment exactly if its encoded form is one. -/
theorem isSingleDot_percentEncode (text : List Char) :
    isSingleDot (percentEncode isEncodedInPath text) = isSingleDot text := by
  rw [isSingleDot, isSingleDot, dropDot_percentEncode]
  cases dropDot text with
  | none => rfl
  | some rest => simp [isEmpty_percentEncode]

theorem isDoubleDot_percentEncode (text : List Char) :
    isDoubleDot (percentEncode isEncodedInPath text) = isDoubleDot text := by
  rw [isDoubleDot, isDoubleDot, dropDot_percentEncode]
  cases dropDot text with
  | none => rfl
  | some rest =>
      rw [Option.map_some, Option.bind_some, Option.bind_some, dropDot_percentEncode]
      cases dropDot rest with
      | none => rfl
      | some others => simp [isEmpty_percentEncode]

end FeedCache.Url
