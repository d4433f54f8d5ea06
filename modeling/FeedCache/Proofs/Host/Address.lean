/-
This file reads the numeric addresses of hosts again from what is written for them.

Main statements: each address of four bytes and each of eight pieces is what its own text stands
for.
-/
import FeedCache.Host.Address
import FeedCache.Proofs.Text.Characters

namespace FeedCache

namespace Host

/-- What is written item by item is read again item by item. -/
theorem mapM_map_eq_some {α β : Type} {write : α → β} {read : β → Option α} {list : List α}
    (undone : ∀ item ∈ list, read (write item) = some item) :
    (list.map write).mapM read = some list := by
  induction list with
  | nil => rfl
  | cons item list hypothesis =>
      obtain ⟨here, later⟩ := List.forall_mem_cons.1 undone
      rw [List.map_cons, List.mapM_cons, here, hypothesis later]
      rfl

/-! Addresses of four bytes. -/

/-- A byte in decimal is read as itself. -/
theorem readAddressNumber_byte {value : Nat} (small : value < 256) :
    readAddressNumber (Nat.toDigits 10 value) = some value := by
  have each : ∀ value < 256, readAddressNumber (Nat.toDigits 10 value) = some value := by
    decide +kernel
  exact each value small

/-- The bytes of an address from the highest to the lowest. -/
def bytesOf (address : UInt32) : List Nat :=
  [3, 2, 1, 0].map fun index => address.toNat / Nat.pow 256 index % 256

theorem lt_of_mem_bytesOf {address : UInt32} {byte : Nat} (member : byte ∈ bytesOf address) :
    byte < 256 := by
  obtain ⟨index, -, rfl⟩ := List.mem_map.1 member
  exact Nat.mod_lt _ (by decide)

theorem writeFourBytes_eq (address : UInt32) :
    writeFourBytes address = Text.joined '.' ((bytesOf address).map (Nat.toDigits 10)) := by
  simp only [writeFourBytes, bytesOf, List.map_cons, List.map_nil, Nat.toString_eq_repr,
    Nat.toList_repr]

/-- The parts of an address of four bytes are its bytes. -/
theorem pieces_writeFourBytes (address : UInt32) :
    Text.pieces (· == '.') (writeFourBytes address) =
      (bytesOf address).map (Nat.toDigits 10) := by
  have digits : ∀ part ∈ (bytesOf address).map (Nat.toDigits 10), ∀ c ∈ part, c ≠ '.' := by
    intro part found c member
    obtain ⟨byte, -, rfl⟩ := List.mem_map.1 found
    rintro rfl
    exact absurd (Nat.isDigit_of_mem_toDigits (by decide) (by decide) member) (by decide)
  rw [writeFourBytes_eq]
  exact Text.piecesJoined '.' _ _ digits

theorem dottedParts_writeFourBytes (address : UInt32) :
    dottedParts (writeFourBytes address) = (bytesOf address).map (Nat.toDigits 10) := by
  rw [dottedParts, pieces_writeFourBytes]
  exact if_neg fun empty => Nat.toDigits_ne_nil (Option.some.inj empty)

/-- An address of four bytes is not taken for a name. -/
theorem endsInNumber_writeFourBytes (address : UInt32) :
    endsInNumber (writeFourBytes address) = true := by
  have last : ((bytesOf address).map (Nat.toDigits 10)).getLast? =
      some (Nat.toDigits 10 (address.toNat / Nat.pow 256 0 % 256)) := rfl
  have number := readAddressNumber_byte (Nat.mod_lt (address.toNat / Nat.pow 256 0) (by decide))
  rw [endsInNumber, dottedParts_writeFourBytes, last]
  dsimp only
  rw [number]
  exact Bool.or_true _

/-- An address of four bytes is read again from its text. -/
theorem readFourBytes_writeFourBytes (address : UInt32) :
    readFourBytes (writeFourBytes address) = some address := by
  have numbers : ((bytesOf address).map (Nat.toDigits 10)).mapM readAddressNumber =
      some (bytesOf address) :=
    mapM_map_eq_some fun byte member => readAddressNumber_byte (lt_of_mem_bytesOf member)
  have inRange : ¬ (3 < (bytesOf address).dropLast.length ∨
      Nat.pow 256 (4 - 3) ≤ address.toNat / Nat.pow 256 0 % 256 ∨
      (bytesOf address).dropLast.any (255 < ·)) := by
    rintro (long | large | some)
    · exact absurd long (Nat.lt_irrefl 3)
    · exact absurd (Nat.mod_lt _ (by decide)) (Nat.not_lt_of_le large)
    · obtain ⟨byte, member, large⟩ := List.any_eq_true.1 some
      have small := lt_of_mem_bytesOf (List.dropLast_subset _ member)
      have := of_decide_eq_true large
      omega
  have fits : address.toNat < 4294967296 := address.toNat_lt
  have total : (((0 * 256 + address.toNat / 16777216 % 256) * 256 +
      address.toNat / 65536 % 256) * 256 + address.toNat / 256 % 256) * 256 +
      address.toNat / 1 % 256 = address.toNat := by
    omega
  rw [readFourBytes, dottedParts_writeFourBytes, numbers]
  refine (if_neg inRange).trans (congrArg some ?_)
  exact (congrArg UInt32.ofNat total).trans (UInt32.ofNat_toNat)

/-- The characters of an address of four bytes. -/
def byteMarks : List Char := ".0123456789".toList

theorem mem_writeFourBytes {address : UInt32} {c : Char} (member : c ∈ writeFourBytes address) :
    c ∈ byteMarks := by
  have digits : ∀ value < 10, Nat.digitChar value ∈ byteMarks := by decide
  rw [writeFourBytes_eq] at member
  rcases Text.mem_joined member with rfl | ⟨part, found, inside⟩
  · decide
  · obtain ⟨byte, -, rfl⟩ := List.mem_map.1 found
    obtain ⟨value, small, rfl⟩ := Text.mem_toDigits (by decide) inside
    exact digits value small

/-! Addresses of eight pieces. -/

theorem isHexDigit_of_mem_toHex {number : Nat} {c : Char} (member : c ∈ Text.toHex number) :
    Text.isHexDigit c := by
  have digits : ∀ value < 16, Text.isHexDigit (Nat.digitChar value) := by decide
  obtain ⟨value, small, rfl⟩ := Text.mem_toDigits (by decide) member
  exact digits value small

theorem toHex_ne_nil (number : Nat) : Text.toHex number ≠ [] := Nat.toDigits_ne_nil

/-- A piece is read again from its digits. -/
theorem readPiece_toHex (piece : UInt16) : readPiece (Text.toHex piece.toNat) = some piece := by
  have short : (Text.toHex piece.toNat).length ≤ 4 :=
    (Nat.length_toDigits_le_iff (by decide) (by decide)).2 piece.toNat_lt
  have digits : (Text.toHex piece.toNat).all Text.isHexDigit :=
    List.all_eq_true.2 fun c member => isHexDigit_of_mem_toHex member
  have accepted : ¬ ((Text.toHex piece.toNat).isEmpty ∨ 4 < (Text.toHex piece.toNat).length ∨
      ¬ (Text.toHex piece.toNat).all Text.isHexDigit) := by
    rintro (empty | long | other)
    · exact toHex_ne_nil _ (List.isEmpty_iff.1 empty)
    · omega
    · exact other digits
  rw [readPiece, if_neg accepted, Text.hexNumber_toHex, UInt16.ofNat_toNat]

theorem writePieces_cons (piece : UInt16) (others : List UInt16) :
    ∃ c rest, writePieces (piece :: others) = c :: rest ∧ Text.isHexDigit c := by
  obtain ⟨c, rest, digits⟩ := List.exists_cons_of_ne_nil (toHex_ne_nil piece.toNat)
  have member : c ∈ Text.toHex piece.toNat := digits ▸ List.mem_cons_self
  have digit := isHexDigit_of_mem_toHex member
  cases others with
  | nil => exact ⟨c, rest, digits, digit⟩
  | cons second others =>
      refine ⟨c, rest ++ ':' :: writePieces (second :: others), ?_, digit⟩
      rw [← List.cons_append, ← digits]
      rfl

/-- Pieces are read again from their text. -/
theorem readPieces_writePieces (atEnd : Bool) (pieces : List UInt16) :
    readPieces atEnd (writePieces pieces) = some pieces := by
  cases pieces with
  | nil => rfl
  | cons first others =>
      obtain ⟨c, rest, written, -⟩ := writePieces_cons first others
      have filled : ¬ (writePieces (first :: others)).isEmpty := by simp [written]
      have digits : ∀ part ∈ (first :: others).map fun piece => Text.toHex piece.toNat,
          ∀ c ∈ part, Text.isHexDigit c := by
        intro part found c member
        obtain ⟨piece, -, rfl⟩ := List.mem_map.1 found
        exact isHexDigit_of_mem_toHex member
      have parts : Text.pieces (· == ':') (writePieces (first :: others)) =
          (first :: others).map fun piece => Text.toHex piece.toNat := by
        refine Text.piecesJoined ':' _ _ fun part found c member => ?_
        rintro rfl
        exact absurd (digits part found ':' member) (by decide)
      have undone : ∀ piece ∈ first :: others, readPiece (Text.toHex piece.toNat) = some piece :=
        fun piece _ => readPiece_toHex piece
      rw [readPieces, if_neg filled, parts]
      dsimp only
      split
      · rename_i last found
        have plain : last.contains '.' = false := by
          refine Bool.eq_false_iff.2 fun dot => ?_
          exact absurd (digits last (List.mem_of_getLast? found) '.' (List.contains_iff_mem.1 dot))
            (by decide)
        rw [plain, Bool.and_false]
        exact mapM_map_eq_some undone
      · rename_i none
        simp at none

/-- A character is passed unless it and the next one are both colons. -/
theorem splitAtGap_cons {c : Char} {rest : List Char} (plain : c ≠ ':' ∨ rest.head? ≠ some ':') :
    splitAtGap (c :: rest) = (splitAtGap rest).map fun split => (c :: split.1, split.2) := by
  rw [splitAtGap]
  rintro more rfl rfl
  rcases plain with other | other
  · exact other rfl
  · exact other rfl

theorem splitAtGap_append {piece : List Char} (plain : ∀ c ∈ piece, Text.isHexDigit c)
    (rest : List Char) :
    splitAtGap (piece ++ rest) =
      (splitAtGap rest).map fun split => (piece ++ split.1, split.2) := by
  induction piece with
  | nil => simp
  | cons c piece hypothesis =>
      obtain ⟨here, later⟩ := List.forall_mem_cons.1 plain
      have other : c ≠ ':' := by
        rintro rfl
        exact absurd here (by decide)
      rw [List.cons_append, splitAtGap_cons (.inl other), hypothesis later, Option.map_map]
      rfl

/-- Pieces have no gap between them. -/
theorem splitAtGap_writePieces (pieces : List UInt16) (rest : List Char) :
    splitAtGap (writePieces pieces ++ rest) =
      (splitAtGap rest).map fun split => (writePieces pieces ++ split.1, split.2) := by
  have digits {piece : UInt16} : ∀ c ∈ Text.toHex piece.toNat, Text.isHexDigit c :=
    fun _ member => isHexDigit_of_mem_toHex member
  induction pieces with
  | nil => simp [writePieces, Text.joined]
  | cons first others hypothesis =>
      cases others with
      | nil => exact splitAtGap_append digits rest
      | cons second others =>
          have whole : writePieces (first :: second :: others) =
              Text.toHex first.toNat ++ ':' :: writePieces (second :: others) := rfl
          obtain ⟨c, more, written, digit⟩ := writePieces_cons second others
          have next : (writePieces (second :: others) ++ rest).head? ≠ some ':' := by
            rw [written]
            rintro same
            rw [Option.some.inj same] at digit
            exact absurd digit (by decide)
          rw [whole, List.append_assoc, List.cons_append, splitAtGap_append digits,
            splitAtGap_cons (.inr next), hypothesis, Option.map_map, Option.map_map]
          simp [Function.comp_def]

/-- The zeros at the start of a list and what follows them. -/
theorem leadingZeros_spec (address : List UInt16) :
    address = List.replicate (leadingZeros address) 0 ++ address.drop (leadingZeros address) := by
  induction address with
  | nil => rfl
  | cons piece rest hypothesis =>
      by_cases zero : piece = 0
      · subst zero
        have counted : leadingZeros (0 :: rest) = leadingZeros rest + 1 := rfl
        rw [counted, List.replicate_succ, List.drop_succ_cons, List.cons_append, ← hypothesis]
      · have counted : leadingZeros (piece :: rest) = 0 := by simp [leadingZeros, zero]
        rw [counted]
        rfl

/-- The longest run is a run of zeros in the address. -/
theorem longestRun_spec (address : List UInt16) :
    address = address.take (longestRun address).1 ++ (List.replicate (longestRun address).2 0 ++
      address.drop ((longestRun address).1 + (longestRun address).2)) := by
  induction address with
  | nil => rfl
  | cons piece rest hypothesis =>
      rw [longestRun]
      dsimp only
      split
      · rw [List.take_zero, List.nil_append, Nat.zero_add]
        exact leadingZeros_spec (piece :: rest)
      · rw [List.take_succ_cons, Nat.add_right_comm, List.drop_succ_cons, List.cons_append,
          ← hypothesis]

theorem vector_of_list {pieces : List UInt16} {address : Vector UInt16 8}
    {size : pieces.toArray.size = 8} (same : pieces = address.toList) :
    (⟨pieces.toArray, size⟩ : Vector UInt16 8) = address := by
  subst same
  exact Vector.toArray_inj.1 Array.toArray_toList

/-- An address of eight pieces is read again from its text. -/
theorem readEightPieces_writeEightPieces (address : Vector UInt16 8) :
    readEightPieces (writeEightPieces address) = some address := by
  have eight : address.toList.length = 8 := by simp
  have parts := longestRun_spec address.toList
  rw [writeEightPieces]
  dsimp only
  generalize longestRun address.toList = run at parts ⊢
  split
  · rename_i long
    have gap : splitAtGap (':' :: ':' :: writePieces (address.toList.drop (run.1 + run.2))) =
        some ([], writePieces (address.toList.drop (run.1 + run.2))) := rfl
    have lengths := congrArg List.length parts
    rw [List.length_append, List.length_append, List.length_replicate, eight] at lengths
    have fits : (address.toList.take run.1).length +
        (address.toList.drop (run.1 + run.2)).length ≤ 7 := by
      omega
    have room : 8 - (address.toList.take run.1).length -
        (address.toList.drop (run.1 + run.2)).length = run.2 := by
      omega
    rw [readEightPieces, splitAtGap_writePieces, gap]
    simp only [Option.map_some, List.append_nil, readPieces_writePieces, Option.bind_eq_bind,
      Option.bind_some]
    rw [dif_pos fits]
    refine congrArg some (vector_of_list ?_)
    rw [room, List.append_assoc, ← parts]
  · have none : splitAtGap (writePieces address.toList) = none := by
      have passed := splitAtGap_writePieces address.toList []
      rwa [List.append_nil] at passed
    rw [readEightPieces, none]
    simp only [readPieces_writePieces, Option.bind_eq_bind, Option.bind_some]
    rw [dif_pos eight]
    exact congrArg some (vector_of_list rfl)

/-- The characters of an address of eight pieces. -/
def pieceMarks : List Char := ":0123456789abcdef".toList

theorem mem_writePieces {pieces : List UInt16} {c : Char} (member : c ∈ writePieces pieces) :
    c ∈ pieceMarks := by
  have digits : ∀ value < 16, Nat.digitChar value ∈ pieceMarks := by decide
  rcases Text.mem_joined member with rfl | ⟨part, found, inside⟩
  · decide
  · obtain ⟨piece, -, rfl⟩ := List.mem_map.1 found
    obtain ⟨value, small, rfl⟩ := Text.mem_toDigits (by decide) inside
    exact digits value small

theorem mem_writeEightPieces {address : Vector UInt16 8} {c : Char}
    (member : c ∈ writeEightPieces address) : c ∈ pieceMarks := by
  rw [writeEightPieces] at member
  dsimp only at member
  split at member
  · rcases List.mem_append.1 member with front | back
    · exact mem_writePieces front
    · rcases List.mem_cons.1 back with rfl | back
      · decide
      · rcases List.mem_cons.1 back with rfl | back
        · decide
        · exact mem_writePieces back
  · exact mem_writePieces member

end Host

end FeedCache
