/-
This file says what a host is that has been read from a text.

Main statements: the text of a host holds only characters that can stand in an authority, and the
host is read again from it if its name is one that stays as it is on the wire.
-/
import FeedCache.Proofs.Host.Address
import FeedCache.Url.Authority

namespace FeedCache

namespace Host

/-- A name on the wire: it is not empty, holds only characters of hosts, and is no address. -/
structure IsWireName (labels : List Char) : Prop where
  filled : labels ≠ []
  clean : ∀ c ∈ labels, isHostCharacter c
  noNumber : endsInNumber labels = false

/-- A host that can be read: the name in it, if there is one, is a name on the wire. -/
def Sound : Host → Prop
  | .name labels => IsWireName labels
  | .fourBytes _ => True
  | .eightPieces _ => True

theorem ofName_sound {labels : List Char} {host : Host} (clean : ∀ c ∈ labels, isHostCharacter c)
    (read : ofName labels = .ok host) : host.Sound := by
  rw [ofName] at read
  split at read
  · cases read
  · rename_i filled
    split at read
    · split at read
      · cases read
        exact trivial
      · cases read
    · rename_i noNumber
      cases read
      exact ⟨by simpa using filled, clean, by simpa using noNumber⟩

theorem readBracketed_sound {text : List Char} {host : Host}
    (read : readBracketed text = .ok host) : host.Sound := by
  rw [readBracketed] at read
  split at read
  · split at read
    · cases read
      exact trivial
    · cases read
  · cases read

/-- A text that does not start with a bracket is a name. -/
theorem read_eq_ofName {text : List Char} (plain : text.head? ≠ some '[') :
    Host.read text = (((Url.percentDecodedText text).bind wireName).map ofName).getD
      (.error .invalidName) := by
  unfold Host.read
  split
  · exact absurd rfl plain
  · cases (Url.percentDecodedText text).bind wireName with
    | none => rfl
    | some labels => rfl

theorem read_sound {text : List Char} {host : Host} (read : Host.read text = .ok host) :
    host.Sound := by
  by_cases bracket : text.head? = some '['
  · obtain ⟨rest, rfl⟩ := List.head?_eq_some_iff.1 bracket
    exact readBracketed_sound read
  · rw [read_eq_ofName bracket] at read
    cases written : (Url.percentDecodedText text).bind wireName with
    | none =>
        rw [written] at read
        cases read
    | some labels =>
        rw [written] at read
        obtain ⟨name, -, onWire⟩ := Option.bind_eq_some_iff.1 written
        exact ofName_sound (wireNameClean onWire) read

/-- The character is visible ASCII and does not end an authority, nor its user. -/
def isAuthorityCharacter (c : Char) : Bool :=
  0x20 < c.toNat && c.toNat < 0x7F && !(['#', '/', '\\', '?', '@'].contains c)

/-- A character of a host name divides neither the authority nor the host. -/
theorem isHostCharacter_cases {c : Char} (host : isHostCharacter c) :
    isAuthorityCharacter c ∧ c ≠ ':' ∧ c ≠ '[' ∧ c ≠ ']' ∧ c ≠ '%' := by
  have ascii : c.toNat < 128 := by
    rw [isHostCharacter, Bool.and_eq_true] at host
    exact of_decide_eq_true host.1
  exact Text.forall_ascii
    (fun c => isHostCharacter c → isAuthorityCharacter c ∧ c ≠ ':' ∧ c ≠ '[' ∧ c ≠ ']' ∧ c ≠ '%')
    (by decide +kernel) ascii host

variable {host : Host}

theorem toList_ne_nil (sound : host.Sound) : host.toList ≠ [] := by
  cases host with
  | name labels => exact sound.filled
  | fourBytes address =>
      intro empty
      have parts := pieces_writeFourBytes address
      rw [show writeFourBytes address = [] from empty] at parts
      exact Nat.toDigits_ne_nil (List.cons.inj parts).1.symm
  | eightPieces address => exact List.cons_ne_nil _ _

/-- The text of a host ends neither the authority nor its user. -/
theorem mem_toList (sound : host.Sound) {c : Char} (member : c ∈ host.toList) :
    isAuthorityCharacter c := by
  cases host with
  | name labels => exact (isHostCharacter_cases (sound.clean c member)).1
  | fourBytes address =>
      have each : ∀ mark ∈ byteMarks, isAuthorityCharacter mark :=
        Text.forall_marks (by decide)
      exact each c (mem_writeFourBytes member)
  | eightPieces address =>
      have each : ∀ mark ∈ pieceMarks, isAuthorityCharacter mark :=
        Text.forall_marks (by decide)
      rcases List.mem_cons.1 member with rfl | member
      · decide +kernel
      · rcases List.mem_append.1 member with inside | last
        · exact each c (mem_writeEightPieces inside)
        · rw [List.mem_singleton.1 last]
          decide +kernel

/-- A text that opens and closes no bracket, and holds a colon only inside brackets, is passed in
search of the port. -/
theorem splitPort_append {inBrackets : Bool} {text : List Char}
    (plain : ∀ c ∈ text, c ≠ '[' ∧ c ≠ ']' ∧ (c = ':' → inBrackets = true)) (rest : List Char) :
    Url.splitPort inBrackets (text ++ rest) =
      (text ++ (Url.splitPort inBrackets rest).1, (Url.splitPort inBrackets rest).2) := by
  induction text with
  | nil => rfl
  | cons c text hypothesis =>
      obtain ⟨⟨noOpening, noClosing, inside⟩, later⟩ := List.forall_mem_cons.1 plain
      have passed : ¬ (c = ':' ∧ inBrackets = false) := by
        rintro ⟨rfl, outside⟩
        rw [inside rfl] at outside
        cases outside
      rw [List.cons_append, Url.splitPort, if_neg passed, if_neg noOpening, if_neg noClosing,
        hypothesis later]
      rfl

/-- The port is found behind the text of a host. -/
theorem splitPort_toList (sound : host.Sound) {rest : List Char}
    (port : rest = [] ∨ rest.head? = some ':') :
    Url.splitPort false (host.toList ++ rest) = (host.toList, rest) := by
  have behind : Url.splitPort false rest = ([], rest) := by
    rcases port with rfl | colon
    · rfl
    · obtain ⟨digits, rfl⟩ := List.head?_eq_some_iff.1 colon
      rfl
  cases host with
  | name labels =>
      have plain : ∀ c ∈ labels, c ≠ '[' ∧ c ≠ ']' ∧ (c = ':' → false = true) := by
        intro c member
        obtain ⟨-, noColon, noOpening, noClosing, -⟩ := isHostCharacter_cases (sound.clean c member)
        exact ⟨noOpening, noClosing, fun colon => absurd colon noColon⟩
      rw [toList, splitPort_append plain, behind, List.append_nil]
  | fourBytes address =>
      have each : ∀ mark ∈ byteMarks, mark ≠ '[' ∧ mark ≠ ']' ∧ (mark = ':' → false = true) :=
        Text.forall_marks (by decide)
      rw [toList, splitPort_append fun c member => each c (mem_writeFourBytes member), behind,
        List.append_nil]
  | eightPieces address =>
      have each : ∀ mark ∈ pieceMarks, mark ≠ '[' ∧ mark ≠ ']' ∧ (mark = ':' → true = true) :=
        Text.forall_marks (by decide)
      have opened : Url.splitPort false ('[' :: (writeEightPieces address ++ (']' :: rest))) =
          ('[' :: (Url.splitPort true (writeEightPieces address ++ (']' :: rest))).1,
            (Url.splitPort true (writeEightPieces address ++ (']' :: rest))).2) := rfl
      have closed : Url.splitPort true (']' :: rest) =
          (']' :: (Url.splitPort false rest).1, (Url.splitPort false rest).2) := rfl
      rw [toList, List.cons_append, List.append_assoc, List.singleton_append, opened,
        splitPort_append fun c member => each c (mem_writeEightPieces member), closed, behind]

/-- A name in small letters without encoded labels is its own form on the wire. -/
theorem wireName_plain {name : List Char} (clean : ∀ c ∈ name, isHostCharacter c)
    (small : ∀ c ∈ name, c.toLower = c)
    (noSign : ∀ label ∈ Text.pieces (· == '.') name, hasEncodingSign label = false) :
    wireName name = some name := by
  have ascii : name.all isAscii := by
    refine List.all_eq_true.2 fun c member => ?_
    have host := clean c member
    rw [isHostCharacter, Bool.and_eq_true] at host
    exact host.1
  have plain : (Text.pieces (· == '.') name).any hasEncodingSign = false :=
    List.any_eq_false.2 fun label member => by simp [noSign label member]
  have same : name.map Char.toLower = name :=
    (List.map_congr_left small).trans (List.map_id name)
  rw [wireName, ascii, plain, same]
  exact Option.filter_eq_some_iff.2 ⟨rfl, List.all_eq_true.2 clean⟩

/-- An address of four bytes passes as a name on the wire. -/
theorem wireName_writeFourBytes (address : UInt32) :
    wireName (writeFourBytes address) = some (writeFourBytes address) := by
  have marks : ∀ mark ∈ byteMarks, isHostCharacter mark ∧ mark.toLower = mark :=
        Text.forall_marks (by decide)
  have bytes : ∀ value < 256, hasEncodingSign (Nat.toDigits 10 value) = false := by
    decide +kernel
  refine wireName_plain (fun c member => (marks c (mem_writeFourBytes member)).1)
    (fun c member => (marks c (mem_writeFourBytes member)).2) ?_
  intro label found
  rw [pieces_writeFourBytes] at found
  obtain ⟨byte, member, rfl⟩ := List.mem_map.1 found
  exact bytes byte (lt_of_mem_bytesOf member)

/-- The name of the host, if it has one, is its own form on the wire. -/
def Stable : Host → Prop
  | .name labels => wireName labels = some labels
  | .fourBytes _ => True
  | .eightPieces _ => True

/-- A text that is its own form on the wire is read as a name. -/
theorem read_of_stable {text : List Char} (clean : ∀ c ∈ text, isHostCharacter c)
    (stable : wireName text = some text) : Host.read text = ofName text := by
  have plain : text.head? ≠ some '[' := fun bracket =>
    (isHostCharacter_cases (clean '[' (List.mem_of_head? bracket))).2.2.1 rfl
  have noPercent : ¬ text.contains '%' := fun percent =>
    (isHostCharacter_cases (clean '%' (List.contains_iff_mem.1 percent))).2.2.2.2 rfl
  rw [read_eq_ofName plain, Url.percentDecodedText, if_neg noPercent, Option.bind_some, stable,
    Option.map_some, Option.getD_some]

/-- A host is read again from its text. -/
theorem read_toList (sound : host.Sound) (stable : host.Stable) :
    Host.read host.toList = .ok host := by
  have filled : ¬ host.toList.isEmpty := fun empty =>
    toList_ne_nil sound (List.isEmpty_iff.1 empty)
  cases host with
  | name labels =>
      have noNumber : ¬ endsInNumber labels := Bool.eq_false_iff.1 sound.noNumber
      rw [toList, read_of_stable sound.clean stable, ofName]
      rw [toList] at filled
      rw [if_neg filled, if_neg noNumber]
  | fourBytes address =>
      have marks : ∀ mark ∈ byteMarks, isHostCharacter mark :=
        Text.forall_marks (by decide)
      have clean : ∀ c ∈ writeFourBytes address, isHostCharacter c :=
        fun c member => marks c (mem_writeFourBytes member)
      rw [toList] at filled ⊢
      rw [read_of_stable clean (wireName_writeFourBytes address), ofName, if_neg filled,
        if_pos (endsInNumber_writeFourBytes address), readFourBytes_writeFourBytes]
  | eightPieces address =>
      have closed : (writeEightPieces address ++ [']']).getLast? = some ']' :=
        List.getLast?_concat
      rw [toList, Host.read, readBracketed, if_pos closed, List.dropLast_concat,
        readEightPieces_writeEightPieces]

end Host

end FeedCache
