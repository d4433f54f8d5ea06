/-
This file says what the segments of a path are.

Main statements: a path that has been read has at least one segment and no dot segment, and it is
read again from its own text.
-/
import FeedCache.Proofs.Url.Percent

namespace FeedCache.Url

/-- Only a capital is changed by writing it in lower case. -/
theorem toLower_eq {c d : Char} (lower : c.toLower = d) :
    c = d ∨ c.toNat + 32 = d.toNat ∧ 65 ≤ c.toNat := by
  unfold Char.toLower at lower
  split at lower
  · rename_i capital
    right
    rw [← lower]
    have first : 65 ≤ c.val.toNat := UInt32.le_iff_toNat_le.1 capital.1
    have last : c.val.toNat ≤ 90 := UInt32.le_iff_toNat_le.1 capital.2
    refine ⟨?_, first⟩
    change c.val.toNat + 32 = (c.val + ('a'.val - 'A'.val)).toNat
    rw [UInt32.toNat_add]
    change c.val.toNat + 32 = (c.val.toNat + 32) % _
    omega
  · exact .inl lower

theorem toLower_eq_mark {c d : Char} (lower : c.toLower = d) (mark : d.toNat < 97) : c = d := by
  rcases toLower_eq lower with same | ⟨sum, first⟩
  · exact same
  · omega

theorem toLower_eq_e {c : Char} (lower : c.toLower = 'e') : c = 'e' ∨ c = 'E' := by
  rcases toLower_eq lower with same | ⟨sum, -⟩
  · exact .inl same
  · right
    have point : c.toNat = 'E'.toNat := by
      change c.toNat + 32 = 101 at sum
      change c.toNat = 69
      omega
    exact Char.ext (UInt32.toNat_inj.1 point)

theorem dropDot_toLower (text : List Char) :
    dropDot (text.map Char.toLower) = (dropDot text).map (List.map Char.toLower) := by
  refine Option.ext fun rest => ?_
  rw [Option.map_eq_some_iff]
  constructor
  · intro dotted
    rcases dropDot_eq_some.1 dotted with plain | lower | upper
    · obtain ⟨c, more, rfl, dot, rfl⟩ := List.map_eq_cons_iff.1 plain
      rw [toLower_eq_mark dot (by decide)]
      exact ⟨more, rfl, rfl⟩
    · obtain ⟨c, others, rfl, percent, later⟩ := List.map_eq_cons_iff.1 lower
      obtain ⟨d, others, rfl, two, later⟩ := List.map_eq_cons_iff.1 later
      obtain ⟨e, more, rfl, digit, rfl⟩ := List.map_eq_cons_iff.1 later
      rw [toLower_eq_mark percent (by decide), toLower_eq_mark two (by decide)]
      rcases toLower_eq_e digit with rfl | rfl
      · exact ⟨more, rfl, rfl⟩
      · exact ⟨more, rfl, rfl⟩
    · obtain ⟨c, others, rfl, -, later⟩ := List.map_eq_cons_iff.1 upper
      obtain ⟨d, others, rfl, -, later⟩ := List.map_eq_cons_iff.1 later
      obtain ⟨e, more, rfl, digit, rfl⟩ := List.map_eq_cons_iff.1 later
      rw [toLower_eq_mark digit (by decide)] at digit
      cases digit
  · rintro ⟨more, dotted, rfl⟩
    rcases dropDot_eq_some.1 dotted with rfl | rfl | rfl <;> rfl

/-- The ways to write one dot and two dots, in lower case. -/
def dotSpellings : List (List Char) :=
  [".", "%2e", "..", ".%2e", "%2e.", "%2e%2e"].map String.toList

/-- The segment is one dot or two, each written as itself or by its number in either case. -/
def IsDotSegment (segment : List Char) : Prop := segment.map Char.toLower ∈ dotSpellings

instance (segment : List Char) : Decidable (IsDotSegment segment) :=
  inferInstanceAs (Decidable (segment.map Char.toLower ∈ dotSpellings))

theorem isSingleDot_toLower (segment : List Char) :
    isSingleDot (segment.map Char.toLower) = isSingleDot segment := by
  rw [isSingleDot, isSingleDot, dropDot_toLower]
  cases dropDot segment with
  | none => rfl
  | some rest => simp

theorem isDoubleDot_toLower (segment : List Char) :
    isDoubleDot (segment.map Char.toLower) = isDoubleDot segment := by
  rw [isDoubleDot, isDoubleDot, dropDot_toLower]
  cases dropDot segment with
  | none => rfl
  | some rest =>
      rw [Option.map_some, Option.bind_some, Option.bind_some, dropDot_toLower]
      cases dropDot rest with
      | none => rfl
      | some others => simp

/-- The dot segments are those that the walk through a path follows. -/
theorem isDotSegment_iff {segment : List Char} :
    IsDotSegment segment ↔ isSingleDot segment ∨ isDoubleDot segment := by
  constructor
  · intro spelled
    have spellings : ∀ text ∈ dotSpellings, isSingleDot text ∨ isDoubleDot text := by decide
    have followed := spellings _ spelled
    rwa [isSingleDot_toLower, isDoubleDot_toLower] at followed
  · rintro (single | double)
    · rcases dropDot_eq_some.1 (eq_of_beq single) with rfl | rfl | rfl <;> decide
    · obtain ⟨rest, first, second⟩ := Option.bind_eq_some_iff.1 (eq_of_beq double)
      rcases dropDot_eq_some.1 second with rfl | rfl | rfl <;>
        rcases dropDot_eq_some.1 first with rfl | rfl | rfl <;> decide

/-- A segment of a path that has been read: nothing in it is to be encoded or divides it, and it is
no dot segment. -/
structure IsSegment (segment : List Char) : Prop where
  clean : ∀ c ∈ segment, isEncodedInPath c = false
  undivided : ∀ c ∈ segment, isSlash c = false
  noDot : isSingleDot segment = false
  noDots : isDoubleDot segment = false

theorem IsSegment.empty : IsSegment [] :=
  ⟨by simp, by simp, rfl, rfl⟩

theorem IsSegment.encoded {text : List Char} (undivided : ∀ c ∈ text, isSlash c = false)
    (noDot : isSingleDot text = false) (noDots : isDoubleDot text = false) :
    IsSegment (percentEncode isEncodedInPath text) where
  clean := fun _ member => percentEncode_clean isEncodedInPath_marks member
  undivided := by
    have marks : ∀ mark ∈ percentMarks, isSlash mark = false := Text.forall_marks (by decide)
    rintro c member
    rcases mem_percentEncode member with ⟨inside, -⟩ | mark
    · exact undivided c inside
    · exact marks c mark
  noDot := by rw [isSingleDot_percentEncode, noDot]
  noDots := by rw [isDoubleDot_percentEncode, noDots]

theorem mem_of_parentDirectory {directory : List (List Char)} {segment : List Char}
    (member : segment ∈ parentDirectory directory) : segment ∈ directory := by
  rw [parentDirectory] at member
  split at member
  · exact member
  · exact List.dropLast_subset directory member

/-- A walk from a directory of segments leads to segments. -/
theorem walk_isSegment {directory texts : List (List Char)}
    (below : ∀ segment ∈ directory, IsSegment segment)
    (undivided : ∀ text ∈ texts, ∀ c ∈ text, isSlash c = false) :
    ∀ segment ∈ walk directory texts, IsSegment segment := by
  have parent {directory : List (List Char)} (below : ∀ segment ∈ directory, IsSegment segment) :
      ∀ segment ∈ parentDirectory directory, IsSegment segment :=
    fun segment member => below segment (mem_of_parentDirectory member)
  have append {directory : List (List Char)} {last : List Char}
      (below : ∀ segment ∈ directory, IsSegment segment) (sound : IsSegment last) :
      ∀ segment ∈ directory ++ [last], IsSegment segment :=
    List.forall_mem_append.2 ⟨below, List.forall_mem_singleton.2 sound⟩
  fun_induction walk directory texts with
  | case1 directory => exact below
  | case2 directory last dots => exact append (parent below) .empty
  | case3 directory last noDots dot => exact append below .empty
  | case4 directory last noDots noDot =>
      exact append below (.encoded (undivided last List.mem_cons_self) (by simpa using noDot)
        (by simpa using noDots))
  | case5 directory segment others more dots hypothesis =>
      exact hypothesis (parent below) (List.forall_mem_cons.1 undivided).2
  | case6 directory segment others more noDots dot hypothesis =>
      exact hypothesis below (List.forall_mem_cons.1 undivided).2
  | case7 directory segment others more noDots noDot hypothesis =>
      obtain ⟨here, later⟩ := List.forall_mem_cons.1 undivided
      exact hypothesis
        (append below (.encoded here (by simpa using noDot) (by simpa using noDots))) later

/-- A walk leads at least to the last text. -/
theorem walk_ne_nil {directory texts : List (List Char)} (some : texts ≠ []) :
    walk directory texts ≠ [] := by
  fun_induction walk directory texts with
  | case1 => exact absurd rfl some
  | case2 | case3 | case4 => simp
  | case5 directory segment others more dots hypothesis => exact hypothesis (by simpa using more)
  | case6 directory segment others more noDots dot hypothesis =>
      exact hypothesis (by simpa using more)
  | case7 directory segment others more noDots noDot hypothesis =>
      exact hypothesis (by simpa using more)

/-- Segments are walked as they are. -/
theorem walk_segments (directory : List (List Char)) {path : List (List Char)}
    (sound : ∀ segment ∈ path, IsSegment segment) : walk directory path = directory ++ path := by
  fun_induction walk directory path with
  | case1 directory => exact (List.append_nil directory).symm
  | case2 directory last dots => simp [(sound last List.mem_cons_self).noDots] at dots
  | case3 directory last noDots dot => simp [(sound last List.mem_cons_self).noDot] at dot
  | case4 directory last noDots noDot =>
      rw [percentEncode_of_clean (sound last List.mem_cons_self).clean]
  | case5 directory segment others more dots hypothesis =>
      simp [(sound segment List.mem_cons_self).noDots] at dots
  | case6 directory segment others more noDots dot hypothesis =>
      simp [(sound segment List.mem_cons_self).noDot] at dot
  | case7 directory segment others more noDots noDot hypothesis =>
      obtain ⟨here, later⟩ := List.forall_mem_cons.1 sound
      rw [hypothesis later, percentEncode_of_clean here.clean, List.append_assoc]
      rfl

theorem readPath_isSegment {directory : List (List Char)}
    (below : ∀ segment ∈ directory, IsSegment segment) (text : List Char) :
    ∀ segment ∈ readPath directory text, IsSegment segment :=
  walk_isSegment below fun _ found _ member => Text.mem_pieces found member

theorem readPath_ne_nil (directory : List (List Char)) (text : List Char) :
    readPath directory text ≠ [] :=
  walk_ne_nil (Text.piecesNeNil isSlash text)

/-- The text of a path starts with a slash, and the segments are what stands between the slashes. -/
theorem pieces_pathText {path : List (List Char)} (some : path ≠ [])
    (sound : ∀ segment ∈ path, IsSegment segment) :
    ∃ rest, pathText path = '/' :: rest ∧ Text.pieces isSlash rest = path := by
  induction path with
  | nil => exact absurd rfl some
  | cons segment others hypothesis =>
      obtain ⟨here, later⟩ := List.forall_mem_cons.1 sound
      refine ⟨segment ++ pathText others, rfl, ?_⟩
      by_cases last : others = []
      · rw [last]
        exact (congrArg (Text.pieces isSlash) (List.append_nil segment)).trans
          (Text.piecesOfNone isSlash segment here.undivided)
      · obtain ⟨rest, written, cut⟩ := hypothesis last later
        rw [written, Text.piecesAppendCons isSlash segment '/' rest here.undivided rfl, cut]

/-- A path is read again from its text. -/
theorem readPath_pathText {path : List (List Char)} {rest : List Char} (some : path ≠ [])
    (sound : ∀ segment ∈ path, IsSegment segment) (written : pathText path = '/' :: rest) :
    readPath [] rest = path := by
  obtain ⟨same, written', cut⟩ := pieces_pathText some sound
  obtain ⟨-, rfl⟩ := List.cons.inj (written.symm.trans written')
  rw [readPath, cut, walk_segments [] sound, List.nil_append]

/-- The characters of a path are slashes and the characters of its segments. -/
theorem mem_pathText {path : List (List Char)} {c : Char} (member : c ∈ pathText path) :
    c = '/' ∨ ∃ segment ∈ path, c ∈ segment := by
  obtain ⟨segment, inside, found⟩ := List.mem_flatMap.1 member
  rcases List.mem_cons.1 found with rfl | character
  · exact .inl rfl
  · exact .inr ⟨segment, inside, character⟩

end FeedCache.Url
