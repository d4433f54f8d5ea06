/-
This file says where a path leads that was joined from two.

Main statement: a name that is joined to a path leads one step down from where the path leads.
-/
import FeedCache.Disk.Basic
import FeedCache.Store.Location

namespace FeedCache

namespace Text

/-- A separator cuts what is before it and what is after it apart. -/
theorem pieces_append (separator : Char → Bool) (first second : List Char) {c : Char}
    (cut : separator c) :
    pieces separator (first ++ c :: second) = pieces separator first ++ pieces separator second := by
  induction first with
  | nil => simp [pieces, cut]
  | cons d first hypothesis =>
      rw [List.cons_append, pieces, pieces, hypothesis]
      by_cases ends : separator d
      · rw [if_pos ends, if_pos ends, List.cons_append]
      · obtain ⟨piece, others, found⟩ := List.exists_cons_of_ne_nil (piecesNeNil separator first)
        simp [ends, found]

end Text

/-- A name of a file or a directory: it is not empty, holds no slash, and is neither one dot nor
two. -/
structure IsName (name : String) : Prop where
  filled : name ≠ ""
  noDot : name ≠ "."
  noDots : name ≠ ".."
  noSlash : '/' ∉ name.toList

/-- A text with an ending of more than two characters is a name. -/
theorem IsName.ofEnding {front ending : String} (long : 3 ≤ ending.toList.length)
    (clean : '/' ∉ front.toList) (plain : '/' ∉ ending.toList) : IsName (front ++ ending) := by
  have whole : 3 ≤ (front ++ ending).toList.length := by
    rw [String.toList_append, List.length_append]
    omega
  have other : ∀ short : String, short.toList.length < 3 → front ++ ending ≠ short := by
    rintro short less rfl
    omega
  refine ⟨other _ (by decide), other _ (by decide), other _ (by decide), ?_⟩
  simp [clean, plain]

/-- One name leads from a place to a place. -/
def Place.enter (place : Place) (name : String) : Place :=
  if name = "" ∨ name = "." then place else if name = ".." then place.dropLast
  else place ++ [name]

/-- Where a path begins: at the root if it starts with a slash. -/
def Place.origin (start : Place) (path : String) : Place :=
  if path.toList.head? = some '/' then [] else start

/-- The names that a path is made of. -/
def Place.names (path : String) : List String :=
  (Text.pieces (· == '/') path.toList).map String.ofList

/-- One place is beside another: they are two places in one directory. -/
structure Place.Beside (place other : Place) : Prop where
  below : place ≠ []
  apart : place ≠ other
  sibling : place.dropLast = other.dropLast

namespace Place

theorem ofPath_eq (start : Place) (path : String) :
    ofPath start path = (names path).foldl enter (origin start path) := rfl

/-- A name leads one step down. -/
theorem enter_name {name : String} (isName : IsName name) (place : Place) :
    place.enter name = place ++ [name] := by
  rw [enter, if_neg (not_or.2 ⟨isName.filled, isName.noDot⟩), if_neg isName.noDots]

/-- The names of two paths with a slash between them. -/
theorem names_slash (first second : String) :
    names (first ++ "/" ++ second) = names first ++ names second := by
  have whole : (first ++ "/" ++ second).toList = first.toList ++ '/' :: second.toList := by
    simp [String.toList_append]
  rw [names, whole, Text.pieces_append _ _ _ (by decide), List.map_append]
  rfl

theorem names_single {name : String} (noSlash : '/' ∉ name.toList) : names name = [name] := by
  have whole : ∀ c ∈ name.toList, (c == '/') = false := by
    intro c member
    refine beq_false_of_ne ?_
    rintro rfl
    exact noSlash member
  rw [names, Text.piecesOfNone _ _ whole, List.map_singleton, String.ofList_toList]

/-- What follows a path does not change where it begins. -/
theorem origin_append (start : Place) {first : String} (filled : first ≠ "") (second : String) :
    origin start (first ++ second) = origin start first := by
  obtain ⟨c, rest, whole⟩ := List.exists_cons_of_ne_nil fun empty =>
    filled (String.toList_eq_nil_iff.1 empty)
  rw [origin, origin, String.toList_append, whole]
  rfl

/-- A path and a single name that is joined to it: the name is read from where the path leads. -/
theorem ofPath_joinPath (start : Place) (base : String) {name : String}
    (noSlash : '/' ∉ name.toList) :
    ofPath start (Store.joinPath base name) = (ofPath start base).enter name := by
  have relative : name.toList.head? ≠ some '/' := fun first =>
    noSlash (List.mem_of_head? first)
  rw [Store.joinPath, if_neg relative]
  simp only [ofPath_eq]
  split
  · rename_i complete
    by_cases empty : base = ""
    · subst empty
      rw [String.empty_append, names_single noSlash, origin, if_neg relative]
      rfl
    · have slashed : base.toList.getLast? = some '/' :=
        complete.resolve_left fun none => empty (String.isEmpty_iff.1 none)
      obtain ⟨front, same⟩ := List.getLast?_eq_some_iff.1 slashed
      have cut : base = String.ofList front ++ "/" ++ "" := by
        rw [← String.toList_inj, same]
        simp
      have further : base ++ name = String.ofList front ++ "/" ++ name := by
        rw [cut, String.append_empty]
      rw [origin_append start empty, further, names_slash, names_single noSlash]
      conv => rhs; rw [cut, names_slash]
      rw [List.foldl_append, List.foldl_append, ← cut]
      rfl
  · rename_i incomplete
    have filled : base ≠ "" := by
      rintro rfl
      exact incomplete (.inl rfl)
    rw [String.append_assoc, origin_append start filled, ← String.append_assoc, names_slash,
      names_single noSlash, List.foldl_append]
    rfl

end Place

end FeedCache
