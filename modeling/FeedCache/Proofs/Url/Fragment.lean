/-
This file compares texts that differ in their fragments.

Main statements: what follows the first number sign of a text does not decide what the text names,
and neither does the number sign itself. The one exception is a text of an unknown scheme that ends
with an at sign for no user and no host, which is refused for one reason or for another.
-/
import FeedCache.Proofs.Url.Location

namespace FeedCache.Url

/-! What is read in front of a fragment. -/

/-- The character is neither blank nor a control. -/
def IsFirm (c : Char) : Prop := Text.isBlank c = false ∧ isDroppedAtEnds c = false

instance (c : Char) : Decidable (IsFirm c) := inferInstanceAs (Decidable (_ ∧ _))

/-- Nothing is dropped at the ends of the text, and there is something between them. -/
structure HasFirmEnds (text : List Char) : Prop where
  filled : text ≠ []
  first : ∀ c ∈ text.head?, IsFirm c
  last : ∀ c ∈ text.getLast?, IsFirm c

variable {text : List Char}

theorem hasFirmEnds_iff : HasFirmEnds text ↔
    (text.head?.any fun c => IsFirm c) ∧ (text.getLast?.any fun c => IsFirm c) := by
  cases text with
  | nil => exact iff_of_false (fun firm => firm.filled rfl) (by simp)
  | cons c rest =>
      have final := List.getLast?_eq_some_getLast (List.cons_ne_nil c rest)
      constructor
      · intro firm
        simp [firm.first c rfl, final, firm.last _ final]
      · rintro ⟨first, last⟩
        refine ⟨List.cons_ne_nil c rest, ?_, ?_⟩
        · simpa using first
        · simpa [final] using last

instance : Decidable (HasFirmEnds text) := decidable_of_iff' _ hasFirmEnds_iff

theorem HasFirmEnds.strip_eq (firm : HasFirmEnds text) {test : Char → Bool}
    (fails : ∀ c, IsFirm c → test c = false) : Text.strip test text = text :=
  Text.strip_eq_self_of_ends (fun c head => fails c (firm.first c head))
    fun c last => fails c (firm.last c last)

/-- What is read in front of a fragment depends on what stands there, and on nothing behind. -/
theorem readFetchable_marked (base : Option Url) (plain : '#' ∉ text) (fragment : List Char) :
    readFetchable base (text ++ '#' :: fragment) = fetchableBody base true
      (((text.dropWhile Text.isBlank).dropWhile isDroppedAtEnds).filter isKeptInside) := by
  have filled : Text.trim (text ++ '#' :: fragment) ≠ [] :=
    trim_ne_nil ⟨'#', by simp, by decide⟩
  obtain ⟨tail, cleaned⟩ : ∃ tail, clean (Text.trim (text ++ '#' :: fragment)) =
      ((text.dropWhile Text.isBlank).dropWhile isDroppedAtEnds).filter isKeptInside ++
        '#' :: tail := by
    rw [Text.trim, Text.strip_append_cons (by decide)]
    change ∃ tail, (Text.strip isDroppedAtEnds _).filter isKeptInside = _
    rw [Text.strip_append_cons (by decide), List.filter_append, List.filter_cons_of_pos (by decide)]
    exact ⟨_, rfl⟩
  have unmarked : ∀ c ∈ ((text.dropWhile Text.isBlank).dropWhile isDroppedAtEnds).filter
      isKeptInside, (c != '#') = true := by
    intro c member
    have inside : c ∈ text := (List.dropWhile_suffix _).subset
      ((List.dropWhile_suffix _).subset (List.mem_of_mem_filter member))
    simp only [bne_iff_ne, ne_eq]
    rintro rfl
    exact plain inside
  have read := Text.takeWhile_append_stop unmarked ('#' :: tail) (by simp)
  rw [readFetchable_eq filled, bodyOf, cleaned, read.1]
  simp

/-- A text with firm ends is read as it is, tabs and line ends apart, with a fragment or without. -/
theorem readFetchable_firm (base : Option Url) (plain : '#' ∉ text) (firm : HasFirmEnds text)
    (fragment : List Char) :
    readFetchable base text = fetchableBody base false (text.filter isKeptInside) ∧
      readFetchable base (text ++ '#' :: fragment) =
        fetchableBody base true (text.filter isKeptInside) := by
  have trimmed : Text.trim text = text := firm.strip_eq fun c kept => kept.1
  have cleaned : clean text = text.filter isKeptInside :=
    congrArg (List.filter isKeptInside) (firm.strip_eq fun c kept => kept.2)
  have unmarked : '#' ∉ text.filter isKeptInside := fun member =>
    plain (List.mem_of_mem_filter member)
  have front {test : Char → Bool} (fails : ∀ c, IsFirm c → test c = false) :
      text.dropWhile test = text := by
    cases text with
    | nil => rfl
    | cons c rest => exact List.dropWhile_cons_of_neg (by simp [fails c (firm.first c rfl)])
  constructor
  · have whole : (text.filter isKeptInside).takeWhile (· != '#') = text.filter isKeptInside :=
      List.takeWhile_eq_self_iff.2 fun c member => by
        simp only [bne_iff_ne, ne_eq]
        rintro rfl
        exact unmarked member
    rw [readFetchable_eq (trimmed.symm ▸ firm.filled), bodyOf, trimmed, cleaned, whole]
    simp [unmarked]
  · rw [readFetchable_marked base plain, front fun c kept => kept.1, front fun c kept => kept.2]

/-! What a fragment decides. -/

/-- The schemes whose texts are read in a way of their own. -/
def knownSchemes : List (List Char) :=
  ["http", "https", "ws", "wss", "ftp", "file"].map String.toList

theorem schemeKind_eq_unknown {scheme : List Char} :
    schemeKind scheme = .unknown ↔ scheme ∉ knownSchemes := by
  simp only [schemeKind, knownSchemes, List.map_cons, List.map_nil, List.mem_cons,
    List.not_mem_nil, or_false]
  split_ifs <;> simp_all
  tauto

/-- The text is an unknown scheme with slashes and an at sign, which stands for no user and no
host. -/
def IsBareSign (scheme text : List Char) : Prop :=
  ∃ name, IsSchemeName name ∧ text = name ++ "://@".toList ∧ scheme = name.map Char.toLower ∧
    scheme ∉ knownSchemes

theorem IsBareSign.split {scheme : List Char} (bare : IsBareSign scheme text) :
    splitScheme text = some (scheme, "//@".toList) ∧ schemeKind scheme = .unknown := by
  obtain ⟨name, isName, rfl, spelled, unknown⟩ := bare
  exact ⟨splitScheme_eq_some.2 ⟨name, isName, rfl, spelled⟩, schemeKind_eq_unknown.2 unknown⟩

/-- The at sign that divides a text stands between the two parts. -/
theorem splitAtSign_eq_some {before after : List Char}
    (split : splitAtSign text = some (before, after)) : text = before ++ '@' :: after := by
  induction text generalizing before with
  | nil => cases split
  | cons c rest hypothesis =>
      rw [splitAtSign] at split
      cases later : splitAtSign rest with
      | some parts =>
          rw [later] at split
          obtain ⟨rfl, rfl⟩ := Prod.mk.inj (Option.some.inj split)
          rw [hypothesis later, List.cons_append]
      | none =>
          rw [later] at split
          simp only [Option.ite_none_right_eq_some, Option.some.injEq, Prod.mk.injEq] at split
          obtain ⟨rfl, rfl, rfl⟩ := split
          rfl

/-- Only an at sign that ends the text asks for a fragment. -/
theorem checkUnknown_fragment (other : text ≠ "//@".toList) (hasFragment : Bool) :
    checkUnknown hasFragment text = checkUnknown false text := by
  unfold checkUnknown
  split
  · rename_i rest
    by_cases shorter : (rest.takeWhile fun c => c != '/' && c != '?').length < rest.length
    · simp only [shorter, decide_true, Bool.or_true]
    · have whole : (rest.takeWhile fun c => c != '/' && c != '?') = rest :=
        (List.takeWhile_prefix _).eq_of_length_le (Nat.le_of_not_lt shorter)
      cases found : splitAtSign rest with
      | none => simp only [whole, found, Nat.lt_irrefl, decide_false]; rfl
      | some parts =>
          obtain ⟨before, after⟩ := parts
          have occupied : (some before == some [] && after.isEmpty) = false := by
            rw [Bool.eq_false_iff]
            intro bare
            simp only [Bool.and_eq_true, beq_iff_eq, Option.some.injEq, List.isEmpty_iff] at bare
            obtain ⟨rfl, rfl⟩ := bare
            exact other (congrArg (fun rest => '/' :: '/' :: rest) (splitAtSign_eq_some found))
          simp only [whole, found, occupied, Bool.false_and]
  · rfl

/-- A body leads to the same place with a fragment and without, unless it is such a text. -/
theorem fetchableBody_fragment (base : Option Url) (other : ¬∃ scheme, IsBareSign scheme text)
    (hasFragment : Bool) : fetchableBody base hasFragment text = fetchableBody base false text := by
  have read : readBody base hasFragment text = readBody base false text := by
    cases split : splitScheme text with
    | none => simp only [readBody, split]
    | some parts =>
        obtain ⟨scheme, rest⟩ := parts
        cases kind : schemeKind scheme with
        | unknown =>
            have occupied : rest ≠ "//@".toList := by
              rintro rfl
              obtain ⟨name, isName, whole, spelled⟩ := splitScheme_eq_some.1 split
              exact other ⟨scheme, name, isName, whole, spelled, schemeKind_eq_unknown.1 kind⟩
            simp only [readBody, split, kind, checkUnknown_fragment occupied hasFragment]
        | _ => simp only [readBody, split, kind]
  rw [fetchableBody, fetchableBody, read]

/-- Without a fragment the scheme is the reason to refuse such a text, and with one the host is. -/
theorem fetchableBody_bareSign (base : Option Url) {scheme : List Char}
    (bare : IsBareSign scheme text) :
    fetchableBody base false text = .error (.unsupportedScheme (String.ofList scheme)) ∧
      fetchableBody base true text = .error (.invalid .emptyHost) := by
  obtain ⟨split, kind⟩ := bare.split
  have unmarked : checkUnknown false "//@".toList = .ok false := rfl
  have marked : checkUnknown true "//@".toList = .error .emptyHost := rfl
  constructor
  · simp only [fetchableBody, readBody, split, kind, unmarked]
    rfl
  · simp only [fetchableBody, readBody, split, kind, marked]
    rfl

/-- The texts differ in their fragments. A text without a fragment counts if its ends are firm, so
that nothing is dropped from it which stays in front of a fragment. -/
inductive DifferInFragment : String → String → Prop
  | changed {text : String} (plain : '#' ∉ text.toList) (first second : String) :
      DifferInFragment (text ++ "#" ++ first) (text ++ "#" ++ second)
  | added {text : String} (plain : '#' ∉ text.toList) (firm : HasFirmEnds text.toList)
      (fragment : String) : DifferInFragment text (text ++ "#" ++ fragment)
  | dropped {text : String} (plain : '#' ∉ text.toList) (firm : HasFirmEnds text.toList)
      (fragment : String) : DifferInFragment (text ++ "#" ++ fragment) text

theorem toList_marked (text fragment : String) :
    (text ++ "#" ++ fragment).toList = text.toList ++ '#' :: fragment.toList := by
  simp

theorem readFetchable_changed (base : Option Url) {text : String} (plain : '#' ∉ text.toList)
    (first second : String) :
    readFetchable base (text ++ "#" ++ first).toList =
      readFetchable base (text ++ "#" ++ second).toList := by
  rw [toList_marked, toList_marked, readFetchable_marked base plain,
    readFetchable_marked base plain]

/-- A fragment that is added to such a text decides why it is refused, and no other one decides
anything. -/
theorem readFetchable_added (base : Option Url) {text : String} (plain : '#' ∉ text.toList)
    (firm : HasFirmEnds text.toList) (fragment : String) :
    ((¬∃ scheme, IsBareSign scheme (text.toList.filter isKeptInside)) →
      readFetchable base (text ++ "#" ++ fragment).toList = readFetchable base text.toList) ∧
    ∀ scheme, IsBareSign scheme (text.toList.filter isKeptInside) →
      readFetchable base text.toList = .error (.unsupportedScheme (String.ofList scheme)) ∧
      readFetchable base (text ++ "#" ++ fragment).toList = .error (.invalid .emptyHost) := by
  obtain ⟨alone, marked⟩ := readFetchable_firm base plain firm fragment.toList
  rw [toList_marked, alone, marked]
  exact ⟨fun other => fetchableBody_fragment base other true,
    fun scheme => fetchableBody_bareSign base⟩

/-- Where texts that differ in their fragments lead is the same, if they lead anywhere. -/
theorem DifferInFragment.sameTarget {left right : String}
    (differ : DifferInFragment left right) (base : Option Url) :
    (readFetchable base left.toList).toOption = (readFetchable base right.toList).toOption := by
  have added {text : String} (plain : '#' ∉ text.toList) (firm : HasFirmEnds text.toList)
      (fragment : String) : (readFetchable base text.toList).toOption =
        (readFetchable base (text ++ "#" ++ fragment).toList).toOption := by
    obtain ⟨same, refused⟩ := readFetchable_added base plain firm fragment
    by_cases bare : ∃ scheme, IsBareSign scheme (text.toList.filter isKeptInside)
    · obtain ⟨scheme, bare⟩ := bare
      obtain ⟨alone, marked⟩ := refused scheme bare
      rw [alone, marked]
      rfl
    · rw [same bare]
  cases differ with
  | changed plain first second => rw [readFetchable_changed base plain first second]
  | added plain firm fragment => exact added plain firm fragment
  | dropped plain firm fragment => exact (added plain firm fragment).symm

/-- A location that is only a fragment leads nowhere else. -/
theorem resolve_fragment (base : Url) (fragment : String) :
    base.resolve ("#" ++ fragment) = .ok base := by
  have whole : ("#" ++ fragment).toList = [] ++ '#' :: fragment.toList := by simp
  rw [resolve, whole, readFetchable_marked _ (by simp)]
  rfl

end FeedCache.Url
