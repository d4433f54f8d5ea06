/-
This file says to which server a redirect leads.

Main statement: the form of a location decides it. A location that starts with a scheme of the web
and two slashes leads where it leads alone, one that starts with two slashes leads where it leads
behind the scheme of the base, and one with neither stays on the server of the base.
-/
import FeedCache.Proofs.Url.RoundTrip

namespace FeedCache.Url

/-! The parts of a location. -/

/-- The name of a scheme is a letter with letters, digits and marks behind it. -/
def IsSchemeName (name : List Char) : Prop :=
  ∃ first rest, name = first :: rest ∧ first.isAlpha ∧ ∀ c ∈ rest, isSchemeCharacter c

/-- A scheme is split off where its name stands in front of a colon. -/
theorem splitScheme_eq_some {text scheme rest : List Char} :
    splitScheme text = some (scheme, rest) ↔
      ∃ name, IsSchemeName name ∧ text = name ++ ':' :: rest ∧ scheme = name.map Char.toLower := by
  constructor
  · intro split
    cases text with
    | nil => cases split
    | cons first others =>
        rw [splitScheme] at split
        split at split
        · rename_i letter
          split at split
          · rename_i after stop
            cases split
            refine ⟨first :: others.takeWhile isSchemeCharacter,
              ⟨first, _, rfl, letter, List.all_eq_true.1 List.all_takeWhile⟩, ?_, rfl⟩
            rw [List.cons_append, ← stop, List.takeWhile_append_dropWhile]
          · cases split
        · cases split
  · rintro ⟨name, ⟨first, others, rfl, letter, inside⟩, rfl, rfl⟩
    have colon : ∀ c ∈ (':' :: rest).head?, isSchemeCharacter c = false := by
      rintro c head
      obtain rfl := Option.some.inj head
      decide
    obtain ⟨before, after⟩ := Text.takeWhile_append_stop inside (':' :: rest) colon
    rw [List.cons_append, splitScheme, if_pos letter, before, after]
    rfl

/-- A control or a space is dropped at the ends of a reference. -/
def isDroppedAtEnds (c : Char) : Bool := c.toNat ≤ 0x20

/-- All but tabs and line ends is kept inside a reference. -/
def isKeptInside (c : Char) : Bool := c != '\t' && c != '\n' && c != '\r'

/-- A location without the blanks around it and the controls and spaces in front. -/
def unindented (location : String) : List Char :=
  (Text.trim location.toList).dropWhile isDroppedAtEnds

/-- The form of a location has no tabs and line ends either. -/
def form (location : String) : List Char := (unindented location).filter isKeptInside

/-- What is read of a location, its fragment apart. -/
def bodyOf (text : List Char) : List Char := (clean (Text.trim text)).takeWhile (· != '#')

/-- What is read of a location starts as its form does. -/
theorem bodyOf_of_form {location : String} {front rest : List Char}
    (same : form location = front ++ rest) (visible : ∀ c ∈ front, 0x20 < c.toNat ∧ c ≠ '#') :
    ∃ behind, bodyOf location.toList = front ++ behind ∧ behind <+: rest := by
  obtain ⟨tail, cut, dropped⟩ : ∃ tail, form location = clean (Text.trim location.toList) ++ tail ∧
      ∀ c ∈ tail, isDroppedAtEnds c := by
    refine ⟨((unindented location).rtakeWhile isDroppedAtEnds).filter isKeptInside, ?_, ?_⟩
    · have parts := List.rdropWhile_append_rtakeWhile (p := isDroppedAtEnds)
        (l := unindented location)
      rw [form, ← parts, List.filter_append, parts]
      rfl
    · exact fun c member => List.mem_rtakeWhile_imp (List.mem_of_mem_filter member)
  -- The front is visible, so that it is not dropped at the end.
  obtain ⟨kept, cleaned, parts⟩ : ∃ kept, clean (Text.trim location.toList) = front ++ kept ∧
      kept <+: rest := by
    rcases List.append_eq_append_iff.1 (cut.symm.trans same) with
      ⟨lost, whole, later⟩ | ⟨kept, whole, later⟩
    · have nothing : lost = [] := by
        refine List.eq_nil_iff_forall_not_mem.2 fun c member => ?_
        have small : c.toNat ≤ 0x20 := of_decide_eq_true
          (dropped c (later ▸ List.mem_append_left rest member))
        have large := (visible c (whole ▸ List.mem_append_right _ member)).1
        omega
      rw [nothing, List.append_nil] at whole
      exact ⟨[], by rw [whole, List.append_nil], List.nil_prefix⟩
    · exact ⟨kept, whole, tail, later.symm⟩
  have unmarked : ∀ c ∈ front, (c != '#') = true := fun c member =>
    bne_iff_ne.2 (visible c member).2
  refine ⟨kept.takeWhile (· != '#'), ?_, (List.takeWhile_prefix _).trans parts⟩
  rw [bodyOf, cleaned, List.takeWhile_append_of_pos unmarked]

theorem bodyOf_prefix (location : String) : bodyOf location.toList <+: form location := by
  obtain ⟨behind, cut, parts⟩ := @bodyOf_of_form location [] _ rfl (by simp)
  rw [cut]
  exact parts

/-- Where a body leads, if it names something to fetch. -/
def fetchableBody (base : Option Url) (hasFragment : Bool) (body : List Char) :
    Except Rejection Url :=
  ((readBody base hasFragment body).mapError .invalid).bind Target.fetchable

/-- A text that is not blank leads where its body does. -/
theorem readFetchable_eq {base : Option Url} {text : List Char} (filled : Text.trim text ≠ []) :
    readFetchable base text =
      fetchableBody base ((clean (Text.trim text)).contains '#') (bodyOf text) := by
  have shown : ¬(Text.trim text).isEmpty := fun empty => filled (List.isEmpty_iff.1 empty)
  simp only [readFetchable, if_neg shown, readReference, fetchableBody, bodyOf]
  split <;> rename_i read <;> rw [read] <;> rfl

/-- A body that names a URL of the web leads there, with a fragment behind it or without. -/
theorem fetchableBody_web {base : Option Url} {hasFragment : Bool} {body : List Char}
    {url : Except Fault Url} (read : readBody base hasFragment body = url.map .web) :
    fetchableBody base hasFragment body = url.mapError .invalid := by
  rw [fetchableBody, read]
  cases url <;> rfl

/-- A text with a character that is not blank is not empty when it is trimmed. -/
theorem trim_ne_nil {text : List Char} (filled : ∃ c ∈ text, Text.isBlank c = false) :
    Text.trim text ≠ [] := by
  intro empty
  obtain ⟨c, member, kept⟩ := filled
  obtain ⟨front, back, whole, leading, trailing⟩ := Text.exists_strip Text.isBlank text
  rw [show Text.strip Text.isBlank text = [] from empty, List.append_nil] at whole
  rw [whole] at member
  have blank := (List.mem_append.1 member).elim (leading c) (trailing c)
  simp [kept] at blank

/-! The three forms. -/

/-- The text starts with a scheme of the web and two slashes, in capitals or not. -/
def StartsOnWeb (text : List Char) : Prop :=
  ∃ front rest, text = front ++ rest ∧
    (front.map Char.toLower = "http://".toList ∨ front.map Char.toLower = "https://".toList)

/-- The text starts with two slashes of either kind. -/
def StartsWithSlashes (text : List Char) : Prop :=
  ∃ first second rest, text = first :: second :: rest ∧ isSlash first ∧ isSlash second

/-- The text starts with the name of a scheme and a colon. -/
def StartsWithScheme (text : List Char) : Prop :=
  ∃ name rest, IsSchemeName name ∧ text = name ++ ':' :: rest

/-- The letters of a scheme of the web are letters in capitals too. -/
theorem isAlpha_of_toLower {c : Char} (letter : c.toLower ∈ "https".toList) :
    c.isAlpha ∧ 0x20 < c.toNat ∧ c ≠ '#' := by
  have letters : ∀ mark ∈ "https".toList, mark.toNat < 128 := Text.forall_marks (by decide)
  have small : c.toNat < 128 := by
    have below := letters _ letter
    rcases @toLower_eq c _ rfl with same | ⟨sum, -⟩
    · rwa [← same] at below
    · omega
  exact Text.forall_ascii
    (fun c => c.toLower ∈ "https".toList → c.isAlpha ∧ 0x20 < c.toNat ∧ c ≠ '#')
    (by decide +kernel) small letter

theorem eq_of_map_toLower {text marks : List Char} (lower : text.map Char.toLower = marks)
    (noLetters : ∀ mark ∈ marks, mark.toNat < 97) : text = marks := by
  have same : ∀ c ∈ text, c.toLower = c := fun c member =>
    (toLower_eq_mark rfl (noLetters _ (lower ▸ List.mem_map_of_mem member))).symm
  rw [← lower, List.map_congr_left same, List.map_id']

/-- The name of the scheme stands in front of the colon and the slashes. -/
theorem StartsOnWeb.parts {text : List Char} (starts : StartsOnWeb text) :
    ∃ (scheme : Scheme) (name rest : List Char), IsSchemeName name ∧
      name.map Char.toLower = scheme.toList ∧ text = (name ++ "://".toList) ++ rest ∧
      ∀ c ∈ name ++ "://".toList, 0x20 < c.toNat ∧ c ≠ '#' := by
  obtain ⟨front, rest, whole, lower⟩ := starts
  obtain ⟨scheme, lower⟩ : ∃ scheme : Scheme,
      front.map Char.toLower = scheme.toList ++ "://".toList :=
    lower.elim (fun http => ⟨.http, http⟩) (fun https => ⟨.https, https⟩)
  obtain ⟨name, marks, rfl, spelled, slashes⟩ := List.map_eq_append_iff.1 lower
  obtain rfl := eq_of_map_toLower slashes (Text.forall_marks (by decide))
  have letters : ∀ c ∈ name, c.isAlpha ∧ 0x20 < c.toNat ∧ c ≠ '#' := by
    have known : ∀ mark ∈ scheme.toList, mark ∈ "https".toList := by
      cases scheme <;> exact Text.forall_marks (by decide)
    exact fun c member => isAlpha_of_toLower (known _ (spelled ▸ List.mem_map_of_mem member))
  refine ⟨scheme, name, rest, ?_, spelled, whole, ?_⟩
  · cases name with
    | nil => cases scheme <;> cases spelled
    | cons first others =>
        refine ⟨first, others, rfl, (letters first List.mem_cons_self).1, fun c member => ?_⟩
        simp [isSchemeCharacter, Char.isAlphanum, (letters c (List.mem_cons_of_mem first member)).1]
  · have marks : ∀ mark ∈ "://".toList, 0x20 < mark.toNat ∧ mark ≠ '#' :=
      Text.forall_marks (by decide)
    exact List.forall_mem_append.2 ⟨fun c member => (letters c member).2, marks⟩

/-- Behind a scheme of the web and two slashes nothing is taken from a base. -/
theorem readBody_onWeb {scheme : Scheme} {name rest : List Char} (isName : IsSchemeName name)
    (spelled : name.map Char.toLower = scheme.toList) (base : Option Url) (hasFragment : Bool) :
    readBody base hasFragment (name ++ "://".toList ++ rest) =
      (readWeb scheme (rest.dropWhile isSlash)).map .web := by
  have cut : splitScheme (name ++ "://".toList ++ rest) =
      some (scheme.toList, '/' :: '/' :: rest) :=
    splitScheme_eq_some.2 ⟨name, isName, by simp, spelled.symm⟩
  have slashes : ('/' :: '/' :: rest).dropWhile isSlash = rest.dropWhile isSlash := rfl
  have shorter := (List.dropWhile_sublist isSlash (l := rest)).length_le
  have apart (base : Option Url) : base.filter (fun base =>
      base.scheme = scheme ∧
        ('/' :: '/' :: rest).length < (rest.dropWhile isSlash).length + 2) = none := by
    simp only [Option.filter_eq_none_iff, List.length_cons, decide_eq_true_eq, not_and]
    omega
  simp only [readBody, cut, schemeKind_toList, slashes, apart]

theorem isSchemeName_toList (scheme : Scheme) :
    IsSchemeName scheme.toList ∧ scheme.toList.map Char.toLower = scheme.toList := by
  cases scheme with
  | http => exact ⟨⟨'h', "ttp".toList, rfl, by decide, Text.forall_marks (by decide)⟩, rfl⟩
  | https => exact ⟨⟨'h', "ttps".toList, rfl, by decide, Text.forall_marks (by decide)⟩, rfl⟩

/-- A body with two slashes is read behind the scheme of the base. -/
theorem readBody_slashes (base : Url) {rest : List Char}
    (stop : ∀ c ∈ rest.head?, isSlash c = false) (hasFragment : Bool) :
    readBody (some base) hasFragment ('/' :: '/' :: rest) =
      (readWeb base.scheme rest).map .web ∧
    readBody none hasFragment (base.scheme.toList ++ "://".toList ++ rest) =
      (readWeb base.scheme rest).map .web := by
  obtain ⟨isName, spelled⟩ := isSchemeName_toList base.scheme
  have unslashed : rest.dropWhile isSlash = rest :=
    (@Text.takeWhile_append_stop isSlash [] (by simp) rest stop).2
  have unnamed : splitScheme ('/' :: '/' :: rest) = none := rfl
  constructor
  · simp only [readBody, unnamed, readRelative]
  · rw [readBody_onWeb isName spelled, unslashed]

/-- The URL names the server of the base, in the same way and for the same user. -/
structure OnServerOf (base url : Url) : Prop where
  scheme : url.scheme = base.scheme
  username : url.username = base.username
  password : url.password = base.password
  host : url.host = base.host
  port : url.port = base.port

/-- Whatever does not start with two slashes is a way from the base on its server. -/
theorem readRelative_onServer (base : Url) {body : List Char}
    (noSlashes : ¬StartsWithSlashes body) :
    ∃ url, readRelative base body = .ok url ∧ OnServerOf base url := by
  unfold readRelative
  split
  · exact ⟨base, rfl, rfl, rfl, rfl, rfl, rfl⟩
  · exact ⟨_, rfl, rfl, rfl, rfl, rfl, rfl⟩
  · exact absurd ⟨'/', '/', _, rfl, rfl, rfl⟩ noSlashes
  · rename_i first rest noQuery other
    split
    · rename_i slash
      split
      · rename_i second
        cases rest with
        | nil => cases second
        | cons c rest => exact absurd ⟨first, c, rest, rfl, slash, second⟩ noSlashes
      · exact ⟨_, rfl, rfl, rfl, rfl, rfl, rfl⟩
    · exact ⟨_, rfl, rfl, rfl, rfl, rfl, rfl⟩

/-- A location that is put behind a scheme is read behind it. -/
theorem bodyOf_behindScheme (scheme : Scheme) (location : String) :
    bodyOf (scheme.toList ++ ':' :: unindented location) =
      scheme.toList ++ ':' :: bodyOf location.toList := by
  have ends : (unindented location).rdropWhile Text.isBlank = unindented location := by
    refine List.rdropWhile_eq_self_iff.2 fun filled => ?_
    have behind : unindented location <:+ Text.trim location.toList := List.dropWhile_suffix _
    rw [behind.getLast filled]
    exact List.rdropWhile_last_not Text.isBlank _ _
  have visible : ∀ c ∈ scheme.toList, Text.isBlank c = false ∧ isDroppedAtEnds c = false ∧
      isKeptInside c = true ∧ (c != '#') = true := by
    cases scheme <;> exact Text.forall_marks (by decide)
  have front (test : Char → Bool) (kept : ∀ c ∈ scheme.toList, test c = false) :
      scheme.toList.dropWhile test = scheme.toList := by
    cases scheme <;> exact List.dropWhile_cons_of_neg (by simp [kept 'h' (by decide)])
  have trimmed : Text.trim (scheme.toList ++ ':' :: unindented location) =
      scheme.toList ++ ':' :: unindented location := by
    rw [Text.trim, Text.strip_append_cons (by decide), ends,
      front _ fun c member => (visible c member).1]
  have cleaned : clean (scheme.toList ++ ':' :: unindented location) =
      scheme.toList ++ ':' :: clean (Text.trim location.toList) := by
    show (Text.strip isDroppedAtEnds _).filter isKeptInside = _
    rw [Text.strip_append_cons (by decide), front _ fun c member => (visible c member).2.1,
      List.filter_append, List.filter_cons_of_pos (by decide),
      List.filter_eq_self.2 fun c member => (visible c member).2.2.1]
    rfl
  rw [bodyOf, trimmed, cleaned,
    List.takeWhile_append_of_pos fun c member => (visible c member).2.2.2,
    List.takeWhile_cons_of_pos (by decide)]
  rfl

/-- The form of a location decides to which server it leads: the one that it names itself, the one
that it names behind the scheme of the base, or the one of the base. -/
theorem resolve_byForm (base : Url) (location : String)
    (filled : ∃ c ∈ location.toList, Text.isBlank c = false) :
    (StartsOnWeb (form location) → base.resolve location = parse location) ∧
    (∀ c rest, form location = '/' :: '/' :: c :: rest → isSlash c = false →
      base.resolve location =
        parse (String.ofList (base.scheme.toList ++ ':' :: unindented location))) ∧
    (¬StartsWithScheme (form location) → ¬StartsWithSlashes (form location) →
      ∃ url, base.resolve location = .ok url ∧ OnServerOf base url) := by
  have shown := trim_ne_nil filled
  refine ⟨fun starts => ?_, fun c rest same stop => ?_, fun noScheme noSlashes => ?_⟩
  · obtain ⟨scheme, name, rest, isName, spelled, whole, visible⟩ := starts.parts
    obtain ⟨behind, read, -⟩ := bodyOf_of_form whole visible
    rw [resolve, parse, readFetchable_eq shown, readFetchable_eq shown, read,
      fetchableBody_web (readBody_onWeb isName spelled _ _),
      fetchableBody_web (readBody_onWeb isName spelled _ _)]
  · have slashes : ∀ c ∈ ['/', '/'], 0x20 < c.toNat ∧ c ≠ '#' := Text.forall_marks (by decide)
    obtain ⟨behind, read, front⟩ := @bodyOf_of_form location ['/', '/'] (c :: rest) same slashes
    have next : ∀ d ∈ behind.head?, isSlash d = false := by
      rintro d head
      obtain ⟨others, rfl⟩ := List.head?_eq_some_iff.1 head
      rwa [(List.cons_prefix_cons.1 front).1]
    replace read : bodyOf location.toList = '/' :: '/' :: behind := read
    have both := readBody_slashes base next
    have named : Text.trim (base.scheme.toList ++ ':' :: unindented location) ≠ [] :=
      trim_ne_nil ⟨':', by simp, by decide⟩
    have moved : base.scheme.toList ++ ':' :: '/' :: '/' :: behind =
        base.scheme.toList ++ "://".toList ++ behind := by simp
    rw [resolve, parse, String.toList_ofList, readFetchable_eq shown, readFetchable_eq named,
      bodyOf_behindScheme, read, moved, fetchableBody_web (both _).1,
      fetchableBody_web (both _).2]
  · have front := bodyOf_prefix location
    have unnamed : splitScheme (bodyOf location.toList) = none := by
      rw [Option.eq_none_iff_forall_ne_some]
      rintro ⟨scheme, rest⟩ split
      obtain ⟨name, isName, whole, -⟩ := splitScheme_eq_some.1 split
      obtain ⟨tail, same⟩ := front
      exact noScheme ⟨name, rest ++ tail, isName, by rw [← same, whole]; simp⟩
    have noSlashes : ¬StartsWithSlashes (bodyOf location.toList) := by
      rintro ⟨first, second, rest, whole, slashes⟩
      obtain ⟨tail, same⟩ := front
      exact noSlashes ⟨first, second, rest ++ tail, by rw [← same, whole]; rfl, slashes⟩
    obtain ⟨url, read, onServer⟩ := readRelative_onServer base noSlashes
    have found (hasFragment : Bool) : readBody (some base) hasFragment (bodyOf location.toList) =
        Except.map .web (.ok url) := by
      simp only [readBody, unnamed, read]
    refine ⟨url, ?_, onServer⟩
    rw [resolve, readFetchable_eq shown, fetchableBody_web (found _)]
    rfl

/-- A base with a user, and a location of each form: a control stands in front of the first one, a
tab between the slashes of the second, and the third has a colon behind a backslash. -/
theorem resolve_byForm_sample :
    let base : Url := ⟨.https, "me".toList, some "word".toList, .name ['a'], some 81, [[]], none⟩
    let other : Url := ⟨.http, [], none, .name ['b'], none, [[]], none⟩
    (base.resolve "\x01HtTp://b" = parse "\x01HtTp://b" ∧ parse "\x01HtTp://b" = .ok other) ∧
    base.resolve "/\t/b" = parse "https:/\t/b" ∧
    ∃ url, base.resolve "\\x:y" = .ok url ∧ OnServerOf base url := by
  intro base other
  have firstForm : form "\x01HtTp://b" = "HtTp://".toList ++ "b".toList := by decide +kernel
  have secondForm : form "/\t/b" = ['/', '/', 'b'] := by decide +kernel
  have thirdForm : form "\\x:y" = ['\\', 'x', ':', 'y'] := by decide +kernel
  obtain ⟨alone, -, -⟩ := resolve_byForm base "\x01HtTp://b" ⟨'b', by decide, by decide⟩
  obtain ⟨-, behind, -⟩ := resolve_byForm base "/\t/b" ⟨'b', by decide, by decide⟩
  obtain ⟨-, -, stays⟩ := resolve_byForm base "\\x:y" ⟨'x', by decide, by decide⟩
  refine ⟨⟨alone ⟨_, _, firstForm, .inl (by decide)⟩, by decide +kernel⟩,
    behind 'b' [] secondForm rfl, stays ?_ ?_⟩
  · rw [thirdForm]
    rintro ⟨name, rest, ⟨first, others, rfl, letter, -⟩, same⟩
    obtain ⟨rfl, -⟩ := List.cons.inj same
    cases letter
  · rw [thirdForm]
    rintro ⟨first, second, rest, same, -, slash⟩
    cases same
    cases slash

end FeedCache.Url
