/-
This file says what a URL is that has been read from a text.

Main statement: each part of a URL that is reached from a text through redirects is in the form that
reading it gives.
-/
import FeedCache.Proofs.Basic
import FeedCache.Proofs.Host.Reading
import FeedCache.Proofs.Url.Path
import FeedCache.Url.Fetchable

namespace FeedCache.Url

/-- A URL as it is read: nothing in its parts is to be encoded, its host is one that can be read,
its port is not the one of its scheme, and its path has segments that are no dots. -/
structure Sound (url : Url) : Prop where
  username : ∀ c ∈ url.username, isEncodedInUserInfo c = false
  password : ∀ password, url.password = some password →
    password ≠ [] ∧ ∀ c ∈ password, isEncodedInUserInfo c = false
  host : url.host.Sound
  port : url.port ≠ some url.scheme.defaultPort
  someSegment : url.path ≠ []
  segments : ∀ segment ∈ url.path, IsSegment segment
  query : ∀ query, url.query = some query → ∀ c ∈ query, isEncodedInQuery c = false

theorem readUserInfo_username (text : List Char) :
    ∀ c ∈ (readUserInfo text).1, isEncodedInUserInfo c = false := by
  have encoded : (readUserInfo text).1 =
      percentEncode isEncodedInUserInfo (text.takeWhile (· != ':')) := by
    rw [readUserInfo]
    split <;> rfl
  rw [encoded]
  exact fun c member => percentEncode_clean isEncodedInUserInfo_marks member

theorem readUserInfo_password {text password : List Char}
    (found : (readUserInfo text).2 = some password) :
    password ≠ [] ∧ ∀ c ∈ password, isEncodedInUserInfo c = false := by
  rw [readUserInfo] at found
  split at found
  · cases found
  · rename_i filled
    obtain rfl := Option.some.inj found
    refine ⟨fun empty => filled (percentEncode_eq_nil.1 empty), fun c member => ?_⟩
    exact percentEncode_clean isEncodedInUserInfo_marks member

/-- What an authority is read to, once its parts are known. -/
theorem ofAuthority_eq (scheme : Scheme) (path : List (List Char)) (query : Option (List Char))
    {authority userInfo hostAndPort hostText portText : List Char}
    (user : (splitAtSign authority).getD ([], authority) = (userInfo, hostAndPort))
    (port : splitPort false hostAndPort = (hostText, portText)) :
    ofAuthority scheme path query authority =
      if hostText.isEmpty then .error .emptyHost
      else (Host.read hostText).bind fun host => (readPort (portText.drop 1)).map fun port =>
        { scheme, username := (readUserInfo userInfo).1, password := (readUserInfo userInfo).2
          host, path, query, port := if port = some scheme.defaultPort then none else port } := by
  rw [ofAuthority, user]
  dsimp only
  rw [port]
  dsimp only
  split
  · rfl
  · rfl

/-- A URL that is read from an authority is sound if the path and the query are. -/
theorem ofAuthority_sound {scheme : Scheme} {path : List (List Char)} {query : Option (List Char)}
    {authority : List Char} {url : Url} (someSegment : path ≠ [])
    (segments : ∀ segment ∈ path, IsSegment segment)
    (clean : ∀ text, query = some text → ∀ c ∈ text, isEncodedInQuery c = false)
    (read : ofAuthority scheme path query authority = .ok url) : url.Sound := by
  obtain ⟨⟨userInfo, hostAndPort⟩, user⟩ :
      ∃ parts, (splitAtSign authority).getD ([], authority) = parts := ⟨_, rfl⟩
  obtain ⟨⟨hostText, portText⟩, behind⟩ : ∃ parts, splitPort false hostAndPort = parts := ⟨_, rfl⟩
  rw [ofAuthority_eq scheme path query user behind] at read
  split at read
  · cases read
  · obtain ⟨host, named, read⟩ := bind_eq_ok.1 read
    obtain ⟨port, numbered, rfl⟩ := map_eq_ok.1 read
    refine ⟨readUserInfo_username _, fun _ => readUserInfo_password, Host.read_sound named, ?_,
      someSegment, segments, clean⟩
    dsimp only
    split
    · exact (Option.some_ne_none _).symm
    · assumption

theorem readQuery_clean (text : List Char) :
    ∀ query, readQuery text = some query → ∀ c ∈ query, isEncodedInQuery c = false := by
  intro query found c member
  cases text with
  | nil => cases found
  | cons first rest =>
      obtain rfl := Option.some.inj found
      exact percentEncode_clean isEncodedInQuery_marks member

theorem readWeb_sound {scheme : Scheme} {text : List Char} {url : Url}
    (read : readWeb scheme text = .ok url) : url.Sound :=
  ofAuthority_sound (readPath_ne_nil [] _) (readPath_isSegment (by simp) _) (readQuery_clean _) read

/-- A URL keeps its form when its path and query are read anew. -/
theorem Sound.withPath {base : Url} (sound : base.Sound) {directory : List (List Char)}
    (below : ∀ segment ∈ directory, IsSegment segment) (text : List Char) :
    Sound { base with
      path := (readPathAndQuery directory text).1
      query := (readPathAndQuery directory text).2 } :=
  { sound with
    someSegment := readPath_ne_nil directory _
    segments := readPath_isSegment below _
    query := readQuery_clean _ }

theorem readRelative_sound {base url : Url} {text : List Char} (sound : base.Sound)
    (read : readRelative base text = .ok url) : url.Sound := by
  have beside : ∀ segment ∈ base.path.dropLast, IsSegment segment :=
    fun segment member => sound.segments segment (List.dropLast_subset _ member)
  have root : ∀ segment ∈ ([] : List (List Char)), IsSegment segment := by simp
  unfold readRelative at read
  split at read
  · cases read
    exact sound
  · cases read
    refine { sound with query := ?_ }
    rintro query found c member
    obtain rfl := Option.some.inj found
    exact percentEncode_clean isEncodedInQuery_marks member
  · exact readWeb_sound read
  · split at read
    · split at read
      · exact readWeb_sound read
      · cases read
        exact sound.withPath root _
    · cases read
      exact sound.withPath beside _

/-- A body that names a URL of the web does so seen from the base or by its scheme. -/
theorem readBody_web {base : Option Url} {hasFragment : Bool} {body : List Char} {url : Url}
    (read : readBody base hasFragment body = .ok (.web url)) :
    (∃ seen text, base = some seen ∧ readRelative seen text = .ok url) ∨
      ∃ scheme text, readWeb scheme text = .ok url := by
  rw [readBody.eq_def] at read
  split at read
  · split at read
    · cases read
    · rename_i seen
      obtain ⟨_, relative, same⟩ := map_eq_ok.1 read
      cases same
      exact .inl ⟨seen, body, rfl, relative⟩
  · dsimp only at read
    split at read
    · split at read
      · rename_i seen found
        obtain ⟨_, relative, same⟩ := map_eq_ok.1 read
        cases same
        exact .inl ⟨seen, _, (Option.filter_eq_some_iff.1 found).1, relative⟩
      · obtain ⟨_, absolute, same⟩ := map_eq_ok.1 read
        cases same
        exact .inr ⟨_, _, absolute⟩
    · obtain ⟨_, -, other⟩ := map_eq_ok.1 read
      cases other
    · obtain ⟨_, -, other⟩ := map_eq_ok.1 read
      cases other
    · obtain ⟨_, -, other⟩ := map_eq_ok.1 read
      cases other

theorem readFetchable_sound {base : Option Url} {text : List Char} {url : Url}
    (sound : ∀ seen, base = some seen → seen.Sound) (read : readFetchable base text = .ok url) :
    url.Sound := by
  rw [readFetchable] at read
  split at read
  · cases read
  · split at read
    · rename_i target named
      cases target with
      | web url =>
          cases read
          rcases readBody_web named with ⟨seen, _, same, relative⟩ | ⟨_, _, absolute⟩
          · exact readRelative_sound (sound seen same) relative
          · exact readWeb_sound absolute
      | other => cases read
    · cases read

/-- The URLs that are reached from a text that is accepted, through any chain of redirects to
locations that are accepted. -/
inductive Reached : Url → Prop
  | parsed {text : String} {url : Url} (accepted : parse text = .ok url) : Reached url
  | redirected {base url : Url} {location : String} (reached : Reached base)
      (accepted : base.resolve location = .ok url) : Reached url

theorem Reached.sound {url : Url} (reached : Reached url) : url.Sound := by
  induction reached with
  | parsed accepted => exact readFetchable_sound (by simp) accepted
  | redirected _ accepted hypothesis =>
      exact readFetchable_sound (fun _ same => Option.some.inj same ▸ hypothesis) accepted

/-! The characters in the text of a URL. -/

/-- A visible ASCII character, other than the sign that starts a fragment. -/
def IsVisible (c : Char) : Prop := 0x21 ≤ c.toNat ∧ c.toNat ≤ 0x7E ∧ c ≠ '#'

instance (c : Char) : Decidable (IsVisible c) :=
  inferInstanceAs (Decidable (0x21 ≤ c.toNat ∧ c.toNat ≤ 0x7E ∧ c ≠ '#'))

theorem ascii_of_plain {c : Char} (plain : isControlOrForeign c = false) : c.toNat < 128 := by
  rw [isControlOrForeign, Bool.or_eq_false_iff] at plain
  have small := of_decide_eq_false plain.2
  omega

/-- What is not to be encoded in a user name or password can stand in an authority. -/
theorem isAuthorityCharacter_of_userInfo {c : Char} (plain : isEncodedInUserInfo c = false) :
    Host.isAuthorityCharacter c ∧ c ≠ ':' := by
  have path : isEncodedInPath c = false := (Bool.or_eq_false_iff.1 plain).1
  exact Text.forall_ascii
    (fun c => isEncodedInUserInfo c = false → Host.isAuthorityCharacter c ∧ c ≠ ':')
    (by decide +kernel) (ascii_of_plain (Bool.or_eq_false_iff.1 path).1) plain

theorem isVisible_of_authority {c : Char} (plain : Host.isAuthorityCharacter c) :
    IsVisible c ∧ endsAuthority c = false ∧ c ≠ '@' := by
  have ascii : c.toNat < 128 := by
    simp only [Host.isAuthorityCharacter, Bool.and_eq_true, decide_eq_true_eq] at plain
    omega
  exact Text.forall_ascii
    (fun c => Host.isAuthorityCharacter c → IsVisible c ∧ endsAuthority c = false ∧ c ≠ '@')
    (by decide +kernel) ascii plain

theorem isVisible_of_path {c : Char} (plain : isEncodedInPath c = false) :
    IsVisible c ∧ c ≠ '?' :=
  Text.forall_ascii (fun c => isEncodedInPath c = false → IsVisible c ∧ c ≠ '?')
    (by decide +kernel) (ascii_of_plain (Bool.or_eq_false_iff.1 plain).1) plain

theorem isVisible_of_query {c : Char} (plain : isEncodedInQuery c = false) : IsVisible c :=
  Text.forall_ascii (fun c => isEncodedInQuery c = false → IsVisible c)
    (by decide +kernel) (ascii_of_plain (Bool.or_eq_false_iff.1 plain).1) plain

variable {url : Url} {c : Char}

theorem Sound.mem_userInfoText (sound : url.Sound) (member : c ∈ url.userInfoText) :
    c = '@' ∨ Host.isAuthorityCharacter c := by
  have plain {c : Char} (clean : isEncodedInUserInfo c = false) :
      c = '@' ∨ Host.isAuthorityCharacter c := .inr (isAuthorityCharacter_of_userInfo clean).1
  rw [userInfoText] at member
  split at member
  · rename_i password found
    rcases List.mem_append.1 member with user | behind
    · exact plain (sound.username c user)
    · rcases List.mem_cons.1 behind with rfl | behind
      · exact .inr (by decide +kernel)
      · rcases List.mem_append.1 behind with inside | last
        · exact plain ((sound.password password found).2 c inside)
        · exact .inl (List.mem_singleton.1 last)
  · split at member
    · cases member
    · rcases List.mem_append.1 member with user | last
      · exact plain (sound.username c user)
      · exact .inl (List.mem_singleton.1 last)

theorem mem_portText (member : c ∈ url.portText) : Host.isAuthorityCharacter c := by
  have digits : ∀ value < 10, Host.isAuthorityCharacter (Nat.digitChar value) := by decide +kernel
  rw [portText] at member
  split at member
  · rcases List.mem_cons.1 member with rfl | inside
    · decide +kernel
    · rw [Nat.toString_eq_repr, Nat.toList_repr] at inside
      obtain ⟨value, small, rfl⟩ := Text.mem_toDigits (by decide) inside
      exact digits value small
  · cases member

/-- The user, the host and the port as they are written. -/
def authorityText (url : Url) : List Char := url.userInfoText ++ url.host.toList ++ url.portText

theorem toList_eq (url : Url) :
    url.toList = (url.scheme.toList ++ "://".toList) ++
      (url.authorityText ++ (pathText url.path ++ url.queryText)) := by
  simp [toList, authorityText]

/-- No character of the authority ends it. -/
theorem Sound.mem_authorityText (sound : url.Sound) (member : c ∈ url.authorityText) :
    IsVisible c ∧ endsAuthority c = false := by
  have parts : c = '@' ∨ Host.isAuthorityCharacter c := by
    rcases List.mem_append.1 member with before | port
    · rcases List.mem_append.1 before with user | host
      · exact sound.mem_userInfoText user
      · exact .inr (Host.mem_toList sound.host host)
    · exact .inr (mem_portText port)
  rcases parts with rfl | plain
  · decide
  · obtain ⟨visible, inside, -⟩ := isVisible_of_authority plain
    exact ⟨visible, inside⟩

theorem Sound.mem_pathText (sound : url.Sound) (member : c ∈ pathText url.path) :
    IsVisible c ∧ c ≠ '?' := by
  rcases Url.mem_pathText member with rfl | ⟨segment, found, inside⟩
  · decide
  · exact isVisible_of_path ((sound.segments segment found).clean c inside)

theorem Sound.mem_queryText (sound : url.Sound) (member : c ∈ url.queryText) : IsVisible c := by
  rw [queryText] at member
  split at member
  · rename_i query found
    rcases List.mem_cons.1 member with rfl | inside
    · decide
    · exact isVisible_of_query (sound.query query found c inside)
  · cases member

/-- All characters of a URL are visible. -/
theorem Sound.mem_toList (sound : url.Sound) (member : c ∈ url.toList) : IsVisible c := by
  have schemes : ∀ scheme : Scheme, ∀ mark ∈ scheme.toList ++ "://".toList, IsVisible mark := by
    intro scheme
    cases scheme <;> exact Text.forall_marks (by decide)
  rw [toList_eq] at member
  rcases List.mem_append.1 member with front | behind
  · exact schemes url.scheme c front
  · rcases List.mem_append.1 behind with authority | below
    · exact (sound.mem_authorityText authority).1
    · rcases List.mem_append.1 below with path | query
      · exact (sound.mem_pathText path).1
      · exact sound.mem_queryText query

end FeedCache.Url
