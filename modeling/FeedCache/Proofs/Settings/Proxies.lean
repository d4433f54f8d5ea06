/-
This file says what is filled in for proxies that are not set.

Main statement: each gap is filled from the first common variable that is not blank, and nothing
that is set is replaced. Where one proxy is set for everything, the common variables for proxies do
not count, and whatever the common variables hold, no settings are refused for it.
-/
import Mathlib.Data.List.Find
import FeedCache.Http.Proxy
import FeedCache.Proofs.Settings.Loading
import FeedCache.Proofs.Settings.Rules

namespace FeedCache.Settings

section

variable {environment other : Environment} {file : Option SettingsFile} {names : List String}
  {name text : String}

/-- The variable holds a text that is not blank; the blanks around it do not belong to the text. -/
def IsFilledWith (environment : Environment) (name text : String) : Prop :=
  ∃ value, environment.value? name = some value ∧ Text.trimmed value = text ∧ text ≠ ""

/-- The text is that of the first variable that holds one. -/
def IsFirstText (environment : Environment) (names : List String) : Option String → Prop
  | some text => ∃ before name after, names = before ++ name :: after ∧
      IsFilledWith environment name text ∧
      ∀ earlier ∈ before, ∀ another, ¬IsFilledWith environment earlier another
  | none => ∀ name ∈ names, ∀ text, ¬IsFilledWith environment name text

theorem filter_eq_some_iff :
    ((environment.value? name).map Text.trimmed).filter (fun value => !value.isEmpty) = some text ↔
      IsFilledWith environment name text := by
  simp only [Option.filter_eq_some_iff, Option.map_eq_some_iff, Bool.not_eq_true',
    String.isEmpty_eq_false_iff, IsFilledWith, ← exists_and_right, and_assoc, ne_eq]

theorem isFirstText_firstFilled (environment : Environment) (names : List String) :
    IsFirstText environment names (environment.firstFilled names) := by
  have blank {name : String} (missing : ((environment.value? name).map Text.trimmed).filter
      (fun value => !value.isEmpty) = none) (text : String) :
      ¬IsFilledWith environment name text := fun filled =>
    nomatch missing.symm.trans (filter_eq_some_iff.2 filled)
  cases first : environment.firstFilled names with
  | none => exact fun name member => blank (List.findSome?_eq_none_iff.1 first name member)
  | some text =>
      obtain ⟨before, name, after, order, filled, earlier⟩ := List.findSome?_eq_some_iff.1 first
      exact ⟨before, name, after, order, filter_eq_some_iff.1 filled,
        fun name member => blank (earlier name member)⟩

/-- The proxy that a text stands for: one for HTTP if the text names no scheme. -/
def IsProxyOf (text proxy : String) : Prop :=
  NamesScheme text ∧ proxy = text ∨ ¬NamesScheme text ∧ proxy = "http://" ++ text

theorem isProxyOf_withScheme (text : String) : IsProxyOf text (withScheme text) := by
  have named : hasScheme text.toList ↔ NamesScheme text := hasScheme_iff text.toList
  rw [withScheme, IsProxyOf]
  split
  · exact .inl ⟨named.1 ‹_›, rfl⟩
  · exact .inr ⟨mt named.2 ‹_›, rfl⟩

theorem IsProxyOf.namesScheme {proxy : String} (stands : IsProxyOf text proxy) :
    NamesScheme proxy := by
  obtain ⟨named, rfl⟩ | ⟨-, rfl⟩ := stands
  · exact named
  · exact ⟨"http".toList, text.toList, String.toList_append⟩

/-- What is set stays; a gap is filled with what the first filled variable stands for, if there is
such a variable. -/
def FillsGap (environment : Environment) (names : List String) (stands : String → String → Prop)
    (layered filled : Option String) : Prop :=
  match layered with
  | some value => filled = some value
  | none => ∃ common, IsFirstText environment names common ∧ Option.Rel stands common filled

theorem fillsGap_or {stands : String → String → Prop} {taken : String → String}
    (correct : ∀ text, stands text (taken text)) (layered : Option String) :
    FillsGap environment names stands layered
      (layered.or ((environment.firstFilled names).map taken)) := by
  cases layered with
  | some value => exact rfl
  | none =>
      refine ⟨_, isFirstText_firstFilled environment names, ?_⟩
      cases environment.firstFilled names with
      | none => exact .none
      | some text => exact .some (correct text)

/-- The settings are those from the layers with the gaps filled. -/
structure GapsFilled (environment : Environment) (layered settings : Settings) : Prop where
  /-- With one proxy for everything there are no gaps for the others. -/
  single : layered.proxy.isSome →
    settings.httpProxy = layered.httpProxy ∧ settings.httpsProxy = layered.httpsProxy
  http : layered.proxy = none →
    FillsGap environment ["http_proxy", "HTTP_PROXY"] IsProxyOf layered.httpProxy settings.httpProxy
  https : layered.proxy = none →
    FillsGap environment ["https_proxy", "HTTPS_PROXY"] IsProxyOf layered.httpsProxy
      settings.httpsProxy
  direct : FillsGap environment ["no_proxy", "NO_PROXY"] Eq layered.noProxy settings.noProxy
  others : ∀ field ∉ [Field.httpProxy, .httpsProxy, .noProxy],
    settings.content? field = layered.content? field

theorem gapsFilled (environment : Environment) (layered : Settings) :
    GapsFilled environment layered (withCommonProxies environment layered) := by
  constructor
  case single =>
    intro single
    simp [withCommonProxies, single]
  case http =>
    intro none
    simpa [withCommonProxies, none] using fillsGap_or isProxyOf_withScheme layered.httpProxy
  case https =>
    intro none
    simpa [withCommonProxies, none] using fillsGap_or isProxyOf_withScheme layered.httpsProxy
  case direct =>
    simpa [withCommonProxies] using
      @fillsGap_or environment ["no_proxy", "NO_PROXY"] Eq id (fun _ => rfl) layered.noProxy
  case others =>
    intro field apart
    cases field <;> first | rfl | simp at apart

/-- What fills a gap names a scheme, so that the rule for proxies is kept or broken as before. -/
theorem violation?_withCommonProxies (environment : Environment) (settings : Settings) :
    (withCommonProxies environment settings).violation? = settings.violation? := by
  have named (text : String) : hasScheme (withScheme text).toList :=
    (hasScheme_iff _).2 (isProxyOf_withScheme text).namesScheme
  have filled (names : List String) (single : Bool) (layered : Option String) :
      lacksScheme (if single then layered
          else layered.or ((environment.firstFilled names).map withScheme)) =
        lacksScheme layered := by
    cases single with
    | true => rfl
    | false => cases layered <;> simp [lacksScheme, Option.any_map, named]
  have passed : ∀ rule ∈ rules,
      rule.2 (withCommonProxies environment settings) = rule.2 settings := by
    simp [rules, withCommonProxies, filled]
  rw [violation?, violation?, List.find?_congr passed]

/-- Settings from the layers are refused for what the layers hold, not for what fills the gaps. -/
theorem ofSources_of_layered {layered : Settings}
    (taken : extract (find? environment file) = .ok layered) :
    ofSources environment file = match layered.violation? with
      | some violation => .error (.invalid violation)
      | none => .ok (withCommonProxies environment layered) := by
  have checked := ofSources_of_extracted taken
  rw [violation?_withCommonProxies] at checked
  exact checked

theorem ofSources_eq_error {fault : LoadFault} :
    ofSources environment file = .error fault ↔
      (∃ complaint, extract (find? environment file) = .error complaint ∧
        .misfit complaint = fault) ∨
      ∃ layered violation, extract (find? environment file) = .ok layered ∧
        layered.violation? = some violation ∧ .invalid violation = fault := by
  cases taken : extract (find? environment file) with
  | error complaint => simp [ofSources_of_misfit taken]
  | ok layered =>
      rw [ofSources_of_layered taken]
      cases violated : layered.violation? <;> simp [violated]

/-- Only the named variables are different. -/
def SameApartFrom (names : List String) (environment other : Environment) : Prop :=
  environment.filter (fun entry => !names.contains entry.1) =
    other.filter fun entry => !names.contains entry.1

instance : Decidable (SameApartFrom names environment other) :=
  inferInstanceAs (Decidable (_ = _))

theorem SameApartFrom.value?_eq (same : SameApartFrom names environment other)
    (kept : name ∉ names) : environment.value? name = other.value? name := by
  have kept : (!names.contains name) = true := by simpa using kept
  rw [Environment.value?, Environment.value?,
    ← lookup_filter (fun name => !names.contains name) environment kept, same,
    lookup_filter (fun name => !names.contains name) other kept]

theorem SameApartFrom.mono {more : List String} (same : SameApartFrom names environment other)
    (fewer : names ⊆ more) : SameApartFrom more environment other := by
  have refined (entries : Environment) :
      (entries.filter fun entry => !names.contains entry.1).filter
          (fun entry => !more.contains entry.1) =
        entries.filter fun entry => !more.contains entry.1 := by
    rw [List.filter_filter]
    refine List.filter_congr fun entry _ => ?_
    have kept : entry.1 ∉ more → entry.1 ∉ names := mt (@fewer entry.1)
    by_cases member : entry.1 ∈ more <;> simp [member, kept]
  rw [SameApartFrom, ← refined, same, refined]

theorem SameApartFrom.settingsFile_eq (same : SameApartFrom commonNames environment other)
    (disk : Disk) (start : Place) :
    settingsFile environment disk start = settingsFile other disk start := by
  rw [settingsFile, settingsFile, same.value?_eq (by decide)]

/-- No common variable leads to a field. -/
theorem SameApartFrom.find?_eq (same : SameApartFrom commonNames environment other)
    (file : Option SettingsFile) : find? environment file = find? other file := by
  funext field
  have passed : ∀ entry : String × String, (!commonNames.contains entry.1) = false →
      field.isReachedBy entry.1 = false :=
    fun entry dropped => field.commonNames_unreached entry.1 (by simpa using dropped)
  rw [find?_eq_highest?, find?_eq_highest?, Field.highest?, Field.highest?,
    ← Field.variables_filter environment passed, same, Field.variables_filter other passed]

/-- The common variables, those for the hosts that are reached directly apart. -/
def proxyNames : List String := ["http_proxy", "HTTP_PROXY", "https_proxy", "HTTPS_PROXY"]

/-- One proxy for everything is the only variable for proxies that counts. -/
theorem SameApartFrom.withCommonProxies_eq {layered : Settings}
    (same : SameApartFrom proxyNames environment other) (single : layered.proxy.isSome) :
    withCommonProxies environment layered = withCommonProxies other layered := by
  have kept : environment.firstFilled ["no_proxy", "NO_PROXY"] =
      other.firstFilled ["no_proxy", "NO_PROXY"] := by
    simp only [Environment.firstFilled, List.findSome?_cons, List.findSome?_nil,
      same.value?_eq (show "no_proxy" ∉ proxyNames by decide),
      same.value?_eq (show "NO_PROXY" ∉ proxyNames by decide)]
  simp only [withCommonProxies, single, if_true, kept]

/-- Whatever the common variables hold, no load fails for it. -/
theorem SameApartFrom.load_error (same : SameApartFrom commonNames environment other) (disk : Disk)
    (start : Place) (fault : LoadFault) :
    load environment disk start = .error fault ↔ load other disk start = .error fault := by
  rw [load, load, same.settingsFile_eq]
  cases settingsFile other disk start with
  | error unread => exact Iff.rfl
  | ok file =>
      change ofSources environment file = .error fault ↔ ofSources other file = .error fault
      rw [ofSources_eq_error, ofSources_eq_error, same.find?_eq]

/-- With one proxy for everything the common variables for proxies do not count. -/
theorem SameApartFrom.ofSources_eq {layered : Settings}
    (same : SameApartFrom proxyNames environment other)
    (taken : extract (find? environment file) = .ok layered) (single : layered.proxy.isSome) :
    ofSources environment file = ofSources other file := by
  have retaken : extract (find? other file) = .ok layered :=
    (same.mono (by decide)).find?_eq file ▸ taken
  rw [ofSources_of_layered taken, ofSources_of_layered retaken, same.withCommonProxies_eq single]

end

/-- How settings from the layers become those that are loaded. -/
structure Completed (environment : Environment) (disk : Disk) (start : Place) (layered : Settings) :
    Prop where
  /-- The gaps are filled, and the settings are refused exactly if those of the layers would be. -/
  filled : ∃ settings, GapsFilled environment layered settings ∧
    load environment disk start = match layered.violation? with
      | some violation => .error (.invalid violation)
      | none => .ok settings
  /-- One proxy for everything is the only one, whatever the common variables for proxies hold. -/
  single : ∀ text other, layered.proxy = some text → SameApartFrom proxyNames environment other →
    load other disk start = load environment disk start ∧
    ∀ settings, load other disk start = .ok settings →
      Http.Proxies.ofSettings settings = match Http.Proxy.read? text with
        | some proxy => .ok { all := some proxy }
        | none => .error text

theorem ofSettings_single {settings : Settings} {text : String}
    (single : settings.proxy = some text) :
    Http.Proxies.ofSettings settings = match Http.Proxy.read? text with
      | some proxy => .ok { all := some proxy }
      | none => .error text := by
  rw [Http.Proxies.ofSettings, single, Http.readProxy]
  cases Http.Proxy.read? text <;> rfl

/-- Common variables fill the gaps that the layers leave, and nothing else comes from them. -/
theorem load_fillsGaps (environment : Environment) (disk : Disk) (start : Place) :
    (∀ file layered, settingsFile environment disk start = .ok file →
      extract (find? environment file) = .ok layered →
      Completed environment disk start layered) ∧
    ∀ other fault, SameApartFrom commonNames environment other →
      (load environment disk start = .error fault ↔ load other disk start = .error fault) := by
  refine ⟨fun file layered read taken => ?_,
    fun other fault same => same.load_error disk start fault⟩
  constructor
  case filled =>
    refine ⟨_, gapsFilled environment layered, ?_⟩
    rw [load_eq_ofSources read, ofSources_of_layered taken]
  case single =>
    intro text other single same
    have reread : settingsFile other disk start = .ok file :=
      (same.mono (by decide)).settingsFile_eq disk start ▸ read
    have unchanged : load other disk start = load environment disk start := by
      rw [load_eq_ofSources reread, load_eq_ofSources read,
        same.ofSources_eq taken (Option.isSome_of_eq_some single)]
    refine ⟨unchanged, fun settings loaded => ?_⟩
    rw [unchanged, load_eq_ofSources read] at loaded
    obtain ⟨extracted, again, rfl, -⟩ := ofSources_eq_ok.1 loaded
    cases taken.symm.trans again
    exact ofSettings_single single

/-- A proxy for HTTPS is set; of the variables for HTTP the first one is blank. -/
def gappyEnvironment : Environment :=
  [("HTTP_PROXY", " proxy:8080 "), ("https_proxy", "other:1"), ("http_proxy", " \t"),
    ("FEEDGRAB_HTTPS_PROXY", "socks5://secure:1080")]

/-- One proxy is set for everything. -/
def singleEnvironment : Environment := [("FEEDGRAB_PROXY", "http://proxy:3128")]

/-- The second variable fills the gap and the proxy that is set stays. With one proxy for everything
a further variable changes nothing, and too short a time is refused with or without variables. -/
theorem load_fillsGaps_sample :
    (∃ layered settings, Completed gappyEnvironment ⟨[]⟩ [] layered ∧
      load gappyEnvironment ⟨[]⟩ [] = .ok settings ∧
      settings.httpProxy = some "http://proxy:8080" ∧
      settings.httpsProxy = some "socks5://secure:1080") ∧
    load (("http_proxy", "plain:3128") :: singleEnvironment) ⟨[]⟩ [] =
      load singleEnvironment ⟨[]⟩ [] ∧
    load [("FEEDGRAB_TIMEOUT_MS", "5"), ("https_proxy", "//")] ⟨[]⟩ [] =
      .error (.invalid .timeoutTooShort) := by
  refine ⟨?_, ?_, ?_⟩
  · have taken : extract (find? gappyEnvironment none) =
        .ok { httpsProxy := some "socks5://secure:1080" } := eq_ok_of_toOption (by decide +kernel)
    have loaded : load gappyEnvironment ⟨[]⟩ [] =
        .ok { httpProxy := some "http://proxy:8080", httpsProxy := some "socks5://secure:1080" } :=
      eq_ok_of_toOption (by decide +kernel)
    exact ⟨_, _, (load_fillsGaps gappyEnvironment ⟨[]⟩ []).1 none _ rfl taken, loaded, rfl, rfl⟩
  · have taken : extract (find? singleEnvironment none) =
        .ok { proxy := some "http://proxy:3128" } := eq_ok_of_toOption (by decide +kernel)
    have completed := (load_fillsGaps singleEnvironment ⟨[]⟩ []).1 none _ rfl taken
    exact (completed.single _ _ rfl (by decide)).1
  · have refused : load [("FEEDGRAB_TIMEOUT_MS", "5")] ⟨[]⟩ [] =
        .error (.invalid .timeoutTooShort) := by
      rw [load_eq_ofSources rfl]
      exact ofSources_eq_error.2 (.inr ⟨{ timeout := 5 }, .timeoutTooShort,
        eq_ok_of_toOption (by decide +kernel), rfl, rfl⟩)
    exact ((load_fillsGaps _ ⟨[]⟩ []).2 _ _ (by decide)).1 refused

end FeedCache.Settings
