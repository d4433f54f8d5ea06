/-
This file says what each field of loaded settings is.

Main statement: a field is taken from the highest layer that sets it, and from no other; what sets
another field or none changes nothing in it, and a dictionary for a field is refused.
-/
import FeedCache.Proofs.Settings.Layering

namespace FeedCache.Settings

/-- What a field of settings holds, and what a value gives to a field. -/
inductive Content where
  | number (count : Nat)
  | text (content : String)
  deriving DecidableEq

def content? (settings : Settings) : Field → Option Content
  | .basePath => settings.basePath.map .text
  | .httpProxy => settings.httpProxy.map .text
  | .httpsProxy => settings.httpsProxy.map .text
  | .maxBytes => some (.number settings.maxBytes)
  | .maxRedirects => some (.number settings.maxRedirects)
  | .maxRetries => some (.number settings.maxRetries)
  | .namespaceName => some (.text settings.namespaceName)
  | .noProxy => settings.noProxy.map .text
  | .proxy => settings.proxy.map .text
  | .retryBackoff => some (.number settings.retryBackoff)
  | .timeout => some (.number settings.timeout)
  | .userAgent => some (.text settings.userAgent)

/-- Only natural numbers and texts can be given to a field. -/
def Value.content? : Value → Option Content
  | .unsigned count => some (.number count)
  | .signed integer => if 0 ≤ integer then some (.number integer.toNat) else none
  | .text content => some (.text content)
  | _ => none

/-- A content is what the value gives, or the default if there is no value. -/
def IsTaken (value : Option Value) (default content : Option Content) : Prop :=
  match value with
  | none => content = default
  | some value => value.content?.isSome ∧ content = value.content?

theorem IsTaken.unique {value : Option Value} {default left right : Option Content}
    (first : IsTaken value default left) (second : IsTaken value default right) : left = right := by
  cases value with
  | none => exact Eq.trans first (Eq.symm second)
  | some value => exact first.2.trans second.2.symm

section

variable {found : Field → Option (Value × Origin)} {field : Field}

theorem readField_isTaken {α : Type} {read : Value → Except Misfit α} {default result : α}
    (content : α → Option Content)
    (fits : ∀ value result, read value = .ok result →
      value.content?.isSome ∧ content result = value.content?)
    (done : readField found field read default = .ok result) :
    IsTaken ((found field).map Prod.fst) (content default) (content result) := by
  rw [readField] at done
  split at done
  · rename_i missing
    cases done
    rw [missing]
    exact rfl
  · rename_i value origin present
    rw [present]
    exact fits value result (mapError_eq_ok.1 done)

theorem toNatural_fits (expected : Expectation) (value : Value) (count : Nat)
    (read : value.toNatural expected = .ok count) :
    value.content?.isSome ∧ some (.number count) = value.content? := by
  rw [Value.toNatural.eq_def] at read
  split at read
  · split at read
    · cases read
      exact ⟨rfl, rfl⟩
    · cases read
  · split at read
    · rename_i inRange
      cases read
      simp [Value.content?, inRange.1]
    · cases read
  · cases read

theorem toText_fits (expected : Expectation) (value : Value) (text : String)
    (read : value.toText expected = .ok text) :
    value.content?.isSome ∧ some (.text text) = value.content? := by
  rw [Value.toText.eq_def] at read
  split at read
  · cases read
    exact ⟨rfl, rfl⟩
  · cases read

theorem readText_fits (expected : Expectation) (value : Value) (text : Option String)
    (read : readText expected value = .ok text) :
    value.content?.isSome ∧ text.map .text = value.content? := by
  obtain ⟨content, here, rfl⟩ := map_eq_ok.1 read
  exact toText_fits expected value content here

/-- Settings are extracted field by field. -/
theorem extract_isTaken {settings : Settings} (done : extract found = .ok settings)
    (field : Field) : IsTaken ((found field).map Prod.fst) (({} : Settings).content? field)
      (settings.content? field) := by
  obtain ⟨basePath, readBasePath, done⟩ := bind_eq_ok.1 done
  obtain ⟨httpProxy, readHttpProxy, done⟩ := bind_eq_ok.1 done
  obtain ⟨httpsProxy, readHttpsProxy, done⟩ := bind_eq_ok.1 done
  obtain ⟨maxBytes, readMaxBytes, done⟩ := bind_eq_ok.1 done
  obtain ⟨maxRedirects, readMaxRedirects, done⟩ := bind_eq_ok.1 done
  obtain ⟨maxRetries, readMaxRetries, done⟩ := bind_eq_ok.1 done
  obtain ⟨namespaceName, readNamespace, done⟩ := bind_eq_ok.1 done
  obtain ⟨noProxy, readNoProxy, done⟩ := bind_eq_ok.1 done
  obtain ⟨proxy, readProxy, done⟩ := bind_eq_ok.1 done
  obtain ⟨retryBackoff, readBackoff, done⟩ := bind_eq_ok.1 done
  obtain ⟨timeout, readTimeout, done⟩ := bind_eq_ok.1 done
  obtain ⟨userAgent, readUserAgent, done⟩ := bind_eq_ok.1 done
  cases done
  cases field with
  | basePath => exact readField_isTaken (Option.map .text) (readText_fits _) readBasePath
  | httpProxy => exact readField_isTaken (Option.map .text) (readText_fits _) readHttpProxy
  | httpsProxy => exact readField_isTaken (Option.map .text) (readText_fits _) readHttpsProxy
  | maxBytes => exact readField_isTaken (some <| .number ·) (toNatural_fits _) readMaxBytes
  | maxRedirects => exact readField_isTaken (some <| .number ·) (toNatural_fits _) readMaxRedirects
  | maxRetries => exact readField_isTaken (some <| .number ·) (toNatural_fits _) readMaxRetries
  | namespaceName => exact readField_isTaken (some <| .text ·) (toText_fits _) readNamespace
  | noProxy => exact readField_isTaken (Option.map .text) (readText_fits _) readNoProxy
  | proxy => exact readField_isTaken (Option.map .text) (readText_fits _) readProxy
  | retryBackoff => exact readField_isTaken (some <| .number ·) (toNatural_fits _) readBackoff
  | timeout => exact readField_isTaken (some <| .number ·) (toNatural_fits _) readTimeout
  | userAgent => exact readField_isTaken (some <| .text ·) (toText_fits _) readUserAgent

/-- A dictionary is no content, so that no field takes one. -/
theorem extract_dictionary {origin : Origin} (dictionary : found field = some (.map, origin)) :
    ∃ complaint, extract found = .error complaint := by
  cases extracted : extract found with
  | error complaint => exact ⟨complaint, rfl⟩
  | ok settings =>
      have taken := extract_isTaken extracted field
      rw [dictionary] at taken
      exact absurd taken.1 Bool.false_ne_true

end

section

variable {environment other : Environment} {file otherFile : Option SettingsFile} {field : Field}

/-- The variables from which proxies are taken that are not set. -/
def commonNames : List String :=
  ["http_proxy", "HTTP_PROXY", "https_proxy", "HTTPS_PROXY", "no_proxy", "NO_PROXY"]

/-- Common variables lead to no field. -/
theorem Field.commonNames_unreached (field : Field) :
    ∀ name ∈ commonNames, field.isReachedBy name = false := by
  have keyless : ∀ name ∈ commonNames, variableKey? name = none := by decide
  intro name member
  rw [Field.isReachedBy, keyless name member]
  rfl

/-- Of the environment only the common variables count for proxies that are not set. -/
theorem withCommonProxies_congr
    (same : ∀ name ∈ commonNames, environment.value? name = other.value? name) :
    withCommonProxies environment = withCommonProxies other := by
  funext settings
  simp only [withCommonProxies, Environment.firstFilled, List.findSome?_cons, List.findSome?_nil,
    same "http_proxy" (by decide), same "HTTP_PROXY" (by decide), same "https_proxy" (by decide),
    same "HTTPS_PROXY" (by decide), same "no_proxy" (by decide), same "NO_PROXY" (by decide)]

/-- Proxies are filled in alike where the same is set, as far as one proxy for everything allows. -/
theorem withCommonProxies_agree {left right : Settings} {field other : Field}
    (agree : ∀ other ≠ field, left.content? other = right.content? other) (apart : other ≠ field) :
    (withCommonProxies environment left).content? other =
        (withCommonProxies environment right).content? other ∨
      field = .proxy ∧ (other = .httpProxy ∨ other = .httpsProxy) := by
  have texts {left right : Option String} (same : left.map Content.text = right.map Content.text) :
      left = right := Option.map_injective (fun _ _ => Content.text.inj) same
  by_cases filled : other = .httpProxy ∨ other = .httpsProxy
  · by_cases single : field = .proxy
    · exact .inr ⟨single, filled⟩
    · have sameProxy : left.proxy = right.proxy := texts (agree .proxy (Ne.symm single))
      refine .inl ?_
      rcases filled with rfl | rfl
      · have own : left.httpProxy = right.httpProxy := texts (agree .httpProxy apart)
        simp only [withCommonProxies, content?, sameProxy, own]
      · have own : left.httpsProxy = right.httpsProxy := texts (agree .httpsProxy apart)
        simp only [withCommonProxies, content?, sameProxy, own]
  · refine .inl ?_
    cases other with
    | httpProxy => exact absurd (.inl rfl) filled
    | httpsProxy => exact absurd (.inr rfl) filled
    | noProxy =>
        have own : left.noProxy = right.noProxy := texts (agree .noProxy apart)
        simp only [withCommonProxies, content?, own]
    | _ => exact agree _ apart

theorem ofSources_of_misfit {complaint : Complaint}
    (failed : extract (find? environment file) = .error complaint) :
    ofSources environment file = .error (.misfit complaint) := by
  rw [ofSources, failed]
  rfl

theorem ofSources_of_extracted {extracted : Settings}
    (taken : extract (find? environment file) = .ok extracted) :
    ofSources environment file = match (withCommonProxies environment extracted).violation? with
      | some violation => .error (.invalid violation)
      | none => .ok (withCommonProxies environment extracted) := by
  rw [ofSources, taken]
  rfl

theorem ofSources_eq_ok {settings : Settings} :
    ofSources environment file = .ok settings ↔
      ∃ extracted, extract (find? environment file) = .ok extracted ∧
        withCommonProxies environment extracted = settings ∧ settings.Valid := by
  cases taken : extract (find? environment file) with
  | error complaint => simp [ofSources_of_misfit taken]
  | ok extracted =>
      rw [ofSources_of_extracted taken]
      split
      · rename_i violation violated
        simp only [reduceCtorEq, Except.ok.injEq, exists_eq_left', false_iff]
        rintro ⟨rfl, valid⟩
        exact nomatch violated.symm.trans valid
      · rename_i valid
        simp only [Except.ok.injEq, exists_eq_left']
        exact ⟨fun same => ⟨same, same ▸ valid⟩, And.left⟩

/-- All fields, in the order of their names. -/
def fields : List Field :=
  [.basePath, .httpProxy, .httpsProxy, .maxBytes, .maxRedirects, .maxRetries, .namespaceName,
    .noProxy, .proxy, .retryBackoff, .timeout, .userAgent]

theorem Field.mem_fields (field : Field) : field ∈ fields := by
  cases field <;> decide

/-- The variable leads to a field, or proxies that are not set are taken from it. -/
def matters (name : String) : Bool :=
  fields.any (·.isReachedBy name) || commonNames.contains name

/-- The file with the keys of fields only. -/
def SettingsFile.known (file : SettingsFile) : SettingsFile :=
  { file with
    entries := file.entries.filter fun entry =>
      fields.any fun field => entry.1 == field.name.toList }

theorem Field.fileValue?_known (field : Field) (file : Option SettingsFile) :
    field.fileValue? (file.map SettingsFile.known) = field.fileValue? file := by
  cases file with
  | none => rfl
  | some file =>
      have looked : file.known.entries.lookup field.name.toList =
          file.entries.lookup field.name.toList :=
        lookup_filter (fun key => fields.any fun field => key == field.name.toList) _
          (List.any_eq_true.2 ⟨field, field.mem_fields, BEq.rfl⟩)
      simp only [fileValue?, Option.map_some, Option.bind_some, Toml.Entries.value?,
        Toml.Entries.find?, looked]
      rfl

/-- Variables and keys that name no field change nothing. -/
theorem ofSources_known (environment : Environment) (file : Option SettingsFile) :
    ofSources (environment.filter fun entry => matters entry.1) (file.map SettingsFile.known) =
      ofSources environment file := by
  have found : find? (environment.filter fun entry => matters entry.1)
      (file.map SettingsFile.known) = find? environment file := by
    funext field
    rw [find?_eq_highest?, find?_eq_highest?, Field.highest?, Field.highest?,
      field.fileValue?_known, Field.variables_filter]
    intro entry dropped
    simp only [matters, Bool.or_eq_false_iff, List.any_eq_false] at dropped
    simpa using dropped.1 field field.mem_fields
  have common : withCommonProxies (environment.filter fun entry => matters entry.1) =
      withCommonProxies environment := by
    refine withCommonProxies_congr fun name member => lookup_filter matters _ ?_
    simp [matters, member]
  rw [ofSources, ofSources, found, common]

/-- Only what is set for one field is different. -/
structure DifferOnlyIn (field : Field) (environment : Environment) (file : Option SettingsFile)
    (other : Environment) (otherFile : Option SettingsFile) : Prop where
  environments : environment.filter (fun entry => !field.isReachedBy entry.1) =
    other.filter fun entry => !field.isReachedBy entry.1
  files : ∀ another ≠ field,
    (another.fileValue? file).map Prod.fst = (another.fileValue? otherFile).map Prod.fst

/-- What is set for one field changes no other field, except that one proxy for everything decides
whether others are filled in. -/
theorem DifferOnlyIn.content? {settings changed : Settings} {another : Field}
    (differ : DifferOnlyIn field environment file other otherFile)
    (loaded : ofSources environment file = .ok settings)
    (reloaded : ofSources other otherFile = .ok changed) (apart : another ≠ field) :
    settings.content? another = changed.content? another ∨
      field = .proxy ∧ (another = .httpProxy ∨ another = .httpsProxy) := by
  obtain ⟨before, extracted, rfl, -⟩ := ofSources_eq_ok.1 loaded
  obtain ⟨after, reextracted, rfl, -⟩ := ofSources_eq_ok.1 reloaded
  have sameValue (another : Field) (apart : another ≠ field) :
      (find? environment file another).map Prod.fst =
        (find? other otherFile another).map Prod.fst := by
    have passed : ∀ entry : String × String, (!field.isReachedBy entry.1) = false →
        another.isReachedBy entry.1 = false :=
      fun entry dropped => Field.unreached (by simpa using dropped) apart
    rw [find?_eq_highest?, find?_eq_highest?, Field.highest?, Field.highest?, Option.map_or,
      Option.map_or, differ.files another apart, ← Field.variables_filter environment passed,
      differ.environments, Field.variables_filter other passed]
  have agree (another : Field) (apart : another ≠ field) :
      before.content? another = after.content? another := by
    have left := extract_isTaken extracted another
    have right := extract_isTaken reextracted another
    rw [sameValue another apart] at left
    exact left.unique right
  have common : withCommonProxies environment = withCommonProxies other := by
    refine withCommonProxies_congr fun name member => ?_
    have kept : (!field.isReachedBy name) = true := by
      rw [field.commonNames_unreached name member]
      rfl
    rw [Environment.value?, Environment.value?,
      ← lookup_filter (fun name => !field.isReachedBy name) environment kept,
      differ.environments, lookup_filter (fun name => !field.isReachedBy name) other kept]
  rw [common]
  exact withCommonProxies_agree agree apart

end

/-- What is loaded from the variables of an environment and the keys of a file. -/
structure FieldWise (environment : Environment) (file : Option SettingsFile)
    (result : Except LoadFault Settings) : Prop where
  /-- Before proxies are filled in, each field is what the highest layer gives it. -/
  taken : ∀ settings, result = .ok settings → ∃ extracted,
    extract (find? environment file) = .ok extracted ∧
      withCommonProxies environment extracted = settings ∧
      ∀ field, IsTaken (field.assigned? environment file) (({} : Settings).content? field)
        (extracted.content? field)
  /-- Variables and keys that name no field might as well be missing. -/
  known : result =
    ofSources (environment.filter fun entry => matters entry.1) (file.map SettingsFile.known)
  /-- What is set for one field changes no other one, except where proxies are filled in. -/
  apart : ∀ field other otherFile settings changed,
    DifferOnlyIn field environment file other otherFile → result = .ok settings →
    ofSources other otherFile = .ok changed → ∀ another ≠ field,
      settings.content? another = changed.content? another ∨
        field = .proxy ∧ (another = .httpProxy ∨ another = .httpsProxy)
  /-- A dictionary for a field is refused, whatever lies below it. -/
  dictionary : ∀ (field : Field) origin,
    field.highest? environment file = some (.map, origin) →
      ∃ complaint, result = .error (.misfit complaint)

theorem load_eq_ofSources {environment : Environment} {disk : Disk} {start : Place}
    {file : Option SettingsFile} (read : settingsFile environment disk start = .ok file) :
    load environment disk start = ofSources environment file := by
  rw [load, read]
  rfl

/-- Settings are loaded field by field, each from the highest layer that sets it. -/
theorem load_fieldWise (environment : Environment) (disk : Disk) (start : Place)
    (file : Option SettingsFile) (read : settingsFile environment disk start = .ok file) :
    FieldWise environment file (load environment disk start) := by
  rw [load_eq_ofSources read]
  constructor
  case taken =>
    intro settings loaded
    obtain ⟨extracted, done, filled, -⟩ := ofSources_eq_ok.1 loaded
    refine ⟨extracted, done, filled, fun field => ?_⟩
    have plain : ∀ origin, field.highest? environment file ≠ some (.map, origin) := by
      intro origin dictionary
      rw [← find?_eq_highest?] at dictionary
      obtain ⟨complaint, failed⟩ := extract_dictionary dictionary
      exact nomatch done.symm.trans failed
    rw [← Field.highest?_eq_assigned? plain, ← find?_eq_highest?]
    exact extract_isTaken done field
  case known => exact (ofSources_known environment file).symm
  case apart =>
    intro field other otherFile settings changed differ loaded reloaded another distinct
    exact differ.content? loaded reloaded distinct
  case dictionary =>
    intro field origin dictionary
    rw [← find?_eq_highest?] at dictionary
    obtain ⟨complaint, failed⟩ := extract_dictionary dictionary
    exact ⟨complaint, ofSources_of_misfit failed⟩

/-- Variables that set a field twice and lead into it once, one for a proxy, and one for a file. -/
def layeredEnvironment : Environment :=
  [("FEEDGRAB_CONFIG_FILE", "/feeds.toml"), ("FEEDGRAB_MAX_BYTES", "900"),
    ("FEEDGRAB_MAX_BYTES__LIMIT", "1"), (" Feedgrab_Max_Bytes", "640"),
    ("HTTP_PROXY", "proxy:8080")]

/-- A file with a field and a table that bears no field's name. -/
def layeredDisk : Disk :=
  ⟨[(["feeds.toml"], .file "timeout_ms = 250\n[default]\nmax_retries = 9\n".toUTF8)]⟩

/-- The last variable counts although one before it leads into the field. -/
theorem load_fieldWise_sample : ∃ file,
    settingsFile layeredEnvironment layeredDisk [] = .ok file ∧
      FieldWise layeredEnvironment file (load layeredEnvironment layeredDisk []) ∧
      (load layeredEnvironment layeredDisk []).toOption =
        some { timeout := 250, maxBytes := 640, httpProxy := some "http://proxy:8080" } := by
  have readable : (settingsFile layeredEnvironment layeredDisk []).toOption.isSome := by
    decide +kernel
  cases read : settingsFile layeredEnvironment layeredDisk [] with
  | error fault =>
      rw [read] at readable
      cases readable
  | ok file => exact ⟨file, rfl, load_fieldWise _ _ _ file read, by decide +kernel⟩

end FeedCache.Settings
