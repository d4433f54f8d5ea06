/-
This file follows the value of a variable to its field.

Main statements: settings are extracted exactly if the value for each field fits it. A text that is
no number arrives in its field as it is, and a number does if the field is wide enough; otherwise
nothing is loaded.
-/
import FeedCache.Proofs.Settings.Loading
import FeedCache.Proofs.Settings.Spelling

namespace FeedCache.Settings

/-- What the field takes. -/
def Field.expectation : Field → Expectation
  | .basePath => .path
  | .maxBytes => .size
  | .maxRedirects | .maxRetries => .word32
  | .retryBackoff | .timeout => .word64
  | .httpProxy | .httpsProxy | .namespaceName | .noProxy | .proxy | .userAgent => .text

/-- The value is one that the field takes. -/
def Field.Fits (field : Field) (value : Value) : Prop :=
  match field.expectation with
  | .text | .path => ∃ text, value = .text text
  | expected => ∃ count < expected.limit, value.content? = some (.number count)

/-- A value is read in the field's way, but only for its misfit. -/
def Field.check (field : Field) (value : Value) : Except Misfit Unit :=
  match field.expectation with
  | .text => (value.toText .text).map fun _ => ()
  | .path => (value.toText .path).map fun _ => ()
  | expected => (value.toNatural expected).map fun _ => ()

/-- The value for a field is checked, if there is one. -/
def checkField (found : Field → Option (Value × Origin)) (field : Field) : Except Complaint Unit :=
  match found field with
  | none => .ok ()
  | some (value, origin) => (field.check value).mapError fun misfit => ⟨misfit, field, origin⟩

section

variable {found : Field → Option (Value × Origin)} {field : Field} {value : Value}

theorem toText_isOk_iff (expected : Expectation) (value : Value) :
    (value.toText expected).map (fun _ => ()) = .ok () ↔ ∃ text, value = .text text := by
  cases value <;> simp [Value.toText, Except.map]

theorem toNatural_isOk_iff (expected : Expectation) (value : Value) :
    (value.toNatural expected).map (fun _ => ()) = .ok () ↔
      ∃ count < expected.limit, value.content? = some (.number count) := by
  cases value with
  | unsigned count =>
      by_cases inRange : count < expected.limit <;>
        simp [Value.toNatural, Value.content?, Except.map, inRange]
  | signed integer =>
      by_cases inRange : 0 ≤ integer ∧ integer < expected.limit
      · exact iff_of_true (by simp [Value.toNatural, inRange, Except.map])
          ⟨integer.toNat, by omega, by simp [Value.content?, inRange.1]⟩
      · refine iff_of_false (by simp [Value.toNatural, inRange, Except.map]) ?_
        rintro ⟨count, small, given⟩
        rw [Value.content?] at given
        split at given
        · cases given
          omega
        · cases given
  | _ => simp [Value.toNatural, Value.content?, Except.map]

theorem Field.check_eq_ok_iff : field.check value = .ok () ↔ field.Fits value := by
  rw [Field.check, Field.Fits]
  cases field.expectation with
  | text | path => exact toText_isOk_iff _ value
  | word32 | word64 | size => exact toNatural_isOk_iff _ value

/-- One field is read after the other. -/
theorem bind_readField {α β : Type} {read : Value → Except Misfit α} {default : α}
    {next : α → Except Complaint β} {later : List Field}
    (checked : ∀ value, (read value).map (fun _ => ()) = field.check value)
    (others : ∀ content, (next content).map (fun _ => ()) = forM later (checkField found)) :
    ((readField found field read default).bind next).map (fun _ => ()) =
      forM (field :: later) (checkField found) := by
  rw [List.forM_cons, readField, checkField]
  -- Where nothing is found the default is taken unchecked, so that only a value can be a misfit.
  rcases found field with - | ⟨value, origin⟩
  · exact others default
  · simp only [← checked]
    cases read value with
    | error misfit => rfl
    | ok content => exact others content

theorem readText_check (expected : Expectation) (value : Value) :
    (readText expected value).map (fun _ => ()) = (value.toText expected).map fun _ => () := by
  rw [readText]
  cases value.toText expected <;> rfl

/-- The extraction fails like a check of all fields in their order. -/
theorem extract_check (found : Field → Option (Value × Origin)) :
    (extract found).map (fun _ => ()) = forM fields (checkField found) :=
  bind_readField (readText_check .path) fun _ =>
  bind_readField (readText_check .text) fun _ =>
  bind_readField (readText_check .text) fun _ =>
  bind_readField (fun _ => rfl) fun _ =>
  bind_readField (fun _ => rfl) fun _ =>
  bind_readField (fun _ => rfl) fun _ =>
  bind_readField (fun _ => rfl) fun _ =>
  bind_readField (readText_check .text) fun _ =>
  bind_readField (readText_check .text) fun _ =>
  bind_readField (fun _ => rfl) fun _ =>
  bind_readField (fun _ => rfl) fun _ =>
  bind_readField (fun _ => rfl) fun _ => rfl

theorem checkField_eq_ok_iff : checkField found field = .ok () ↔
    ∀ value origin, found field = some (value, origin) → field.Fits value := by
  rw [checkField]
  rcases found field with - | ⟨value, origin⟩
  · simp
  · simp [mapError_eq_ok, Field.check_eq_ok_iff]

/-- Settings are extracted exactly if each value that is found fits its field. -/
theorem exists_extract_iff : (∃ settings, extract found = .ok settings) ↔
    ∀ field value origin, found field = some (value, origin) → field.Fits value := by
  have passed : (∃ settings, extract found = .ok settings) ↔
      (extract found).map (fun _ => ()) = .ok () := by
    simp [map_eq_ok]
  rw [passed, extract_check, forM_eq_ok_iff]
  simp only [checkField_eq_ok_iff]
  exact ⟨fun fits field => fits field field.mem_fields, fun fits field _ => fits field⟩

/-- The complaint is about a value that was found for its field and does not fit. -/
theorem extract_error {complaint : Complaint} (failed : extract found = .error complaint) :
    ∃ value, found complaint.field = some (value, complaint.origin) ∧
      ¬complaint.field.Fits value := by
  have checked : forM fields (checkField found) = .error complaint := by
    rw [← extract_check, failed]
    rfl
  obtain ⟨field, -, refused⟩ := exists_of_forM_eq_error checked
  rw [checkField] at refused
  rcases present : found field with - | ⟨value, origin⟩
  · rw [present] at refused
    cases refused
  · simp only [present] at refused
    cases misfits : field.check value with
    | ok passed =>
        rw [misfits] at refused
        cases refused
    | error misfit =>
        rw [misfits] at refused
        cases refused
        refine ⟨value, present, fun fits => ?_⟩
        exact nomatch misfits.symm.trans (Field.check_eq_ok_iff.2 fits)

end

/-- The variable of the field. -/
def Field.variableName (field : Field) : String := "FEEDGRAB_" ++ field.name.toUpper

theorem Field.isNamedBy_variableName (field : Field) : field.IsNamedBy field.variableName := by
  cases field <;> decide +kernel

/-- The variable of the field has the value, and no other one leads to the field. -/
structure SetOnce (field : Field) (environment : Environment) (value : String) : Prop where
  set : (field.variableName, value) ∈ environment
  only : ∀ entry ∈ environment, field.isReachedBy entry.1 → entry = (field.variableName, value)

/-- Whatever the file has for the field, the variable counts. -/
theorem SetOnce.find?_eq {field : Field} {environment : Environment} {text : String}
    (once : SetOnce field environment text) (file : Option SettingsFile) :
    find? environment file field = some (Value.ofSpelling text, .environment) := by
  have given : field.variableValue? (field.variableName, text) = some (Value.ofSpelling text) :=
    Field.variableValue?_of_named field.isNamedBy_variableName
  have counts : environment.reverse.findSome? field.variableValue? =
      some (Value.ofSpelling text) := by
    cases first : environment.reverse.findSome? field.variableValue? with
    | none =>
        have missing := List.findSome?_eq_none_iff.1 first _ (List.mem_reverse.2 once.set)
        exact nomatch missing.symm.trans given
    | some value =>
        obtain ⟨entry, member, leads⟩ := List.exists_of_findSome?_eq_some first
        have reached : field.isReachedBy entry.1 := by
          by_contra unreached
          exact nomatch leads.symm.trans
            (Field.variableValue?_eq_none (Bool.eq_false_iff.2 unreached))
        rw [once.only entry (List.mem_reverse.1 member) reached, given] at leads
        exact leads.symm
  rw [find?_eq_highest?, Field.highest?, counts]
  rfl

/-- The fields for texts. -/
def textFields : List Field :=
  [.basePath, .namespaceName, .userAgent, .proxy, .httpProxy, .httpsProxy, .noProxy]

/-- The fields for numbers. -/
def numberFields : List Field := [.timeout, .maxRetries, .maxRedirects, .retryBackoff, .maxBytes]

/-- The first number that has too many bits for the field. -/
def Field.limit : Field → Nat
  | .maxRetries | .maxRedirects => 0x100000000
  | _ => 0x10000000000000000

section

variable {environment : Environment} {disk : Disk} {start : Place} {field : Field} {value : Value}
  {content : Content}

theorem fits_of_textFields (text : String) (textual : field ∈ textFields) :
    field.Fits (.text text) := by
  cases field <;> first | exact ⟨text, rfl⟩ | exact absurd textual (by decide)

theorem fits_of_numberFields (numeric : field ∈ numberFields) :
    field.Fits value ↔ ∃ count < field.limit, value.content? = some (.number count) := by
  cases field <;> first | exact Iff.rfl | exact absurd numeric (by decide)

/-- The values for the other fields fit these. -/
def OthersFit (field : Field) (found : Field → Option (Value × Origin)) : Prop :=
  ∀ another value origin, another ≠ field → found another = some (value, origin) →
    another.Fits value

/-- The content reaches the field: it is extracted if the values for the other fields fit, and what
is loaded has it. -/
structure Arrives (environment : Environment) (disk : Disk) (start : Place) (field : Field)
    (content : Content) : Prop where
  extracted : ∀ file, settingsFile environment disk start = .ok file →
    OthersFit field (find? environment file) → ∃ layered,
      extract (find? environment file) = .ok layered ∧ layered.content? field = some content
  loaded : ∀ settings, load environment disk start = .ok settings →
    settings.content? field = some content

/-- Nothing is loaded, and not because a rule is broken: the value does not fit, unless the file or
the value for another field is worse. -/
structure Refused (environment : Environment) (disk : Disk) (start : Place) (field : Field) :
    Prop where
  failed : ∃ fault, load environment disk start = .error fault ∧
    ∀ violation, fault ≠ .invalid violation
  blamed : ∀ file, settingsFile environment disk start = .ok file →
    OthersFit field (find? environment file) → ∃ misfit,
      load environment disk start = .error (.misfit ⟨misfit, field, .environment⟩)

/-- What is set in the layers stays when proxies are filled in. -/
theorem content?_withCommonProxies {layered : Settings}
    (given : layered.content? field = some content) :
    (withCommonProxies environment layered).content? field = some content := by
  cases field with
  | httpProxy | httpsProxy | noProxy =>
      obtain ⟨text, present, rfl⟩ := Option.map_eq_some_iff.1 given
      simp [withCommonProxies, content?, present]
  | _ => exact given

theorem settingsFile_error {fault : LoadFault}
    (failed : settingsFile environment disk start = .error fault) : fault = .unreadable := by
  rw [settingsFile] at failed
  split at failed
  · cases failed
  · dsimp only at failed
    split at failed
    · cases failed
    · split at failed
      · exact (Except.error.inj failed).symm
      · cases failed

/-- A value that counts and fits arrives. -/
theorem arrives_of_fits
    (found : ∀ file, find? environment file field = some (value, .environment))
    (fits : field.Fits value) (given : value.content? = some content) :
    Arrives environment disk start field content := by
  have taken {file : Option SettingsFile} {layered : Settings}
      (extracted : extract (find? environment file) = .ok layered) :
      layered.content? field = some content := by
    have isTaken := extract_isTaken extracted field
    rw [found] at isTaken
    exact isTaken.2.trans given
  constructor
  case extracted =>
    intro file _ others
    have all : ∀ another other origin, find? environment file another = some (other, origin) →
        another.Fits other := by
      intro another other origin present
      by_cases same : another = field
      · subst same
        cases (found file).symm.trans present
        exact fits
      · exact others another other origin same present
    obtain ⟨layered, extracted⟩ := exists_extract_iff.2 all
    exact ⟨layered, extracted, taken extracted⟩
  case loaded =>
    intro settings loaded
    obtain ⟨file, -, complete⟩ := bind_eq_ok.1 loaded
    obtain ⟨layered, extracted, rfl, -⟩ := ofSources_eq_ok.1 complete
    exact content?_withCommonProxies (taken extracted)

/-- A value that counts and does not fit lets nothing be loaded. -/
theorem refused_of_misfit
    (found : ∀ file, find? environment file field = some (value, .environment))
    (misfits : ¬field.Fits value) : Refused environment disk start field := by
  have complains (file : Option SettingsFile) : ∃ complaint,
      extract (find? environment file) = .error complaint :=
    exists_error_iff.2 fun extracted =>
      misfits (exists_extract_iff.1 extracted field value _ (found file))
  constructor
  case failed =>
    cases read : settingsFile environment disk start with
    | error fault =>
        refine ⟨fault, by rw [load, read]; rfl, ?_⟩
        rw [settingsFile_error read]
        simp
    | ok file =>
        obtain ⟨complaint, failed⟩ := complains file
        exact ⟨.misfit complaint, (load_eq_ofSources read).trans (ofSources_of_misfit failed),
          by simp⟩
  case blamed =>
    intro file read others
    obtain ⟨⟨misfit, blamed, origin⟩, failed⟩ := complains file
    obtain ⟨other, present, unfit⟩ := extract_error failed
    have same : blamed = field := by
      by_contra apart
      exact unfit (others blamed other origin apart present)
    subst same
    cases (found file).symm.trans present
    exact ⟨misfit, (load_eq_ofSources read).trans (ofSources_of_misfit failed)⟩

end

/-- What a variable says arrives in its field unaltered, or nothing is loaded. -/
theorem load_variable (environment : Environment) (disk : Disk) (start : Place) (field : Field) :
    (∀ text, field ∈ textFields → IsPlain text.toList → SetOnce field environment text →
      Arrives environment disk start field (.text text)) ∧
    ∀ count, field ∈ numberFields → SetOnce field environment (toString count) →
      (count < field.limit → Arrives environment disk start field (.number count)) ∧
      (field.limit ≤ count → Refused environment disk start field) := by
  constructor
  · intro text textual isPlain once
    have found (file : Option SettingsFile) :
        find? environment file field = some (.text text, .environment) := by
      rw [once.find?_eq, ofSpelling_of_isPlain isPlain]
    exact arrives_of_fits found (fits_of_textFields text textual) rfl
  · intro count numeric once
    have bounded : field.limit ≤ 0x10000000000000000 := by
      cases field <;> decide
    constructor
    · intro small
      have found (file : Option SettingsFile) :
          find? environment file field = some (.unsigned count, .environment) := by
        rw [once.find?_eq, ofSpelling_toString, if_pos (Nat.lt_of_lt_of_le small bounded)]
      exact arrives_of_fits found ((fits_of_numberFields numeric).2 ⟨count, small, rfl⟩) rfl
    · intro large
      refine refused_of_misfit once.find?_eq fun fits => ?_
      obtain ⟨other, small, given⟩ := (fits_of_numberFields numeric).1 fits
      rw [ofSpelling_toString] at given
      split at given
      · cases given
        omega
      · cases given

/-- A variable for a text that starts like a truth value, over a file that sets the field too. -/
def spelledEnvironment : Environment :=
  [("FEEDGRAB_CONFIG_FILE", "/feeds.toml"),
    ("FEEDGRAB_NO_PROXY", "true.example, [::1] = \"x\"")]

def spelledDisk : Disk :=
  ⟨[(["feeds.toml"], .file "no_proxy = \"below\"\nmax_retries = 3\n".toUTF8)]⟩

/-- The text arrives whole, a number does at the end of its range, and the next one is refused. -/
theorem load_variable_sample :
    (∃ settings, load spelledEnvironment spelledDisk [] = .ok settings ∧
      settings.noProxy = some "true.example, [::1] = \"x\"") ∧
    (∃ layered, extract (find? [("FEEDGRAB_MAX_RETRIES", "4294967295")] none) = .ok layered ∧
      layered.maxRetries = 4294967295) ∧
    ∃ fault, load [("FEEDGRAB_MAX_RETRIES", "4294967296")] ⟨[]⟩ [] = .error fault ∧
      ∀ violation, fault ≠ .invalid violation := by
  refine ⟨?_, ?_, ?_⟩
  · have loadable : (load spelledEnvironment spelledDisk []).toOption.isSome := by decide +kernel
    obtain ⟨settings, loaded⟩ := Option.isSome_iff_exists.1 loadable
    have once : SetOnce .noProxy spelledEnvironment "true.example, [::1] = \"x\"" :=
      ⟨by decide +kernel, by decide +kernel⟩
    have arrives := (load_variable spelledEnvironment spelledDisk [] .noProxy).1 _ (by decide)
      (by decide +kernel) once
    refine ⟨settings, eq_ok_of_toOption loaded, ?_⟩
    simpa [content?] using arrives.loaded settings (eq_ok_of_toOption loaded)
  · have once : SetOnce .maxRetries [("FEEDGRAB_MAX_RETRIES", "4294967295")]
        (toString 4294967295) := ⟨by decide +kernel, by decide +kernel⟩
    have arrives := ((load_variable _ ⟨[]⟩ [] .maxRetries).2 4294967295 (by decide) once).1
      (by decide)
    have unset : ∀ another ∈ fields, another ≠ .maxRetries →
        find? [("FEEDGRAB_MAX_RETRIES", "4294967295")] none another = none := by decide +kernel
    have others : OthersFit .maxRetries (find? [("FEEDGRAB_MAX_RETRIES", "4294967295")] none) := by
      intro another value origin apart present
      rw [unset another another.mem_fields apart] at present
      cases present
    obtain ⟨layered, extracted, given⟩ := arrives.extracted none rfl others
    exact ⟨layered, extracted, by simpa [content?] using given⟩
  · have once : SetOnce .maxRetries [("FEEDGRAB_MAX_RETRIES", "4294967296")]
        (toString 4294967296) := ⟨by decide +kernel, by decide +kernel⟩
    exact ((load_variable _ ⟨[]⟩ [] .maxRetries).2 4294967296 (by decide) once).2 (by decide)
      |>.failed

end FeedCache.Settings
