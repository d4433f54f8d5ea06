/-
This file puts settings together from the environment, a file and the defaults.

The environment lies over the file, and the file over the defaults. Proxies that are not set so are
taken from the variables that other programs use as well.
-/
import FeedCache.Disk.Basic
import FeedCache.Settings.Layer
import FeedCache.Settings.Rules
import FeedCache.Toml.Document

namespace FeedCache.Settings

/-- A value that does not fit its field. -/
structure Complaint where
  misfit : Misfit
  field : Field
  origin : Origin
  deriving DecidableEq

def Complaint.message (complaint : Complaint) : String :=
  let place := match complaint.origin with
    | .environment =>
        "key \"" ++ complaint.field.name.toUpper ++ "\" in \x60FEEDGRAB_\x60 environment variable(s)"
    | .file path => "key \"default." ++ complaint.field.name ++ "\" in " ++ path ++ " TOML file"
  complaint.misfit.message ++ " for " ++ place

/-- The reasons why no settings can be loaded. -/
inductive LoadFault where
  | unreadable
  | misfit (complaint : Complaint)
  | invalid (violation : Violation)
  deriving DecidableEq

def LoadFault.message : LoadFault → String
  | .unreadable => "failed to load configuration"
  | .misfit complaint => "failed to load configuration: " ++ complaint.message
  | .invalid violation => violation.message

/-- The file of settings: its path as it is shown, and its entries. -/
structure SettingsFile where
  path : String
  entries : Toml.Entries

/-- The environment lies over the file. -/
def layers (environment : Environment) (file : Option SettingsFile) : Layer :=
  let lower := (file.map fun file => Layer.ofEntries file.path file.entries).getD []
  Layer.merge lower (Layer.ofEnvironment environment)

/-- The value for a field and its origin, if a layer has it. -/
def find? (environment : Environment) (file : Option SettingsFile) (field : Field) :
    Option (Value × Origin) :=
  ((layers environment file).lookup field.name.toList).map Tree.seen

/-- The value for a field is read in the field's way; the default holds if there is none. -/
def readField {α : Type} (found : Field → Option (Value × Origin)) (field : Field)
    (read : Value → Except Misfit α) (default : α) : Except Complaint α :=
  match found field with
  | none => .ok default
  | some (value, origin) => (read value).mapError fun misfit => ⟨misfit, field, origin⟩

def readText (expected : Expectation) (value : Value) : Except Misfit (Option String) :=
  (value.toText expected).map some

/-- All fields are read in the order of their names. -/
def extract (found : Field → Option (Value × Origin)) : Except Complaint Settings := do
  let defaults : Settings := {}
  let basePath ← readField found .basePath (readText .path) defaults.basePath
  let httpProxy ← readField found .httpProxy (readText .text) defaults.httpProxy
  let httpsProxy ← readField found .httpsProxy (readText .text) defaults.httpsProxy
  let maxBytes ← readField found .maxBytes (Value.toNatural .size) defaults.maxBytes
  let maxRedirects ← readField found .maxRedirects (Value.toNatural .word32) defaults.maxRedirects
  let maxRetries ← readField found .maxRetries (Value.toNatural .word32) defaults.maxRetries
  let namespaceName ← readField found .namespaceName (Value.toText .text) defaults.namespaceName
  let noProxy ← readField found .noProxy (readText .text) defaults.noProxy
  let proxy ← readField found .proxy (readText .text) defaults.proxy
  let retryBackoff ← readField found .retryBackoff (Value.toNatural .word64) defaults.retryBackoff
  let timeout ← readField found .timeout (Value.toNatural .word64) defaults.timeout
  let userAgent ← readField found .userAgent (Value.toText .text) defaults.userAgent
  return { basePath, namespaceName, userAgent, timeout, maxRetries, maxRedirects, retryBackoff,
           maxBytes, proxy, httpProxy, httpsProxy, noProxy }

/-- A proxy without a scheme is one for HTTP. -/
def withScheme (proxy : String) : String :=
  if hasScheme proxy.toList then proxy else "http://" ++ proxy

/-- Proxies that are not set are taken from the common variables, unless one proxy is set for
everything. So are the hosts that are reached directly. -/
def withCommonProxies (environment : Environment) (settings : Settings) : Settings :=
  let common (names : List String) : Option String :=
    (environment.firstFilled names).map withScheme
  { settings with
    httpProxy := if settings.proxy.isSome then settings.httpProxy
      else settings.httpProxy.or (common ["http_proxy", "HTTP_PROXY"])
    httpsProxy := if settings.proxy.isSome then settings.httpsProxy
      else settings.httpsProxy.or (common ["https_proxy", "HTTPS_PROXY"])
    noProxy := settings.noProxy.or (environment.firstFilled ["no_proxy", "NO_PROXY"]) }

/-- The settings from the environment and a file that has been read. -/
def ofSources (environment : Environment) (file : Option SettingsFile) :
    Except LoadFault Settings := do
  let extracted ← (extract (find? environment file)).mapError .misfit
  let settings := withCommonProxies environment extracted
  match settings.violation? with
  | some violation => throw (.invalid violation)
  | none => return settings

/-- The names on a path, those that lead back among them. -/
def pathNames (path : String) : List String :=
  ((Text.pieces (· == '/') path.toList).map String.ofList).filter fun name =>
    name ≠ "" ∧ name ≠ "."

/-- The names that lead from one place to another: back to where they part, and on from there. -/
def wayFrom : List String → List String → List String
  | start :: starts, name :: names =>
      if start = name then wayFrom starts names
      else ".." :: starts.map (fun _ => "..") ++ name :: names
  | starts, names => starts.map (fun _ => "..") ++ names

/-- A path from a place as it is shown in a directory: the shorter one of the way from there and
the way from the root. -/
def shownPath (start place : Place) (path : String) : String :=
  let names := place ++ pathNames path
  let way := wayFrom start names
  if way.length ≤ names.length then "/".intercalate way
  else Store.joinPath ("/" ++ "/".intercalate place) path

/-- The directories where a path may start: the given one and those above it, or the root alone. -/
def searched (start : Place) (path : String) : List Place :=
  if path.toList.head? = some '/' then [[]]
  else (List.range (start.length + 1)).reverse.map start.take

/-- The file that the environment names. One that is found nowhere counts as empty. -/
def settingsFile (environment : Environment) (disk : Disk) (start : Place) :
    Except LoadFault (Option SettingsFile) :=
  match environment.value? "FEEDGRAB_CONFIG_FILE" with
  | none => .ok none
  | some path =>
      match (searched start path).find? fun place => disk.isFile (Place.ofPath place path) with
      | none => .ok none
      | some place =>
          let content := disk.readFile? (Place.ofPath place path)
          match (content.bind String.fromUTF8?).bind Toml.read? with
          | none => .error .unreadable
          | some entries => .ok (some ⟨shownPath start place path, entries⟩)

/-- The settings of a run that starts in a directory. -/
def load (environment : Environment) (disk : Disk) (start : Place) : Except LoadFault Settings := do
  let file ← settingsFile environment disk start
  ofSources environment file

/-- The home directory: what the environment says, or else the account of the user. -/
def home (environment : Environment) (account : Option String) : Option String :=
  ((environment.value? "HOME").filter fun path => !path.isEmpty).or account

end FeedCache.Settings
