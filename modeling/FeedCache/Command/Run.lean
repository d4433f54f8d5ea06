/-
This file runs a command: it reads the arguments and the settings, and says what is printed.
-/
import FeedCache.Command.Arguments
import FeedCache.Command.Grab

namespace FeedCache.Command

/-- The end of a run: its code and what it prints. -/
structure Exit where
  code : Nat
  output : ByteArray := .empty
  error : String := ""
  deriving DecidableEq

/-- All that a run is given: its arguments, its environment and its input. -/
structure Call where
  arguments : List String
  environment : Environment
  input : ByteArray := .empty
  /-- The home directory of the user's account. -/
  account : Option String := none
  /-- The words among the arguments that stand for bytes which are no text. -/
  garbled : List String := []

def Call.home (call : Call) : Option String := Settings.home call.environment call.account

def summaryJson (summary : Store.Summary) : Json.Value :=
  .object [("key", .text summary.key), ("size", .number summary.size),
    ("failed", .boolean summary.failed), ("stored_at", .text summary.storedAt)]

/-- A report with the end of its last line. -/
def jsonBytes (value : Json.Value) : ByteArray := (value.toString ++ "\n").toUTF8

/-- One resource is printed as it was fetched. -/
def fetchBody {State : Type} (settings : Settings) (wire : Http.Wire State) (url : String)
    (world : World State) : Except Failure ByteArray × World State :=
  match Http.Client.ofSettings settings with
  | .error fault => (.error (.session (.client fault)), world)
  | .ok client =>
      match world.fetch (client.transport wire) (.ofSettings settings) url with
      | (.fetched page, world) => (.ok page.body, world)
      | (.failed failure, world) => (.error (.notFetched url failure), world)

/-- One resource is printed from the cache. -/
def getBody {State : Type} (session : Session State) (url : String) (world : World State)
    (device : Store.Device := .free) : Except Failure ByteArray × World State :=
  match session.getCached url world device with
  | (.error fault, _, world) => (.error (.session fault), world)
  | (.ok none, _, world) => (.error (.noResult url), world)
  | (.ok (some body), _, world) => (.ok body, world)

/-- The entries of a store are listed. A store that is not there has none, and is not made. -/
def listEntries {State : Type} (session : Session State) (world : World State)
    (device : Store.Device := .free) : Except Failure (List Store.Summary) × World State :=
  if world.exists? session.storePath then
    match session.entries world device with
    | (.error fault, _, world) => (.error (.session fault), world)
    | (.ok entries, _, world) => (.ok entries, world)
  else (.ok [], world)

/-- A cleanup with nothing asked for. A store that is not there is not made. -/
def purgeStore {State : Type} (session : Session State) (world : World State)
    (device : Store.Device := .free) : Except Failure Session.Report × World State :=
  if world.exists? session.storePath then
    match session.cleanup world device with
    | (.error fault, _, world) => (.error (.session fault), world)
    | (.ok report, _, world) => (.ok report, world)
  else (.ok {}, world)

def purgeText (session : String) (report : Session.Report) : String :=
  if report.removed.isEmpty then "Nothing stored for " ++ session ++ ".\n"
  else "Removed " ++ toString report.removed.length ++ " entries from " ++ session ++ ".\n"

/-- The words of a command that must be texts. -/
def words : Command → List String
  | .grab session primary secondary _ _ => session :: primary :: secondary
  | .get session url => [session, url]
  | .fetch url => [url]
  | .keys session | .purge session => [session]

/-- A report is printed. The paths of its files are in it, which must be texts. -/
def printReport (garbled : List String) (directory : Option String) (report : RunReport) :
    Except Failure ByteArray :=
  if directory.any garbled.contains then .error .unprintable else .ok (jsonBytes report.toJson)

/-- What a command prints, with the world as it leaves it. -/
def perform {State : Type} (command : Command) (settings : Settings) (wire : Http.Wire State)
    (call : Call) (world : World State) (device : Store.Device := .free) :
    Except Failure ByteArray × World State :=
  let opened (name : String) : Except Session.Fault (Session State) :=
    Session.ofSettings name call.home settings wire
  let within {α : Type} (name : String) (print : α → ByteArray)
      (act : Session State → Except Failure α × World State) :
      Except Failure ByteArray × World State :=
    match opened name with
    | .error fault => (.error (.session fault), world)
    | .ok session =>
        let (answer, world) := act session
        (answer.map print, world)
  match command with
  | .grab session primary secondary fromInput outDirectory =>
      let (report, world) := grabAll (opened session) primary secondary
        (if fromInput then some call.input else none) outDirectory world device
      (report.bind (printReport call.garbled outDirectory), world)
  | .get session url => within session id fun session => getBody session url world device
  | .fetch url => fetchBody settings wire url world
  | .keys session =>
      within session (fun entries => jsonBytes (.list (entries.map summaryJson)))
        fun session => listEntries session world device
  | .purge session =>
      within session (fun report => (purgeText session report).toUTF8)
        fun session => purgeStore session world device

/-- The settings of a run; the arguments may name another base directory. -/
def settingsOf {State : Type} (environment : Environment) (basePath : Option String)
    (world : World State) : Except Failure Settings := do
  let settings ← (Settings.load environment world.disk world.start).mapError .settings
  return { settings with basePath := basePath.or settings.basePath }

def versionText : String := "feedgrab 0.1.0\n"

/-- What is printed of the usage of the program is left out. -/
def Stop.exit : Stop → Exit
  | .misuse => { code := 2 }
  | .version => { code := 0, output := versionText.toUTF8 }
  | .help => { code := 0 }

/-- What the arguments ask for; all words of a command must be texts. -/
def Call.invocation (call : Call) : Except Stop Invocation := do
  let invocation ← Invocation.ofArguments call.arguments
  if invocation.command.words.any call.garbled.contains then throw .misuse
  return invocation

/-- The settings are read after the arguments and before the command is run. -/
def run {State : Type} (wire : Http.Wire State) (call : Call) (world : World State)
    (device : Store.Device := .free) : Exit × World State :=
  match call.invocation with
  | .error stop => (stop.exit, world)
  | .ok invocation =>
      match settingsOf call.environment invocation.basePath world with
      | .error failure => ({ code := 1, error := failure.text }, world)
      | .ok settings =>
          match perform invocation.command settings wire call world device with
          | (.ok output, world) => ({ code := 0, output }, world)
          | (.error failure, world) => ({ code := 1, error := failure.text }, world)

end FeedCache.Command
