/-
This file is the command line program.

A run is computed over what is known of the network. As long as a request is missing, it is sent,
and the run is computed again with what came back. The files that the run has changed are written
at the end.
-/
import FeedCache.Command.Run
import FeedCache.Http.Message
import FeedCache.Http.Tape
import FeedCache.Store.Image
import Std.Async.DNS
import Std.Async.Select
import Std.Async.TCP
import Std.Async.Timer
import Std.Time.Format

namespace FeedCache.Main
open Http

/-! The surroundings of the program. -/

/-- The variables of the environment, from the list that the system keeps. -/
def readEnvironment : IO Environment := do
  let listed ← try IO.FS.readBinFile "/proc/self/environ" catch _ => pure .empty
  let entries := Text.pieces (· == '\x00') (Text.lossyText listed).toList
  return entries.filterMap fun entry =>
    match entry.dropWhile (· != '=') with
    | [] => none
    | _ :: value => some (String.ofList (entry.takeWhile (· != '=')), String.ofList value)

/-- The field of a table whose fields lie between colons, in the first line where another field has
a given text. -/
def fieldOf (table : List Char) (column : Nat) (text : List Char) (wanted : Nat) :
    Option String := do
  let rows := (Text.pieces (· == '\n') table).map (Text.pieces (· == ':'))
  let row ← rows.find? fun row => row[column]? == some text
  return String.ofList (← row[wanted]?)

/-- The home directory of the user whose number the system says. -/
def readAccount : IO (Option String) := do
  let read (path : String) : IO (List Char) := do
    let content ← try IO.FS.readBinFile path catch _ => pure .empty
    return (Text.lossyText content).toList
  let numbers := fieldOf (← read "/proc/self/status") 0 "Uid".toList 1
  let number := (numbers.map fun text => (Text.trim text.toList).takeWhile (· != '\t')).getD []
  return fieldOf (← read "/etc/passwd") 2 number 5

def readTimeOfDay : IO String := do
  let moment ← Std.Time.Timestamp.now
  return (Std.Time.DateTime.ofTimestamp moment .UTC).format "uuuu-MM-dd'T'HH:mm:ss.SSSSSSSSSxxx"

/-! Files. -/

def pathOf (place : Place) : String := "/" ++ "/".intercalate place

/-- The number of the system for a file that is a directory. -/
def directoryCode : UInt32 := 21

/-- A file is a store if it holds the image of one. -/
def nodeOf (content : ByteArray) : Node :=
  match (String.fromUTF8? content).bind Store.Database.ofImage? with
  | some database => .store database
  | none => .file content

def probe (place : Place) : IO (Option Node) := do
  try
    return some (nodeOf (← IO.FS.readBinFile (pathOf place)))
  catch
    | .inappropriateType _ code _ =>
        return if code = directoryCode then some .directory else none
    | _ => return none

/-- What is at a place and on the way to it. -/
def look (disk : Disk) (place : Place) : IO Disk :=
  (List.range place.length).foldlM
    (fun disk count => do
      let part := place.take (count + 1)
      match ← probe part with
      | some node => return disk.set part node
      | none => return disk)
    disk

/-- The paths at which a command may find something. -/
def pathsOf (command : Command) (settings : Settings) (home : Option String) (input : ByteArray) :
    List String :=
  let store (session : String) : List String := (settings.storePath home session).toOption.toList
  match command with
  | .grab session _ secondary _ directory =>
      let count := secondary.length + ((Command.readUrls input).toOption.getD []).length
      let names := Command.primaryName :: (List.range count).map Command.fileName
      let files := directory.toList.flatMap fun directory =>
        names.map (Store.joinPath directory)
      store session ++ directory.toList ++ files
  | .get session _ | .keys session | .purge session => store session
  | .fetch _ => []

/-- What a run has left at a place. -/
def writeNode (place : Place) (node : Node) : IO Unit :=
  match node with
  | .directory => IO.FS.createDirAll (pathOf place)
  | .file content => IO.FS.writeBinFile (pathOf place) content
  | .store database => IO.FS.writeFile (pathOf place) database.image

/-- Directories are written before what lies in them. -/
def writeChanges (before after : Disk) : IO Unit := do
  let changed := after.nodes.filter fun (place, node) => before.node? place != some node
  for (place, node) in changed.mergeSort fun first second => first.1.length ≤ second.1.length do
    writeNode place node

/-! The network. -/

/-- The host and the port that a request is sent to; nothing if it cannot be sent. -/
def peer? (request : Request) : Option (String × UInt16) := do
  let url ← match request.route with
    | .direct => some request.url
    | .through proxy => proxy.url?
    | .tunnel _ => none
  if url.scheme = .https then none
  else
    let host := url.host.toList.filter fun c => c != '[' && c != ']'
    some (String.ofList host, portOf url)

/-- The bytes that come until the connection is closed; nothing if that takes too long. -/
partial def receiveAll (socket : Std.Async.TCP.Socket.Client) (deadline : Nat)
    (received : ByteArray) : Std.Async.Async (Option ByteArray) := do
  let left := deadline - (← IO.monoMsNow)
  let step ← Std.Async.Selectable.one #[
    .case (socket.recvSelector 65536) fun bytes => return some bytes,
    .case (← Std.Async.Selector.sleep (.ofNat left)) fun _ => return none]
  match step with
  | some (some bytes) => receiveAll socket deadline (received ++ bytes)
  | some none => return some received
  | none => return none

/-- What comes back for a message to a host. -/
def converse (host : String) (port : UInt16) (message : ByteArray) (deadline : Nat) :
    Std.Async.Async (Option ByteArray) := do
  let addresses ← Std.Async.DNS.getAddrInfo host (toString port.toNat)
  let some address := addresses[0]? | throw (.userError "no address")
  let socket ← Std.Async.TCP.Socket.Client.mk
  socket.connect (match address with
    | .v4 address => .v4 ⟨address, port⟩
    | .v6 address => .v6 ⟨address, port⟩)
  socket.send message
  receiveAll socket deadline .empty

/-- A request is sent and answered, within a time in milliseconds. -/
def carry (request : Request) (timeout : Nat) : IO (Nat × Exchange) := do
  match peer? request with
  | none => return (0, .unanswered)
  | some (host, port) =>
      let start ← IO.monoMsNow
      let exchange ← try
          match ← (converse host port request.bytes (start + timeout)).block with
          | some bytes => pure (Exchange.ofBytes bytes)
          | none => pure .timedOut
        catch _ => pure .unanswered
      let elapsed := (← IO.monoMsNow) - start
      return (if exchange = .timedOut then timeout else elapsed, exchange)

/-- The run is computed until no request is missing. There is a pause after an exchange that has
timed out. -/
partial def play (call : Command.Call) (policy : Fetch.Policy) (world : World Tape)
    (exchanges : List (Nat × Exchange)) : IO (Command.Exit × World Tape) := do
  let (exit, after) := Command.run Tape.wire call
    { world with network := ⟨exchanges, none⟩ } .standard
  match after.network.missing with
  | none => return (exit, after)
  | some request =>
      if exchanges.getLast?.any fun exchange => exchange.2 == .timedOut then
        IO.sleep (UInt32.ofNat policy.retryBackoff)
      let exchange ← carry request policy.timeout
      play call policy world (exchanges ++ [exchange])

/-- The command that the arguments name, with the settings that it is run with. -/
def prepare (call : Command.Call) (world : World Tape) : Option (Command × Settings) := do
  let invocation ← call.invocation.toOption
  let settings ← (Command.settingsOf call.environment invocation.basePath world).toOption
  return (invocation.command, settings)

def readsInput : Command → Bool
  | .grab _ _ _ fromInput _ => fromInput
  | _ => false

def run (arguments : List String) : IO Command.Exit := do
  let environment ← readEnvironment
  let start := Place.ofPath [] (← IO.currentDir).toString
  let settingsPlaces := (environment.value? "FEEDGRAB_CONFIG_FILE").toList.flatMap fun path =>
    (Settings.searched start path).map fun place => Place.ofPath place path
  let disk ← (start :: settingsPlaces).foldlM look .empty
  let call : Command.Call := { arguments, environment, account := ← readAccount }
  let world : World Tape :=
    { disk, start, network := ⟨[], none⟩, timeOfDay := ← readTimeOfDay }
  match prepare call world with
  | none => return (Command.run Tape.wire call world .standard).1
  | some (command, settings) =>
      let input ← if readsInput command then (← IO.getStdin).readBinToEnd else pure .empty
      let paths := pathsOf command settings call.home input
      let before ← (paths.map (Place.ofPath start)).foldlM look disk
      let (exit, after) ← play { call with input } (.ofSettings settings)
        { world with disk := before } []
      writeChanges before after.disk
      return exit

end FeedCache.Main

def main (arguments : List String) : IO UInt32 := do
  let exit ← FeedCache.Main.run arguments
  let output ← IO.getStdout
  output.write exit.output
  output.flush
  (← IO.getStderr).putStr exit.error
  return UInt32.ofNat exit.code
