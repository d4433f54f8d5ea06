/-
This file makes one run over a feed.

The primary resource is fetched without the cache, and nothing else happens if that fails. The
secondary resources come from the cache; one that fails is reported and skipped. The cleanup
comes last.
-/
import FeedCache.Command.Failure
import FeedCache.Json.Writer
import FeedCache.Session.Basic

namespace FeedCache.Command

/-- What is reported of one resource. -/
structure Item where
  url : String
  /-- The number of bytes; nothing if there is no body. -/
  bytes : Option Nat
  file : Option String
  deriving DecidableEq, Repr

structure RunReport where
  session : String
  primary : Item
  secondary : List Item
  cleanup : Session.Report
  deriving DecidableEq, Repr

def Item.toJson (item : Item) : Json.Value :=
  .object ([("url", .text item.url), ("ok", .boolean item.bytes.isSome),
    ("bytes", .number (item.bytes.getD 0))] ++
    (item.file.map fun file => ("file", Json.Value.text file)).toList)

def cleanupJson (report : Session.Report) : Json.Value :=
  .object [("retained", .number report.retained),
    ("removed", .list (report.removed.map Json.Value.text))]

def RunReport.toJson (report : RunReport) : Json.Value :=
  .object [("session", .text report.session), ("primary", report.primary.toJson),
    ("secondary", .list (report.secondary.map Item.toJson)),
    ("cleanup", cleanupJson report.cleanup)]

/-- The URLs of an input, one on each line. Blank lines and comments are skipped. -/
def readUrls (input : ByteArray) : Except Failure (List String) :=
  match String.fromUTF8? input with
  | none => .error .unreadableInput
  | some text =>
      .ok (((Text.pieces (· == '\n') text.toList).map Text.trim).filterMap fun line =>
        match line with
        | [] | '#' :: _ => none
        | _ => some (String.ofList line))

/-- The file of the secondary resource at a place in the list. -/
def fileName (index : Nat) : String :=
  let digits := (toString index).toList
  String.ofList (List.replicate (4 - digits.length) '0' ++ digits) ++ ".body"

def primaryName : String := "primary.body"

/-- A body is written into the directory for bodies, if there is one. -/
def writeBody {State : Type} (world : World State) (directory : Option String) (name : String)
    (body : ByteArray) : Except Failure (Option String) × World State :=
  match directory with
  | none => (.ok none, world)
  | some directory =>
      let path := Store.joinPath directory name
      match world.disk.writeFile (world.place path) body with
      | .ok disk => (.ok (some path), { world with disk })
      | .error fault => (.error (.notWritten path fault), world)

/-- The directory for bodies is made, if there is one. -/
def makeDirectory {State : Type} (world : World State) (directory : Option String) :
    Except Failure Unit × World State :=
  match directory with
  | none => (.ok (), world)
  | some path =>
      match world.disk.makeDirectories (world.place path) with
      | .ok disk => (.ok (), { world with disk })
      | .error fault => (.error (.notCreated path fault), world)

/-- The secondary resources are looked up one after another. The first one has this place in the
list. -/
def lookUp {State : Type} (directory : Option String) (session : Session State) (index : Nat)
    (world : World State) (urls : List String) (device : Store.Device := .free) :
    Except Failure (List Item) × Session State × World State :=
  match urls with
  | [] => (.ok [], session, world)
  | url :: urls =>
      match session.getCached url world device with
      | (.error fault, session, world) => (.error (.session fault), session, world)
      | (.ok body, session, world) =>
          let (written, world) : Except Failure (Option String) × World State :=
            match body with
            | some bytes => writeBody world directory (fileName index) bytes
            | none => (.ok none, world)
          match written with
          | .error failure => (.error failure, session, world)
          | .ok file =>
              let (items, session, world) := lookUp directory session (index + 1) world urls device
              (items.map (⟨url, body.map ByteArray.size, file⟩ :: ·), session, world)

/-- A run in a session that has just been opened. -/
def grabIn {State : Type} (session : Session State) (primary : String) (secondary : List String)
    (directory : Option String) (world : World State) (device : Store.Device := .free) :
    Except Failure RunReport × World State :=
  match session.getUncached primary world with
  | (.error fault, _, world) => (.error (.session fault), world)
  | (.ok (.failed failure), _, world) => (.error (.noPrimary primary failure), world)
  | (.ok (.fetched page), session, world) =>
      match writeBody world directory primaryName page.body with
      | (.error failure, world) => (.error failure, world)
      | (.ok file, world) =>
          match lookUp directory session 0 world secondary device with
          | (.error failure, _, world) => (.error failure, world)
          | (.ok items, session, world) =>
              match session.cleanup world device with
              | (.error fault, _, world) => (.error (.session fault), world)
              | (.ok cleanup, session, world) =>
                  (.ok ⟨session.name, ⟨primary, some page.body.size, file⟩, items, cleanup⟩,
                    world)

/-- The input is read first, then the directory is made, then the session is opened. -/
def grabAll {State : Type} (session : Except Session.Fault (Session State)) (primary : String)
    (secondary : List String) (input : Option ByteArray) (directory : Option String)
    (world : World State) (device : Store.Device := .free) :
    Except Failure RunReport × World State :=
  match (input.map readUrls).getD (.ok []) with
  | .error failure => (.error failure, world)
  | .ok further =>
      match makeDirectory world directory with
      | (.error failure, world) => (.error failure, world)
      | (.ok (), world) =>
          match session with
          | .error fault => (.error (.session fault), world)
          | .ok session => grabIn session primary (secondary ++ further) directory world device

end FeedCache.Command
