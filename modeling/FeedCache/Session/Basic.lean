/-
This file says what a session is: cached fetching for one run over one feed.

A session has a store that is named after it and remembers each key that was asked for. Its
cleanup takes away what is stored but was not asked for.
-/
import FeedCache.Session.Fault
import FeedCache.Session.World
import FeedCache.Text.Lossy

namespace FeedCache

namespace Session

inductive Stage where
  | created
  | active
  | cleaned
  | closed
  deriving DecidableEq, Repr

/-- The result of a cleanup: the number of entries that are left, and the keys that went. -/
structure Report where
  retained : Nat := 0
  removed : List String := []
  deriving DecidableEq, Repr

end Session

structure Session (State : Type) where
  name : String
  storePath : String
  transport : Fetch.Transport State
  policy : Fetch.Policy
  /-- The keys that were asked for, each of them once. -/
  used : List String := []
  stage : Session.Stage := .created

namespace Session

/-- A session with a store below a base directory. The store need not exist yet. -/
def ofBase {State : Type} (name base : String) (transport : Fetch.Transport State)
    (policy : Fetch.Policy) : Except Fault (Session State) := do
  let storePath ← (Store.path base Store.defaultNamespace name).mapError .name
  return { name, storePath, transport, policy }

/-- A session as the settings say, with requests over a wire. -/
def ofSettings {State : Type} (name : String) (home : Option String) (settings : Settings)
    (wire : Http.Wire State) : Except Fault (Session State) := do
  let storePath ← (settings.storePath home name).mapError .ofPlace
  let client ← (Http.Client.ofSettings settings).mapError .client
  return { name, storePath, transport := client.transport wire,
           policy := .ofSettings settings }

/-- What an operation answers, with the session and the world as it leaves them. -/
abbrev Step (State α : Type) := Except Fault α × Session State × World State

def isClosed {State : Type} (session : Session State) : Bool := session.stage == .closed

/-- A key is asked for. -/
def ask {State : Type} (session : Session State) (key : String) : Session State :=
  { session with
    used := if session.used.contains key then session.used else session.used ++ [key]
    stage := .active }

/-- The operation is refused once the session is closed. -/
def whileOpen {State α : Type} (session : Session State) (world : World State)
    (act : Step State α) : Step State α :=
  if session.isClosed then (.error (.closed session.name), session, world) else act

/-- An operation on the session's store alone. -/
def useStore {State α : Type} (session : Session State) (world : World State)
    (act : Store.Database → Except Store.Fault (α × Store.Database))
    (device : Store.Device := .free) : Step State α :=
  let (answer, world) := world.useStore session.storePath act device
  (answer.mapError .store, session, world)

/-- The stored body of a key. A key without an entry is fetched, and the outcome is stored, a
failure too. A stored failure has no body. -/
def getCached {State : Type} (session : Session State) (key : String) (world : World State)
    (device : Store.Device := .free) : Step State (Option ByteArray) :=
  session.whileOpen world <|
    let session := session.ask key
    match session.useStore world (fun database => return (← database.get key, database)) device with
    | (.error fault, session, world) => (.error fault, session, world)
    | (.ok (some payload), session, world) => (.ok payload.body?, session, world)
    | (.ok none, session, world) =>
        let (outcome, world) := world.fetch session.transport session.policy key
        let payload := outcome.payload
        session.useStore world
          (fun database =>
            return (payload.body?, ← database.put key payload world.timeOfDay device))
          device

/-- The stored body of a key as a text, whatever its bytes are. -/
def getText {State : Type} (session : Session State) (key : String) (world : World State)
    (device : Store.Device := .free) : Step State (Option String) :=
  let (answer, session, world) := session.getCached key world device
  (answer.map fun body => body.map Text.lossyText, session, world)

/-- A fetch without the store. The key does not count as asked for. -/
def getUncached {State : Type} (session : Session State) (key : String) (world : World State) :
    Step State Fetch.Outcome :=
  session.whileOpen world <|
    let (outcome, world) := world.fetch session.transport session.policy key
    (.ok outcome, { session with stage := .active }, world)

/-- The stored keys that were not asked for are taken away. -/
def evict (used : List String) (database : Store.Database) (device : Store.Device := .free) :
    Except Store.Fault (Report × Store.Database) := do
  let unused := (← database.keys).filter fun key => !used.contains key
  let (_, database) ← database.deleteKeys unused device
  return (⟨← database.size, unused⟩, database)

/-- What is stored but was not asked for is taken away, all of it or nothing. -/
def cleanup {State : Type} (session : Session State) (world : World State)
    (device : Store.Device := .free) : Step State Report :=
  session.whileOpen world <|
    match session.useStore world (evict session.used · device) device with
    | (.ok report, session, world) => (.ok report, { session with stage := .cleaned }, world)
    | (.error fault, session, world) => (.error fault, session, world)

/-- Everything in the store, in increasing order of the keys. -/
def entries {State : Type} (session : Session State) (world : World State)
    (device : Store.Device := .free) : Step State (List Store.Summary) :=
  session.whileOpen world <|
    session.useStore world (fun database => return (← database.summaries, database)) device

/-- The session ends. A second end changes nothing. -/
def close {State : Type} (session : Session State) : Session State :=
  { session with stage := .closed }

end Session

end FeedCache
