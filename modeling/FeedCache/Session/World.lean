/-
This file holds what sessions act on: the disk, the network and the time.
-/
import FeedCache.Disk.Stores
import FeedCache.Fetch.Run

namespace FeedCache

structure World (State : Type) where
  disk : Disk
  /-- The directory where relative paths start. -/
  start : Place
  /-- The state of the transport. -/
  network : State
  /-- The requests that were made, in order. -/
  requests : List Url := []
  /-- The time that has passed, in milliseconds. -/
  clock : Nat := 0
  /-- The time of day that is recorded with entries. -/
  timeOfDay : String := ""

namespace World

def place {State : Type} (world : World State) (path : String) : Place :=
  Place.ofPath world.start path

def exists? {State : Type} (world : World State) (path : String) : Bool :=
  world.disk.exists? (world.place path)

/-- A text is fetched over a transport, which leaves its requests and its time in the world. -/
def fetch {State : Type} (world : World State) (transport : Fetch.Transport State)
    (policy : Fetch.Policy) (text : String) : Fetch.Outcome × World State :=
  let run := Fetch.run transport policy text world.network
  (run.outcome,
    { world with
      network := run.state
      requests := world.requests ++ run.requests
      clock := world.clock + run.elapsed })

/-- The store at a path is opened, used and closed. -/
def useStore {State α : Type} (world : World State) (path : String)
    (act : Store.Database → Except Store.Fault (α × Store.Database))
    (device : Store.Device := .free) : Except Store.Fault α × World State :=
  let (answer, disk) := world.disk.useStore world.start path act device
  (answer, { world with disk })

end World

end FeedCache
