/-
This file says what a session sees when it opens its store, and what an operation makes of it.

Main statements: every use of a store answers what the opened store says, and a cached fetch either
finds what is known of its key or adds what it has fetched.
-/
import FeedCache.Proofs.Session.Answering

namespace FeedCache

namespace World
open Store (Database Payload)

variable {State α : Type} (world : World State) (path : String)

/-- A store that is used answers what the use says of the opened store. -/
theorem useStore_answer (act : Database → Except Store.Fault (α × Database)) :
    (world.useStore path act).1 =
      (world.opened path).bind fun database => (act database).map Prod.fst := by
  simp only [World.useStore, Disk.useStore, World.opened]
  rcases world.disk.openStore world.start path with ⟨fault | database, disk⟩
  · rfl
  · simp only [Disk.changeStore, Except.bind]
    cases act database <;> rfl

/-- A store opens after a use as the use has left it, and as it was if the use has failed. -/
theorem useStore_opened (act : Database → Except Store.Fault (α × Database))
    (keeps : ∀ database answer changed, act database = .ok (answer, changed) →
      changed.versions = database.versions) :
    (world.useStore path act).2.opened path =
      (world.opened path).map fun database =>
        (act database).toOption.elim database Prod.snd := by
  obtain ⟨-, readied⟩ := world.disk.openStore_spec world.start path
  have again := @Disk.openStore_failed world.disk world.start path
  simp only [World.useStore, Disk.useStore, World.opened]
  generalize world.disk.openStore world.start path = opening at readied again
  obtain ⟨outcome, disk⟩ := opening
  cases outcome with
  | error fault => exact again rfl
  | ok database =>
      have ready := readied database rfl
      simp only [Disk.changeStore]
      cases acted : act database with
      | error fault =>
          simp only [Disk.openStore_ready ready]
          simp [Except.map, acted, Except.toOption]
      | ok result =>
          have changed := ready.change (keeps database result.1 result.2 acted)
          simp only [Disk.openStore_ready changed]
          simp [Except.map, acted, Except.toOption]

/-- A reading answers what is read in the opened store, and leaves the store as it was. -/
theorem useStore_reading (read : Database → Except Store.Fault α) :
    ∃ disk, world.useStore path (fun database => return (← read database, database)) =
        ((world.opened path).bind read, { world with disk }) ∧
      { world with disk }.opened path = world.opened path ∧
      { world with disk }.table path = world.table path := by
  have same (database : Database) :
      (do return (← read database, database) : Except Store.Fault (α × Database)) =
        (read database).map fun value => (value, database) := by
    cases read database <;> rfl
  have answer := world.useStore_answer path fun database => return (← read database, database)
  have opened := world.useStore_opened path
    (fun database => return (← read database, database))
    fun database value changed acted => by
      rw [same] at acted
      obtain ⟨found, -, equal⟩ := map_eq_ok.1 acted
      cases equal
      rfl
  have step := world.disk.useStore_step world.start path
    fun database => return (← read database, database)
  refine ⟨_, Prod.ext (answer.trans ?_) rfl, opened.trans ?_, ?_⟩
  · congr 1
    funext database
    rw [same]
    cases read database <;> rfl
  · simp only [same]
    cases world.opened path with
    | error fault => rfl
    | ok database =>
        rw [Except.map]
        cases read database <;> rfl
  · show (world.disk.useStore world.start path _).2.table (world.place path) = world.table path
    generalize world.disk.useStore world.start path
      (fun database => return (← read database, database)) = result at step
    cases step with
    | failed kept reason => exact kept
    | done opening ready held acted =>
        rw [same] at acted
        obtain ⟨value, -, equal⟩ := map_eq_ok.1 acted
        cases equal
        exact (ready.change rfl).table.trans held.symm

/-- A payload is added to what the opened store has. -/
theorem useStore_put {database : Database} {table : Store.Table}
    (opening : world.opened path = .ok database) (present : database.entries = some table)
    (answer : α) (key : String) (payload : Payload) (time : String) :
    ∃ disk, world.useStore path (fun database =>
          return (answer, ← database.put key payload time)) = (.ok answer, { world with disk }) ∧
      { world with disk }.opened path =
        .ok { database with entries := some (table.insert (payload.toRow key time)) } := by
  have stored (other : Database) : other.put key payload time = other.table.map fun table =>
      { other with entries := some (table.insert (payload.toRow key time)) } := by
    rw [Database.put]
    cases other.table <;> rfl
  have table := Store.Database.table_eq_ok.2 present
  have opened := world.useStore_opened path
    (fun database => return (answer, ← database.put key payload time))
    fun other value changed acted => by
      obtain ⟨after, put, equal⟩ := bind_eq_ok.1 acted
      cases equal
      rw [stored] at put
      obtain ⟨found, -, rfl⟩ := map_eq_ok.1 put
      rfl
  refine ⟨_, Prod.ext ((world.useStore_answer path _).trans ?_) rfl, opened.trans ?_⟩
  · rw [opening, Except.bind, stored, table]
    rfl
  · rw [opening, Except.map, stored, table]
    rfl

/-- What the store has for a key when it is opened. -/
def lookUp (key : String) : Except Store.Fault (Option Payload) :=
  (world.opened path).bind fun database => database.get key

end World

namespace Session
open Store (Database Key Table Payload)

variable {State : Type}

/-- What a cached fetch in an open session does with what the store has for its key. It answers
that, be it a fault, and adds what it has fetched if there was nothing. -/
inductive Looked (session : Session State) (key : String) (world : World State) :
    Step State (Option ByteArray) → Prop
  | known (found : Except Store.Fault Payload) {after : World State}
      (present : world.lookUp session.storePath key = found.map some)
      (quiet : after = { world with disk := after.disk })
      (opened : after.opened session.storePath = world.opened session.storePath)
      (kept : after.table session.storePath = world.table session.storePath) :
      Looked session key world
        ((found.map Payload.body?).mapError .store, session.ask key, after)
  | fetched {database : Database} {table : Table} {after : World State}
      (opening : world.opened session.storePath = .ok database)
      (present : database.entries = some table)
      (absent : table.find? (.text key) = none)
      (requested : after =
        { (world.fetch session.transport session.policy key).2 with disk := after.disk })
      (added : after.opened session.storePath = .ok { database with
        entries := some (table.insert
          ((world.fetch session.transport session.policy key).1.payload.toRow key
            world.timeOfDay)) }) :
      Looked session key world
        (.ok (world.fetch session.transport session.policy key).1.payload.body?,
          session.ask key, after)

theorem getCached_looked {session : Session State} (unclosed : ¬session.isClosed) (key : String)
    (world : World State) : session.Looked key world (session.getCached key world) := by
  obtain ⟨disk, read, opened, kept⟩ := world.useStore_reading session.storePath fun database =>
    database.get key
  have path : (session.ask key).storePath = session.storePath := rfl
  have looked : (world.opened session.storePath).bind (fun database => database.get key) =
    world.lookUp session.storePath key := rfl
  rw [looked] at read
  rw [getCached, whileOpen, if_neg unclosed]
  simp only [useStore, path, read]
  cases found : world.lookUp session.storePath key with
  | error fault => exact .known (.error fault) found rfl opened kept
  | ok payload? =>
      cases payload? with
      | some payload => exact .known (.ok payload) found rfl opened kept
      | none =>
          obtain ⟨database, opening, nothing⟩ := bind_eq_ok.1 found
          obtain ⟨table, present, absent⟩ := Store.Database.get_eq_none.1 nothing
          obtain ⟨rewritten, stored, added⟩ :=
            ({ world with disk }.fetch session.transport session.policy key).2.useStore_put
              session.storePath (opened.trans opening) present
              (world.fetch session.transport session.policy key).1.payload.body? key
              (world.fetch session.transport session.policy key).1.payload world.timeOfDay
          have step := Looked.fetched opening present absent rfl added
          exact (congrArg (fun used => Looked session key world
            (used.1.mapError .store, session.ask key, used.2)) stored).mpr step

end Session

end FeedCache
