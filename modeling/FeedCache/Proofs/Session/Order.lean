/-
This file asks for keys in different orders, and for some of them again and again.

Main statement: over a constant transport neither the order of the keys nor their repetition changes
an answer, what a cleanup leaves and reports, or how often something is requested.
-/
import FeedCache.Proofs.Fetch.Constant
import FeedCache.Proofs.Session.Opened

namespace FeedCache.Session
open Store (Row Key Table Payload Database)

variable {State : Type}

/-- A key that is asked for, and the time of day at which it is. -/
structure Asking where
  key : String
  timeOfDay : String

/-- Keys are asked for one after another. The answers are listed in their order. -/
def askAll (session : Session State) :
    List Asking → World State → List (Except Fault (Option ByteArray)) × Session State × World State
  | [], world => ([], session, world)
  | asking :: rest, world =>
      let (answer, session, world) :=
        session.getCached asking.key { world with timeOfDay := asking.timeOfDay }
      let (answers, session, world) := session.askAll rest world
      (answer :: answers, session, world)

/-- The payload that is stored for a key if it is fetched. -/
def fetchedPayload (session : Session State) (world : World State) (key : String) : Payload :=
  (Fetch.run session.transport session.policy key world.network).outcome.payload

/-- The requests that are made for a key if it is fetched. -/
def fetchRequests (session : Session State) (world : World State) (key : String) : List Url :=
  (Fetch.run session.transport session.policy key world.network).requests

/-- The answer to a key: what the store has for it, or what is fetched. -/
def answerFor (session : Session State) (world : World State) (key : String) :
    Except Fault (Option ByteArray) :=
  ((world.lookUp session.storePath key).map fun found =>
    (found.getD (session.fetchedPayload world key)).body?).mapError .store

/-- What asking for keys has led to, if some of them were fetched. -/
structure Asked (session : Session State) (world : World State) (keys fetched : List String)
    (later : Session State) (after : World State) : Prop where
  frame : later = { session with used := later.used, stage := later.stage }
  unclosed : ¬later.isClosed
  used : ∀ key, key ∈ later.used ↔ key ∈ session.used ∨ key ∈ keys
  nodup : fetched.Nodup
  unknown : ∀ key, key ∈ fetched ↔ key ∈ keys ∧ world.lookUp session.storePath key = .ok none
  requests : after.requests =
    world.requests ++ fetched.flatMap (session.fetchRequests world)
  opened : after.opened session.storePath = (world.opened session.storePath).map fun database =>
    { database with entries := database.entries.map fun _ => after.table session.storePath }
  added : ∀ key ∈ fetched, ((after.table session.storePath).find? (.text key)).map Row.payload =
    some (.ok (session.fetchedPayload world key))
  kept : ∀ key, key ∉ fetched.map Key.text →
    (after.table session.storePath).find? key = (world.table session.storePath).find? key

namespace Asked

variable {session later : Session State} {world after : World State} {keys fetched : List String}

/-- What was fetched is known from then on, and nothing else has changed. -/
theorem lookUp (asked : session.Asked world keys fetched later after) (key : String) :
    after.lookUp session.storePath key =
      if key ∈ fetched then .ok (some (session.fetchedPayload world key))
      else world.lookUp session.storePath key := by
  rw [World.lookUp, asked.opened]
  by_cases new : key ∈ fetched
  · obtain ⟨database, opening, nothing⟩ := bind_eq_ok.1 ((asked.unknown key).1 new).2
    obtain ⟨table, present, -⟩ := Database.get_eq_none.1 nothing
    rw [if_pos new, opening, Except.map, Except.bind, present, Option.map_some,
      Database.get_of_entries rfl, asked.added key new]
    rfl
  · have same := asked.kept (.text key)
      (by rwa [List.mem_map_of_injective Store.Key.text_injective])
    rw [if_neg new, World.lookUp]
    cases opening : world.opened session.storePath with
    | error fault => rfl
    | ok database =>
        have held : world.table session.storePath = database.entries.getD .empty :=
          Disk.openStore_entries opening
        rw [Except.map, Except.bind, Except.bind]
        cases present : database.entries with
        | none => rw [Database.get, Database.get, Database.table, Database.table, present]; rfl
        | some table =>
            rw [held, present] at same
            rw [Option.map_some, Database.get_of_entries rfl, Database.get_of_entries present, same]
            rfl

theorem storePath (asked : session.Asked world keys fetched later after) :
    later.storePath = session.storePath := by
  rw [asked.frame]

/-- A key is fetched alike at all times. -/
theorem fetch (asked : session.Asked world keys fetched later after)
    (constant : session.transport.IsConstant) (moment : World State) (key : String) :
    (moment.fetch later.transport later.policy key).1.payload = session.fetchedPayload world key ∧
      (moment.fetch later.transport later.policy key).2.requests =
        moment.requests ++ session.fetchRequests world key := by
  obtain ⟨outcome, requests⟩ := Fetch.run_constant constant session.policy key moment.network
    world.network
  have transport : later.transport = session.transport := by rw [asked.frame]
  have policy : later.policy = session.policy := by rw [asked.frame]
  rw [transport, policy]
  exact ⟨congrArg Fetch.Outcome.payload outcome, congrArg (moment.requests ++ ·) requests⟩

theorem ask (asked : session.Asked world keys fetched later after) (key : String) :
    later.ask key = { session with used := (later.ask key).used, stage := (later.ask key).stage } ∧
      ¬(later.ask key).isClosed ∧
      ∀ other, other ∈ (later.ask key).used ↔ other ∈ session.used ∨ other ∈ keys ++ [key] := by
  have framed : later.ask key =
      { later with used := (later.ask key).used, stage := (later.ask key).stage } := rfl
  refine ⟨framed.trans (by rw [asked.frame]), Bool.false_ne_true, fun other => ?_⟩
  rw [mem_ask, asked.used, List.mem_append, or_assoc]

/-- A key that is known is answered without a fetch. -/
theorem known (asked : session.Asked world keys fetched later after) {key : String}
    {found : Except Store.Fault Payload} {next : World State}
    (present : after.lookUp session.storePath key = found.map some)
    (quiet : next.requests = after.requests)
    (opened : next.opened session.storePath = after.opened session.storePath)
    (kept : next.table session.storePath = after.table session.storePath) :
    (found.map Payload.body?).mapError .store = session.answerFor world key ∧
      session.Asked world (keys ++ [key]) fetched (later.ask key) next := by
  obtain ⟨frame, unclosed, used⟩ := asked.ask key
  have unknown := asked.unknown key
  rw [asked.lookUp] at present
  constructor
  · rw [answerFor]
    by_cases new : key ∈ fetched
    · rw [if_pos new] at present
      rw [(unknown.1 new).2]
      cases found with
      | error fault => cases present
      | ok payload =>
          cases present
          rfl
    · rw [if_neg new] at present
      rw [present]
      cases found <;> rfl
  · have old (nothing : world.lookUp session.storePath key = .ok none) : key ∈ fetched := by
      by_contra new
      rw [if_neg new, nothing] at present
      cases found <;> cases present
    exact {
      frame
      unclosed
      used
      nodup := asked.nodup
      unknown := fun other => by
        constructor
        · intro fetchedOnce
          obtain ⟨listed, nothing⟩ := (asked.unknown other).1 fetchedOnce
          exact ⟨List.mem_append_left _ listed, nothing⟩
        · rintro ⟨listed, nothing⟩
          rcases List.mem_append.1 listed with early | last
          · exact (asked.unknown other).2 ⟨early, nothing⟩
          · rw [List.mem_singleton.1 last] at nothing ⊢
            exact old nothing
      requests := quiet.trans asked.requests
      opened := by rw [opened, asked.opened, kept]
      added := fun other member => by
        rw [kept]
        exact asked.added other member
      kept := fun other others => by
        rw [kept]
        exact asked.kept other others }

/-- A key that is not known is fetched and stored. -/
theorem learned (asked : session.Asked world keys fetched later after) {key : String}
    {database : Database} {table : Table} {next : World State}
    (opening : after.opened session.storePath = .ok database)
    (present : database.entries = some table) (absent : table.find? (.text key) = none)
    {row : Row} (named : row.key = .text key)
    (stored : row.payload = .ok (session.fetchedPayload world key))
    (requested : next.requests = after.requests ++ session.fetchRequests world key)
    (added : next.opened session.storePath =
      .ok { database with entries := some (table.insert row) }) :
    .ok (session.fetchedPayload world key).body? = session.answerFor world key ∧
      session.Asked world (keys ++ [key]) (fetched ++ [key]) (later.ask key) next := by
  obtain ⟨frame, unclosed, used⟩ := asked.ask key
  have held : after.table session.storePath = table :=
    (Disk.openStore_entries opening).trans (by rw [present]; rfl)
  have left : next.table session.storePath = table.insert row :=
    Disk.openStore_entries added
  have nothing : after.lookUp session.storePath key = .ok none := by
    rw [World.lookUp, opening]
    exact Database.get_eq_none.2 ⟨table, present, absent⟩
  rw [asked.lookUp] at nothing
  have new : key ∉ fetched := by
    intro old
    rw [if_pos old] at nothing
    cases nothing
  rw [if_neg new] at nothing
  constructor
  · rw [answerFor, nothing]
    rfl
  · exact {
      frame
      unclosed
      used
      nodup := by
        rw [← List.concat_eq_append]
        exact asked.nodup.concat new
      unknown := fun other => by
        rw [List.mem_append, List.mem_append, asked.unknown, List.mem_singleton]
        by_cases same : other = key
        · simp [same, nothing]
        · simp [same]
      requests := by
        rw [requested, asked.requests, List.flatMap_append, List.flatMap_singleton,
          List.append_assoc]
      opened := by
        rw [asked.opened] at opening
        obtain ⟨first, begun, same⟩ := map_eq_ok.1 opening
        rw [added, begun, left, Except.map, ← same]
        rw [← same] at present
        cases entries : first.entries with
        | none =>
            rw [entries] at present
            cases present
        | some table => rfl
      added := fun other member => by
        rw [left, Store.Table.findInsert, named]
        rcases List.mem_append.1 member with early | last
        · have different : key ≠ other := fun same => new (same ▸ early)
          rw [if_neg fun same => different (Key.text.inj same), ← held]
          exact asked.added other early
        · rw [List.mem_singleton.1 last, if_pos rfl, Option.map_some, stored]
      kept := fun other others => by
        rw [List.map_append, List.mem_append, not_or, List.map_singleton,
          List.mem_singleton] at others
        rw [left, Store.Table.findInsert, named, if_neg (Ne.symm others.2), ← held]
        exact asked.kept other others.1 }

/-- One more key is answered as it would have been at the beginning. -/
theorem next (asked : session.Asked world keys fetched later after)
    (constant : session.transport.IsConstant) (asking : Asking) :
    let step := later.getCached asking.key { after with timeOfDay := asking.timeOfDay }
    step.1 = session.answerFor world asking.key ∧
      ∃ fetched, session.Asked world (keys ++ [asking.key]) fetched step.2.1 step.2.2 := by
  intro step
  have path := asked.storePath
  have looked : later.Looked asking.key { after with timeOfDay := asking.timeOfDay } step :=
    getCached_looked asked.unclosed _ _
  clear_value step
  cases looked with
  | @known found next present quiet opened kept =>
      rw [path] at present opened kept
      obtain ⟨answer, further⟩ := asked.known present (by rw [quiet]) opened kept
      exact ⟨answer, fetched, further⟩
  | @fetched database table next opening present absent requested added =>
      obtain ⟨payload, requests⟩ := asked.fetch constant
        { after with timeOfDay := asking.timeOfDay } asking.key
      rw [path] at opening added
      rw [payload] at added ⊢
      obtain ⟨answer, further⟩ := asked.learned opening present absent
        (Payload.key_toRow _ asking.key asking.timeOfDay)
        (Payload.payload_toRow _ asking.key asking.timeOfDay)
        ((congrArg World.requests requested).trans requests) added
      exact ⟨answer, fetched ++ [asking.key], further⟩

/-- All further keys are answered as they would have been at the beginning. -/
theorem askAll (constant : session.transport.IsConstant) (askings : List Asking)
    (asked : session.Asked world keys fetched later after) :
    let run := later.askAll askings after
    run.1 = askings.map (fun asking => session.answerFor world asking.key) ∧
      ∃ fetched, session.Asked world (keys ++ askings.map Asking.key) fetched run.2.1 run.2.2 := by
  induction askings generalizing later after keys fetched with
  | nil =>
      refine ⟨rfl, fetched, ?_⟩
      rw [List.map_nil, List.append_nil]
      exact asked
  | cons asking askings hypothesis =>
      obtain ⟨answer, between, first⟩ := asked.next constant asking
      obtain ⟨answers, further, rest⟩ := hypothesis first
      rw [List.append_assoc] at rest
      exact ⟨List.cons_eq_cons.2 ⟨answer, answers⟩, further, rest⟩

/-- At the beginning nothing has been asked for. -/
theorem begin (unclosed : ¬session.isClosed) (world : World State) :
    session.Asked world [] [] session world where
  frame := rfl
  unclosed := unclosed
  used := by simp
  nodup := .nil
  unknown := by simp
  requests := (List.append_nil _).symm
  opened := by
    cases opening : world.opened session.storePath with
    | error fault => rfl
    | ok database =>
        have held : world.table session.storePath = database.entries.getD .empty :=
          Disk.openStore_entries opening
        rw [Except.map, held]
        cases present : database.entries with
        | none => rw [Option.map_none, ← present]
        | some table => rw [Option.map_some, Option.getD_some, ← present]
  added := by simp
  kept _ _ := rfl

section

variable {second : Session State} {other : World State} {others more : List String}

end

end Asked

end FeedCache.Session
