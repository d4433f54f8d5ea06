/-
This file follows a session that asks for several keys, one after another.

Main statement: exactly the keys without an entry are fetched, each of them once and in the order
of their first places, and their outcomes are the only entries that are added.
-/
import FeedCache.Proofs.Session.Cleanup
import FeedCache.Proofs.Session.Reuse
import FeedCache.Proofs.Store.Insertion
import Mathlib.Data.List.Nodup

namespace FeedCache

namespace Fetch

variable {State : Type}

/-- Texts are fetched one after another, each from the state that the fetch before has left. The
fetches are listed with the last of these states. -/
def fetchAll (transport : Transport State) (policy : Policy) :
    List String → State → List (String × Run State) × State
  | [], state => ([], state)
  | text :: texts, state =>
      let run := run transport policy text state
      let (fetches, last) := fetchAll transport policy texts run.state
      ((text, run) :: fetches, last)

theorem fetchAll_append (transport : Transport State) (policy : Policy)
    (first second : List String) (state : State) :
    fetchAll transport policy (first ++ second) state =
      let early := fetchAll transport policy first state
      let late := fetchAll transport policy second early.2
      (early.1 ++ late.1, late.2) := by
  induction first generalizing state with
  | nil => rfl
  | cons text first hypothesis =>
      rw [List.cons_append, fetchAll, hypothesis]
      rfl

/-- One fetch is made for each text. -/
theorem fetchAll_texts (transport : Transport State) (policy : Policy) (texts : List String)
    (state : State) : (fetchAll transport policy texts state).1.map Prod.fst = texts := by
  induction texts generalizing state with
  | nil => rfl
  | cons text texts hypothesis =>
      rw [fetchAll, List.map_cons, hypothesis]

/-- The row that is stored for a fetch. -/
def fetchRow (time : String) (fetch : String × Run State) : Store.Row :=
  fetch.2.outcome.payload.toRow fetch.1 time

end Fetch

namespace Session
open Store (Table Key)

variable {State : Type}

/-- The listed keys without a row, each of them once and in the order of their first places. -/
def missing (table : Table) (keys : List String) : List String :=
  (keys.filter fun key => (table.find? (.text key)).isNone).eraseDups

theorem mem_missing {table : Table} {keys : List String} {key : String} :
    key ∈ missing table keys ↔ key ∈ keys ∧ table.find? (.text key) = none := by
  simp [missing]

theorem nodup_eraseDups : ∀ keys : List String, keys.eraseDups.Nodup
  | [] => .nil
  | key :: keys => by
      have shorter := List.length_filter_le (fun other => !other == key) keys
      rw [List.eraseDups_cons]
      refine List.nodup_cons.2 ⟨fun again => ?_, nodup_eraseDups _⟩
      have different := (List.mem_filter.1 (List.mem_eraseDups.1 again)).2
      simp at different
  termination_by keys => keys.length
  decreasing_by exact Nat.lt_succ_of_le shorter

theorem nodup_missing (table : Table) (keys : List String) : (missing table keys).Nodup :=
  nodup_eraseDups _

/-- The missing keys of two lists, where the missing ones of the first have been added to the
table. -/
theorem missing_append {table later : Table} {first : List String}
    (grown : ∀ key, (later.find? (.text key)).isSome ↔
      (table.find? (.text key)).isSome ∨ key ∈ missing table first)
    (second : List String) :
    missing table (first ++ second) = missing table first ++ missing later second := by
  have same : (second.filter fun key => (table.find? (.text key)).isNone).removeAll
        (first.filter fun key => (table.find? (.text key)).isNone) =
      second.filter fun key => (later.find? (.text key)).isNone := by
    rw [List.removeAll, List.filter_filter]
    refine List.filter_congr fun key member => ?_
    have grown := grown key
    rw [mem_missing] at grown
    cases before : table.find? (.text key) with
    | none =>
        have added : (later.find? (.text key)).isSome = decide (key ∈ first) :=
          Bool.eq_iff_iff.2 (by simpa [before] using grown)
        simp [before, ← Option.not_isSome, added]
    | some row => simp [before, ← Option.not_isSome, grown]
  rw [missing, missing, missing, List.filter_append, List.eraseDups_append, same]

/-- The fetches that a session makes if it asks for keys one after another, and the state of the
transport after them. -/
def fetchMissing (session : Session State) (world : World State) (keys : List String) :
    List (String × Fetch.Run State) × State :=
  Fetch.fetchAll session.transport session.policy (missing (world.table session.storePath) keys)
    world.network

/-- What asking for keys one after another leads to: the missing ones are fetched, and their rows
are added to the table. -/
structure Served (session : Session State) (world : World State) (keys : List String)
    (later : Session State) (after : World State) : Prop where
  frame : later = { session with used := later.used, stage := later.stage }
  used : ∀ key, key ∈ later.used ↔ key ∈ session.used ∨ key ∈ keys
  start : after.start = world.start
  timeOfDay : after.timeOfDay = world.timeOfDay
  network : after.network = (session.fetchMissing world keys).2
  requests : after.requests =
    world.requests ++ (session.fetchMissing world keys).1.flatMap fun fetch => fetch.2.requests
  table : after.table session.storePath = (world.table session.storePath).insertAll
    ((session.fetchMissing world keys).1.map (Fetch.fetchRow world.timeOfDay))
  readable : ∀ key ∈ keys, ∃ value, after.Holds session.storePath key value

namespace Served

variable {session later : Session State} {world after : World State} {keys : List String}

theorem storePath (served : session.Served world keys later after) :
    later.storePath = session.storePath := by rw [served.frame]

/-- The rows that are added have different keys, and the table had no row for any of them. -/
theorem keys_added (session : Session State) (world : World State) (keys : List String) :
    ((session.fetchMissing world keys).1.map (Fetch.fetchRow world.timeOfDay)).map Store.Row.key =
      (missing (world.table session.storePath) keys).map Key.text := by
  rw [fetchMissing, List.map_map]
  conv => rhs; rw [← Fetch.fetchAll_texts session.transport session.policy
    (missing (world.table session.storePath) keys) world.network, List.map_map]
  exact List.map_congr_left fun fetch _ => Store.Payload.key_toRow _ _ _

/-- The rows that were in the table stay. -/
theorem keeps (served : session.Served world keys later after) {key : Key} {row : Store.Row}
    (present : (world.table session.storePath).find? key = some row) :
    (after.table session.storePath).find? key = some row := by
  rw [served.table, Table.find?_insertAll_of_ne, present]
  intro added inside same
  have listed := List.mem_map_of_mem (f := Store.Row.key) inside
  rw [keys_added] at listed
  obtain ⟨text, absent, isText⟩ := List.mem_map.1 listed
  rw [← same, ← isText, (mem_missing.1 absent).2] at present
  cases present

theorem holds (served : session.Served world keys later after) {key : String}
    {value : Option ByteArray} (holds : world.Holds session.storePath key value) :
    after.Holds session.storePath key value := by
  obtain ⟨row, payload, present, readable, body⟩ := holds
  exact ⟨row, payload, served.keeps present, readable, body⟩

/-- The outcome of each fetch is in the table. -/
theorem added (served : session.Served world keys later after) {fetch : String × Fetch.Run State}
    (member : fetch ∈ (session.fetchMissing world keys).1) :
    (after.table session.storePath).find? (.text fetch.1) =
      some (Fetch.fetchRow world.timeOfDay fetch) := by
  have distinct := (nodup_missing (world.table session.storePath) keys).map Store.Key.text_injective
  rw [← keys_added] at distinct
  have found := Table.find?_insertAll_of_mem distinct (List.mem_map_of_mem member)
    (world.table session.storePath)
  rwa [served.table, ← Store.Payload.key_toRow fetch.2.outcome.payload fetch.1 world.timeOfDay]

/-- A key has a row afterwards if it had one before or was missing. -/
theorem isSome_find? (served : session.Served world keys later after) (key : Key) :
    ((after.table session.storePath).find? key).isSome ↔
      ((world.table session.storePath).find? key).isSome ∨
        key ∈ (missing (world.table session.storePath) keys).map Key.text := by
  rw [served.table, Table.isSome_find?_insertAll, ← keys_added, ← List.mem_map]

/-- Nothing is served at first. -/
theorem nothing (session : Session State) (world : World State) :
    session.Served world [] session world where
  frame := rfl
  used := by simp
  start := rfl
  timeOfDay := rfl
  network := rfl
  requests := (List.append_nil _).symm
  table := rfl
  readable := by simp

/-- The later keys are fetched where the earlier ones have left the table and the transport. -/
theorem fetchMissing_append (served : session.Served world keys later after)
    (more : List String) :
    session.fetchMissing world (keys ++ more) =
      ((session.fetchMissing world keys).1 ++ (later.fetchMissing after more).1,
        (later.fetchMissing after more).2) := by
  have grown : ∀ key, ((after.table session.storePath).find? (.text key)).isSome ↔
      ((world.table session.storePath).find? (.text key)).isSome ∨
        key ∈ missing (world.table session.storePath) keys := fun key => by
    rw [served.isSome_find?, List.mem_map_of_injective Store.Key.text_injective]
  rw [fetchMissing, missing_append grown, Fetch.fetchAll_append, ← fetchMissing]
  dsimp only
  rw [← served.network, served.frame]
  rfl

/-- What is served first and what is served then are served together. -/
theorem trans {middle : Session State} {between : World State} {more : List String}
    (first : session.Served world keys middle between)
    (second : middle.Served between more later after) :
    session.Served world (keys ++ more) later after where
  frame := second.frame.trans (by rw [first.frame])
  used := by simp [first.used, second.used, or_assoc]
  start := second.start.trans first.start
  timeOfDay := second.timeOfDay.trans first.timeOfDay
  network := by rw [first.fetchMissing_append, second.network]
  requests := by
    rw [first.fetchMissing_append, second.requests, first.requests, List.flatMap_append,
      List.append_assoc]
  table := by
    rw [first.fetchMissing_append, List.map_append, Table.insertAll_append, ← first.table,
      ← first.storePath, second.table, first.timeOfDay]
  readable key member := by
    rcases List.mem_append.1 member with early | late
    · obtain ⟨value, holds⟩ := first.readable key early
      exact ⟨value, first.storePath ▸ second.holds (first.storePath ▸ holds)⟩
    · exact first.storePath ▸ second.readable key late

/-- Changes on the disk that keep the table are allowed. -/
theorem redisk (served : session.Served world keys later after) {disk : Disk}
    (same : disk.table (after.place session.storePath) = after.table session.storePath) :
    session.Served world keys later { after with disk } where
  frame := served.frame
  used := served.used
  start := served.start
  timeOfDay := served.timeOfDay
  network := served.network
  requests := served.requests
  table := same.trans served.table
  readable key member := by
    obtain ⟨value, row, payload, present, rest⟩ := served.readable key member
    refine ⟨value, row, payload, ?_, rest⟩
    exact (congrArg (fun table => table.find? (.text key)) same).trans present

end Served

theorem mem_ask (session : Session State) (key other : String) :
    other ∈ (session.ask key).used ↔ other ∈ session.used ∨ other ∈ [key] := by
  rw [ask, List.mem_singleton]
  split
  · rename_i listed
    have inside : key ∈ session.used := List.contains_iff_mem.1 listed
    exact ⟨.inl, fun known => known.elim id fun same => same ▸ inside⟩
  · rw [List.mem_append, List.mem_singleton]

/-- A cached fetch that answers has served its key. -/
theorem getCached_served {session : Session State} {key : String} {world : World State}
    {value : Option ByteArray} (answered : (session.getCached key world).1 = .ok value) :
    session.Served world [key] (session.getCached key world).2.1
      (session.getCached key world).2.2 := by
  have holds := getCached_holds answered
  have done := session.getCached_step key world
  generalize session.getCached key world = step at done answered holds ⊢
  cases done with
  | refused ended => cases answered
  | unread kept => cases answered
  | @hit database payload disk found held ready =>
      obtain ⟨table, row, present, inside, -⟩ := Store.Database.get_eq_some.1 found
      have same : disk.table (world.place session.storePath) = world.table session.storePath :=
        ready.table.trans held.symm
      have stored : (world.table session.storePath).find? (.text key) = some row := by
        rw [held, present]
        exact inside
      have nothing : session.fetchMissing world [key] = ([], world.network) := by
        simp [fetchMissing, missing, stored, Fetch.fetchAll]
      exact {
        frame := rfl
        used := session.mem_ask key
        start := rfl
        timeOfDay := rfl
        network := by rw [nothing]
        requests := by rw [nothing, List.flatMap_nil, List.append_nil]
        table := by
          rw [nothing]
          exact same
        readable := by simpa using ⟨value, holds⟩ }
  | @miss database table fetched disk absent held result ready =>
      subst held result
      have once : session.fetchMissing world [key] =
          ([(key, Fetch.run session.transport session.policy key world.network)],
            (Fetch.run session.transport session.policy key world.network).state) := by
        simp [fetchMissing, missing, absent, List.eraseDups_cons, Fetch.fetchAll]
      exact {
        frame := rfl
        used := session.mem_ask key
        start := rfl
        timeOfDay := rfl
        network := by
          rw [once]
          rfl
        requests := by
          rw [once, List.flatMap_singleton]
          rfl
        table := by
          rw [once]
          exact ready.table
        readable := by simpa using ⟨value, holds⟩ }

/-- What a cleanup leaves of a table that has served some keys, and what it reports. -/
structure Tidied (keys : List String) (before served left : Table) (report : Report) : Prop where
  found : ∀ key, left.find? key =
    if key ∈ keys.map Key.text then served.find? key else none
  stored : ∀ key, (left.find? key).isSome ↔ key ∈ keys.map Key.text
  retained : report.retained = keys.eraseDups.length
  increasing : report.removed.Pairwise Store.Precedes
  removed : ∀ key, key ∈ report.removed ↔ key ∉ keys ∧ (before.find? (.text key)).isSome

/-- A served key has its row after the cleanup. -/
theorem Tidied.row {keys : List String} {before served left : Table} {report : Report}
    (tidied : Tidied keys before served left report) {key : String} (listed : key ∈ keys) :
    left.find? (.text key) = served.find? (.text key) := by
  rw [tidied.found, if_pos (List.mem_map_of_mem listed)]

section Tidied

variable {used keys stored : List String} {before served : Table}

/-- Erasing what was not asked for leaves the rows of the served keys. -/
theorem find?_served (asked : ∀ key, key ∈ used ↔ key ∈ keys)
    (texts : served.rows.map Store.Row.key = stored.map Key.text) (key : Key) :
    (served.eraseAll (unused used stored)).find? key =
      if key ∈ keys.map Key.text then served.find? key else none := by
  rw [Table.find?_eraseAll]
  by_cases kept : key ∈ keys.map Key.text
  · rw [if_pos kept, if_neg]
    intro gone
    obtain ⟨text, listed, same⟩ := List.mem_map.1 kept
    rw [← same, List.mem_map_of_injective Store.Key.text_injective, mem_unused texts, asked] at gone
    exact gone.1 listed
  · rw [if_neg kept]
    split
    · rfl
    · rename_i stays
      refine Option.not_isSome_iff_eq_none.1 fun present => stays ?_
      have inside := Table.isSome_find?_iff.1 present
      rw [texts] at inside
      obtain ⟨text, listed, rfl⟩ := List.mem_map.1 inside
      rw [List.mem_map_of_injective Store.Key.text_injective] at kept ⊢
      refine (mem_unused texts text).2 ⟨fun known => kept ((asked text).1 known), ?_⟩
      exact List.mem_map.1 (Table.isSome_find?_iff.1 present)

/-- Exactly the served keys have rows then. -/
theorem isSome_served (asked : ∀ key, key ∈ used ↔ key ∈ keys)
    (texts : served.rows.map Store.Row.key = stored.map Key.text)
    (grown : ∀ key, (served.find? key).isSome ↔
      (before.find? key).isSome ∨ key ∈ (missing before keys).map Key.text) (key : Key) :
    ((served.eraseAll (unused used stored)).find? key).isSome ↔ key ∈ keys.map Key.text := by
  rw [find?_served asked texts]
  split
  · rename_i listed
    obtain ⟨text, member, rfl⟩ := List.mem_map.1 listed
    refine ⟨fun _ => listed, fun _ => (grown _).2 ?_⟩
    rw [List.mem_map_of_injective Store.Key.text_injective, mem_missing]
    cases before.find? (.text text) with
    | none => exact .inr ⟨member, rfl⟩
    | some row => exact .inl rfl
  · rename_i unlisted
    simpa using unlisted

/-- A table with rows for exactly these keys has a row for each of them. -/
theorem size_served {left : Table}
    (held : ∀ key, (left.find? key).isSome ↔ key ∈ keys.map Key.text) :
    left.size = keys.eraseDups.length := by
  have perm : (left.rows.map Store.Row.key).Perm (keys.eraseDups.map Key.text) := by
    refine (List.perm_ext_iff_of_nodup left.nodup_keys
      ((nodup_eraseDups keys).map Store.Key.text_injective)).2 fun key => ?_
    rw [← Table.isSome_find?_iff, held]
    simp
  simpa [Table.size] using perm.length_eq

theorem tidied_of_erased (asked : ∀ key, key ∈ used ↔ key ∈ keys)
    (texts : served.rows.map Store.Row.key = stored.map Key.text)
    (grown : ∀ key, (served.find? key).isSome ↔
      (before.find? key).isSome ∨ key ∈ (missing before keys).map Key.text) :
    Tidied keys before served (served.eraseAll (unused used stored))
      ⟨(served.eraseAll (unused used stored)).size, unused used stored⟩ where
  found := find?_served asked texts
  stored := isSome_served asked texts grown
  retained := size_served (isSome_served asked texts grown)
  increasing := (Store.Database.keys_increasing texts).filter _
  removed key := by
    rw [mem_unused texts, asked, ← List.mem_map, ← Table.isSome_find?_iff, grown,
      List.mem_map_of_injective Store.Key.text_injective, mem_missing]
    constructor
    · rintro ⟨unlisted, present | ⟨listed, -⟩⟩
      · exact ⟨unlisted, present⟩
      · exact absurd listed unlisted
    · rintro ⟨unlisted, present⟩
      exact ⟨unlisted, .inl present⟩

end Tidied

/-- A session that has served some keys is cleaned up. -/
theorem Served.cleanup {session later ended : Session State} {world looked after : World State}
    {keys : List String} {report : Report} (fresh : session.used = [])
    (served : session.Served world keys later looked)
    (cleaned : later.cleanup looked = (.ok report, ended, after)) :
    ended = { later with stage := .cleaned } ∧ after = { looked with disk := after.disk } ∧
      Tidied keys (world.table session.storePath) (looked.table session.storePath)
        (after.table session.storePath) report := by
  have path := served.storePath
  have asked : ∀ key, key ∈ later.used ↔ key ∈ keys := fun key => by
    rw [served.used, fresh]
    simp
  have done := later.cleanup_step looked
  rw [cleaned] at done
  cases done with
  | @done database table stored disk unclosed opening present held texts ready =>
      rw [path] at held ready
      subst held
      have left : disk.table (looked.place session.storePath) =
          (looked.table session.storePath).eraseAll (unused later.used stored) := ready.table
      refine ⟨rfl, rfl, ?_⟩
      change Tidied keys _ _ (disk.table (looked.place session.storePath)) _
      rw [left]
      exact tidied_of_erased asked texts served.isSome_find?

end Session

end FeedCache
