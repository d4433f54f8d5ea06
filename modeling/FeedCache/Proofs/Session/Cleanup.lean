/-
This file says exactly what a cleanup takes away.

Main statement: a cleanup removes the entries that were not asked for and no others, or fails and
removes none, and a second one finds nothing to remove.
-/
import FeedCache.Proofs.Session.Acceptance

namespace FeedCache

/-- The store at a path can be opened, and has a table of entries. -/
def World.Opens {State : Type} (world : World State) (path : String)
    (device : Store.Device := .free) : Prop :=
  ∃ database, world.opened path device = .ok database ∧ database.entries.isSome

namespace Session
open Store (Row Key Table Precedes)

variable {State : Type}

/-- The row's key was asked for. -/
def isUsed (used : List String) (row : Row) : Bool := row.key ∈ used.map Key.text

/-- Erasing the unused keys leaves the rows that were asked for. -/
theorem eraseAll_unused {table : Table} {used keys : List String}
    (texts : table.rows.map Row.key = keys.map Key.text) :
    (table.eraseAll (unused used keys)).rows = table.rows.filter (isUsed used) := by
  rw [Table.eraseAll_rows]
  refine List.filter_congr fun row member => ?_
  have listed : row.key ∈ keys.map Key.text := texts ▸ List.mem_map_of_mem member
  obtain ⟨key, inside, same⟩ := List.mem_map.1 listed
  rw [isUsed, ← same]
  by_cases asked : key ∈ used
  · simp [unused, asked]
  · simp [unused, asked, inside]

/-- The unused keys are the keys of the rows that were not asked for. -/
theorem mem_unused {table : Table} {used keys : List String}
    (texts : table.rows.map Row.key = keys.map Key.text) (key : String) :
    key ∈ unused used keys ↔ key ∉ used ∧ ∃ row ∈ table.rows, row.key = .text key := by
  have listed : key ∈ keys ↔ ∃ row ∈ table.rows, row.key = .text key := by
    rw [← List.mem_map, texts, List.mem_map_of_injective Key.text_injective]
  simp [unused, listed, and_comm]

/-- The numbers of kept and of removed rows add up. -/
theorem size_eraseAll_unused {table : Table} {used keys : List String}
    (texts : table.rows.map Row.key = keys.map Key.text) :
    (table.eraseAll (unused used keys)).size + (unused used keys).length = table.size := by
  let away (key : Key) : Bool := !decide (key ∈ used.map Key.text)
  have gone : (table.rows.filter fun row => !isUsed used row).length =
      (unused used keys).length :=
    calc
      _ = ((table.rows.map Row.key).filter away).length := by
        rw [List.filter_map, List.length_map]
        rfl
      _ = ((keys.map Key.text).filter away).length := by rw [texts]
      _ = (unused used keys).length := by
        rw [List.filter_map, List.length_map, unused]
        congr 2
        funext key
        simp [away]
  rw [Table.size, eraseAll_unused texts, Table.size, ← gone]
  exact (List.length_eq_length_filter_add (isUsed used)).symm

/-- These operations leave the asked keys and the store alone once it is clean. -/
def Call.isQuiet : Call → Bool
  | .uncached _ | .cleanup | .entries => true
  | .cached _ | .text _ | .close => false

/-- The session is open, and its store has entries only for keys that were asked for. -/
structure Settled (session : Session State) (world : World State) (database : Store.Database)
    (table : Table) : Prop where
  unclosed : ¬session.isClosed
  ready : world.disk.Ready (world.place session.storePath) database
  present : database.entries = some table
  asked : ∀ row ∈ table.rows, isUsed session.used row

theorem Settled.table {session : Session State} {world : World State}
    {database : Store.Database} {table : Table} (settled : session.Settled world database table) :
    world.table session.storePath = table := by
  rw [World.table, settled.ready.table, settled.present]
  rfl

theorem isUsed_text {used : List String} {row : Row} (asked : isUsed used row) :
    ∃ key, row.key = .text key := by
  obtain ⟨key, -, same⟩ := List.mem_map.1 (of_decide_eq_true asked)
  exact ⟨key, same.symm⟩

/-- A settled store opens as it is. -/
theorem Settled.opened {session : Session State} {world : World State}
    {database : Store.Database} {table : Table} (settled : session.Settled world database table) :
    world.opened session.storePath = .ok database := by
  rw [World.opened, Disk.openStore_ready settled.ready]

/-- A cleanup of a settled store succeeds and removes nothing. -/
theorem Settled.cleanup {session : Session State} {world : World State}
    {database : Store.Database} {table : Table} (settled : session.Settled world database table) :
    ∃ disk, session.cleanup world =
        (.ok ⟨table.size, []⟩, { session with stage := .cleaned }, { world with disk }) ∧
      disk.Ready (world.place session.storePath) database := by
  have done := session.cleanup_step world
  generalize session.cleanup world = step at done ⊢
  cases done with
  | refused ended => exact absurd ended settled.unclosed
  | failed unclosed kept unlisted =>
      obtain ⟨keys, texts⟩ := Store.Database.exists_texts.2 fun row member =>
        isUsed_text (settled.asked row member)
      have listed := Store.Database.keys_eq_ok.2 ⟨table, settled.present, texts⟩
      rw [unlisted database settled.opened] at listed
      cases listed
  | @done opened other keys disk unclosed opening present held texts ready =>
      have sameDatabase : database = opened := Except.ok.inj (settled.opened.symm.trans opening)
      subst sameDatabase
      have sameTable : table = other := Option.some.inj (settled.present.symm.trans present)
      subst sameTable
      have nothing : unused session.used keys = [] := by
        refine List.eq_nil_iff_forall_not_mem.2 fun key member => ?_
        obtain ⟨unasked, row, inside, hasKey⟩ := (mem_unused texts key).1 member
        have asked := settled.asked row inside
        rw [isUsed, hasKey] at asked
        simp [unasked] at asked
      rw [nothing, Table.eraseAll_nil, ← present] at ready
      rw [nothing, Table.eraseAll_nil]
      exact ⟨disk, rfl, ready⟩

/-- A quiet operation keeps a settled store as it is. -/
theorem Settled.perform {session : Session State} {world : World State}
    {database : Store.Database} {table : Table} (settled : session.Settled world database table)
    {call : Call} (quiet : call.isQuiet) :
    (session.perform call world).2.1.Settled (session.perform call world).2.2 database table := by
  have unclosed := settled.unclosed
  cases call with
  | cached key => cases quiet
  | text key => cases quiet
  | close => cases quiet
  | uncached key =>
      have same : (session.perform (.uncached key) world).2 =
          ({ session with stage := .active },
            (world.fetch session.transport session.policy key).2) := by
        rw [Session.perform, Step.as, getUncached, whileOpen, if_neg unclosed]
      rw [same]
      exact ⟨Bool.false_ne_true, settled.ready, settled.present, settled.asked⟩
  | cleanup =>
      obtain ⟨disk, done, ready⟩ := settled.cleanup
      rw [Session.perform, Step.as, done]
      exact ⟨Bool.false_ne_true, ready, settled.present, settled.asked⟩
  | entries =>
      rw [Session.perform, Step.as, entries, whileOpen, if_neg unclosed]
      have done := session.read_step world Store.Database.summaries
      generalize session.useStore world
        (fun database => return (← database.summaries, database)) = step at done ⊢
      cases done with
      | failed kept reason =>
          exact ⟨unclosed, (reason database settled.opened).2, settled.present, settled.asked⟩
      | done opening found held ready =>
          cases settled.opened.symm.trans opening
          exact ⟨unclosed, ready, settled.present, settled.asked⟩

theorem Settled.performAll {session : Session State} {world : World State}
    {database : Store.Database} {table : Table} (settled : session.Settled world database table)
    {calls : List Call} (quiet : ∀ call ∈ calls, call.isQuiet) :
    (session.performAll calls world).1.Settled (session.performAll calls world).2 database table ∧
      (session.performAll calls world).1.storePath = session.storePath := by
  induction calls generalizing session world with
  | nil => exact ⟨settled, rfl⟩
  | cons call calls hypothesis =>
      have next := settled.perform (quiet call List.mem_cons_self)
      obtain ⟨final, path⟩ := hypothesis next fun other member =>
        quiet other (List.mem_cons_of_mem _ member)
      rw [performAll_cons]
      exact ⟨final, path.trans (session.perform_place call world).1⟩

/-- A store is settled once the unused keys are erased. -/
theorem settled_erased {session : Session State} {world : World State}
    {database : Store.Database} {keys : List String} {disk : Disk}
    (texts : (world.table session.storePath).rows.map Row.key = keys.map Key.text)
    (ready : disk.Ready (world.place session.storePath)
      { database with
        entries := some ((world.table session.storePath).eraseAll (unused session.used keys)) }) :
    Settled { session with stage := .cleaned } { world with disk }
      { database with
        entries := some ((world.table session.storePath).eraseAll (unused session.used keys)) }
      ((world.table session.storePath).eraseAll (unused session.used keys)) where
  unclosed := Bool.false_ne_true
  ready := ready
  present := rfl
  asked row member := by
    rw [eraseAll_unused texts] at member
    exact (List.mem_filter.1 member).2

/-- A settled store stays as it is over quiet operations, and a cleanup after them removes
nothing. -/
theorem Settled.cleanup_again {session : Session State} {world : World State}
    {database : Store.Database} {table : Table} (settled : session.Settled world database table)
    {calls : List Call} (quiet : ∀ call ∈ calls, call.isQuiet) :
    let later := session.performAll calls world
    let again := later.1.cleanup later.2
    again.1 = .ok ⟨table.size, []⟩ ∧ again.2.2.table session.storePath = table := by
  intro later again
  obtain ⟨final, path⟩ := settled.performAll quiet
  obtain ⟨disk, finished, ready⟩ := final.cleanup
  have repeated : again = _ := finished
  rw [repeated]
  refine ⟨rfl, ?_⟩
  rw [path] at ready
  exact ready.table.trans (by rw [settled.present]; rfl)

/-- A cleanup that fails keeps the session and the entries. -/
theorem cleanup_failed {session later : Session State} {world after : World State}
    {device : Store.Device} {fault : Fault}
    (failed : session.cleanup world device = (.error fault, later, after)) :
    later = session ∧ after = { world with disk := after.disk } ∧
      after.table session.storePath = world.table session.storePath := by
  have done := session.cleanup_cases world device
  rw [failed] at done
  rcases done with step | barred
  · cases step with
    | refused ended => exact ⟨rfl, rfl, rfl⟩
    | failed unclosed kept unlisted => exact ⟨rfl, rfl, kept⟩
  · cases barred with
    | barred unclosed opening listed refusal kept => exact ⟨rfl, rfl, kept⟩

/-- On any device a cleanup does what it does on a free one, or nothing. -/
theorem cleanup_anywhere (session : Session State) (world : World State) (device : Store.Device) :
    let tried := session.cleanup world device
    tried = session.cleanup world ∨
      (∃ fault, tried.1 = .error fault) ∧ tried.2.1 = session ∧
        (tried.2.2.table session.storePath).rows = (world.table session.storePath).rows := by
  intro tried
  rcases done : tried with ⟨answer, later, after⟩
  cases answer with
  | ok report => exact .inl (cleanup_accepted done).symm
  | error fault =>
      obtain ⟨same, -, kept⟩ := cleanup_failed done
      exact .inr ⟨⟨_, rfl⟩, same, congrArg Table.rows kept⟩

/-- A cleanup removes exactly the entries that were not asked for, or it fails and removes none. It
succeeds whenever the store opens with a table of entries and every stored key is a text, and only
then. After a success a further cleanup removes nothing until something else is asked for. A device
that refuses writes makes nothing of this partial: the cleanup does the same on it, or nothing. -/
theorem cleanup_exact (session : Session State) (world : World State)
    (unclosed : ¬session.isClosed) :
    let before := (world.table session.storePath).rows
    let step := session.cleanup world
    let after := (step.2.2.table session.storePath).rows
    (world.Opens session.storePath ∧ (∀ row ∈ before, ∃ key, row.key = .text key) →
      after = before.filter (isUsed session.used) ∧
      step.2.1 = { session with stage := .cleaned } ∧
      ∃ report, step.1 = .ok report ∧
        report.removed.Pairwise Precedes ∧
        (∀ key, key ∈ report.removed ↔
          key ∉ session.used ∧ ∃ row ∈ before, row.key = .text key) ∧
        report.retained = after.length ∧
        report.retained + report.removed.length = before.length ∧
        ∀ calls : List Call, (∀ call ∈ calls, call.isQuiet) →
          let later := step.2.1.performAll calls step.2.2
          let again := later.1.cleanup later.2
          again.1 = .ok ⟨report.retained, []⟩ ∧
            (again.2.2.table session.storePath).rows = after) ∧
    (¬(world.Opens session.storePath ∧ ∀ row ∈ before, ∃ key, row.key = .text key) →
      (∃ fault, step.1 = .error fault) ∧ step.2.1 = session ∧ after = before) ∧
    ∀ device : Store.Device,
      let tried := session.cleanup world device
      tried = step ∨
        (∃ fault, tried.1 = .error fault) ∧ tried.2.1 = session ∧
          (tried.2.2.table session.storePath).rows = before := by
  intro before step after
  have anywhere : ∀ device, session.cleanup world device = step ∨ _ :=
    session.cleanup_anywhere world
  have done : CleanupStep session world .free step := session.cleanup_step world
  clear_value step
  cases done with
  | refused ended => exact absurd ended unclosed
  | @failed fault disk _ kept unlisted =>
      refine ⟨?_, fun _ => ⟨⟨_, rfl⟩, rfl, congrArg Table.rows kept⟩, anywhere⟩
      rintro ⟨⟨database, opening, hasTable⟩, allTexts⟩
      obtain ⟨table, present⟩ := Option.isSome_iff_exists.1 hasTable
      have held : world.table session.storePath = table :=
        (Disk.openStore_entries opening).trans (by rw [present]; rfl)
      obtain ⟨keys, texts⟩ := Store.Database.exists_texts.2 allTexts
      have listed := Store.Database.keys_eq_ok.2 ⟨table, present, by rw [← held]; exact texts⟩
      rw [unlisted database opening] at listed
      cases listed
  | @done database table keys disk _ opening present held texts ready =>
      subst held
      have settled := settled_erased texts ready
      have left : after = ((world.table session.storePath).eraseAll
          (unused session.used keys)).rows := congrArg Table.rows settled.table
      refine ⟨fun _ => ⟨left.trans (eraseAll_unused texts), rfl, _, rfl, ?_, mem_unused texts, ?_,
        size_eraseAll_unused texts, ?_⟩, fun refused => ?_, anywhere⟩
      · exact (Store.Database.keys_increasing texts).filter _
      · exact congrArg List.length left.symm
      · intro calls quiet later again
        obtain ⟨same, kept⟩ := settled.cleanup_again quiet
        exact ⟨same, (congrArg Table.rows kept).trans left.symm⟩
      · refine absurd ⟨⟨database, opening, by rw [present]; rfl⟩, ?_⟩ refused
        exact Store.Database.exists_texts.1 ⟨keys, texts⟩

/-- A row that no session writes and none can read. -/
def strangeRow : Row := ⟨.text "b", .text "body", .text "mark", .null⟩

def strangeWorld : World Unit :=
  let table := (Table.empty.insert strangeRow).insert (Store.Payload.failed.toRow "a" "noon")
  ⟨⟨[(["news.db"], .store ⟨some [1], some table⟩)]⟩, [], (), [], 0, "noon"⟩

def idleSession : Session Unit :=
  ⟨"news", "news.db", fun state _ => (⟨0, .error .timeout⟩, state), ⟨10, 1, 1, 1⟩, ["b", "c"],
    .active⟩

theorem cleanup_exact_sample :
    let step := idleSession.cleanup strangeWorld
    let later := step.2.1.performAll [.entries, .uncached "x", .cleanup] step.2.2
    ¬idleSession.isClosed ∧ step.1 = .ok ⟨1, ["a"]⟩ ∧
      (step.2.2.table "news.db").rows = [strangeRow] ∧
      (later.1.cleanup later.2).1 = .ok ⟨1, []⟩ := by
  intro step later
  have unclosed : ¬idleSession.isClosed := by decide
  have opens : strangeWorld.Opens idleSession.storePath := ⟨_, rfl, rfl⟩
  have texts : ∀ row ∈ (strangeWorld.table idleSession.storePath).rows,
      ∃ key, row.key = .text key := Store.Database.exists_texts.1 ⟨["a", "b"], rfl⟩
  obtain ⟨rows, -, report, answered, -, -, -, -, again⟩ :=
    (cleanup_exact idleSession strangeWorld unclosed).1 ⟨opens, texts⟩
  have reported : report = ⟨1, ["a"]⟩ := Except.ok.inj (answered.symm.trans rfl)
  subst reported
  exact ⟨unclosed, answered, rows, (again [.entries, .uncached "x", .cleanup] (by decide)).1⟩

end Session

end FeedCache
