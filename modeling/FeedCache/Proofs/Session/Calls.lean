/-
This file runs operations of a session one after another, and says once what each of them can do.

Main statements: an operation answers in one of a few ways, and in each of them the entries of the
store afterwards are known.
-/
import FeedCache.Proofs.Disk.Opening
import FeedCache.Proofs.Store.Deletion
import FeedCache.Session.Basic

namespace FeedCache

/-- The entries of the store at a path. -/
def World.table {State : Type} (world : World State) (path : String) : Store.Table :=
  world.disk.table (world.place path)

/-- The store at a path as it is when it has been opened. -/
def World.opened {State : Type} (world : World State) (path : String)
    (device : Store.Device := .free) : Except Store.Fault Store.Database :=
  (world.disk.openStore world.start path device).1

/-- A fetch does not touch the stores. -/
theorem World.table_fetch {State : Type} (world : World State) (transport : Fetch.Transport State)
    (policy : Fetch.Policy) (text path : String) :
    (world.fetch transport policy text).2.table path = world.table path := rfl

namespace Session

/-- The operations of a session. -/
inductive Call where
  | cached (key : String)
  | text (key : String)
  | uncached (key : String)
  | cleanup
  | entries
  | close
  deriving DecidableEq

inductive Answer where
  | body (body : Option ByteArray)
  | text (text : Option String)
  | outcome (outcome : Fetch.Outcome)
  | report (report : Report)
  | entries (entries : List Store.Summary)
  | closed
  deriving DecidableEq

variable {State : Type}

/-- An answer in the common form of all operations. -/
def Step.as {α : Type} (form : α → Answer) (step : Step State α) : Step State Answer :=
  (step.1.map form, step.2)

/-- One operation. -/
def perform (session : Session State) (call : Call) (world : World State)
    (device : Store.Device := .free) : Step State Answer :=
  match call with
  | .cached key => Step.as .body (session.getCached key world device)
  | .text key => Step.as .text (session.getText key world device)
  | .uncached key => Step.as .outcome (session.getUncached key world)
  | .cleanup => Step.as .report (session.cleanup world device)
  | .entries => Step.as .entries (session.entries world device)
  | .close => (.ok .closed, session.close, world)

/-- Operations in order, each on what the one before has left. -/
def performAll (session : Session State) (calls : List Call) (world : World State) :
    Session State × World State :=
  calls.foldl (fun moment call => (moment.1.perform call moment.2).2) (session, world)

@[simp] theorem performAll_nil (session : Session State) (world : World State) :
    session.performAll [] world = (session, world) := rfl

theorem performAll_cons (session : Session State) (call : Call) (calls : List Call)
    (world : World State) :
    session.performAll (call :: calls) world =
      (session.perform call world).2.1.performAll calls (session.perform call world).2.2 := rfl

/-- The keys of a list that were not asked for. -/
def unused (used keys : List String) : List String := keys.filter fun key => !used.contains key

/-- An eviction fails where the keys cannot be listed or the device refuses, and otherwise erases the
unused ones. -/
theorem evict_cases (used : List String) (database : Store.Database)
    (device : Store.Device := .free) :
    (∃ fault, database.keys = .error fault ∧ evict used database device = .error fault) ∨
    (∃ fault keys, database.keys = .ok keys ∧
      database.deleteKeys (unused used keys) device = .error fault ∧
      evict used database device = .error fault) ∨
    ∃ table keys, database.entries = some table ∧
      table.rows.map Store.Row.key = keys.map Store.Key.text ∧
      evict used database device =
        .ok (⟨(table.eraseAll (unused used keys)).size, unused used keys⟩,
          { database with entries := some (table.eraseAll (unused used keys)) }) := by
  cases listed : database.keys with
  | error fault => exact .inl ⟨fault, rfl, by simp [evict, listed, bind, Except.bind]⟩
  | ok keys =>
      obtain ⟨table, present, texts⟩ := Store.Database.keys_eq_ok.1 listed
      obtain ⟨erased, deleted, -⟩ := Store.Database.deleteKeys_ok present (unused used keys)
      have followed : evict used database device =
          (database.deleteKeys (unused used keys) device).bind fun result => do
            return (⟨← result.2.size, unused used keys⟩, result.2) := by
        simp only [evict, listed, bind, Except.bind]
        rfl
      rw [followed]
      cases done : database.deleteKeys (unused used keys) device with
      | error fault => exact .inr (.inl ⟨fault, keys, rfl, done, rfl⟩)
      | ok result =>
          obtain ⟨count, changed⟩ := result
          have same := (Store.Database.deleteKeys_ok_free done).symm.trans deleted
          cases same
          exact .inr (.inr ⟨table, keys, present, texts, rfl⟩)

/-- What a cleanup can do: it is refused, or fails and keeps everything, or erases the unused
keys. -/
inductive CleanupStep (session : Session State) (world : World State) (device : Store.Device) :
    Step State Report → Prop
  | refused (ended : session.isClosed) :
      CleanupStep session world device (.error (.closed session.name), session, world)
  | failed {fault : Store.Fault} {disk : Disk} (unclosed : ¬session.isClosed)
      (kept : disk.table (world.place session.storePath) = world.table session.storePath)
      (unlisted : ∀ database, world.opened session.storePath device = .ok database →
        database.keys = .error fault) :
      CleanupStep session world device (.error (.store fault), session, { world with disk })
  | done {database : Store.Database} {table : Store.Table} {keys : List String} {disk : Disk}
      (unclosed : ¬session.isClosed)
      (opening : world.opened session.storePath device = .ok database)
      (present : database.entries = some table)
      (held : world.table session.storePath = table)
      (texts : table.rows.map Store.Row.key = keys.map Store.Key.text)
      (ready : disk.Ready (world.place session.storePath)
        { database with entries := some (table.eraseAll (unused session.used keys)) }) :
      CleanupStep session world device
        (.ok ⟨(table.eraseAll (unused session.used keys)).size, unused session.used keys⟩,
          { session with stage := .cleaned }, { world with disk })

/-- What a cleanup does that the device refuses: it keeps everything. -/
inductive CleanupBarred (session : Session State) (world : World State) (device : Store.Device) :
    Step State Report → Prop
  | barred {fault : Store.Fault} {database : Store.Database} {keys : List String} {disk : Disk}
      (unclosed : ¬session.isClosed)
      (opening : world.opened session.storePath device = .ok database)
      (listed : database.keys = .ok keys)
      (refusal : database.deleteKeys (unused session.used keys) device = .error fault)
      (kept : disk.table (world.place session.storePath) = world.table session.storePath) :
      CleanupBarred session world device (.error (.store fault), session, { world with disk })

theorem cleanup_cases (session : Session State) (world : World State) (device : Store.Device) :
    CleanupStep session world device (session.cleanup world device) ∨
      CleanupBarred session world device (session.cleanup world device) := by
  unfold cleanup whileOpen
  by_cases ended : session.isClosed
  · rw [if_pos ended]
    exact .inl (.refused ended)
  · rw [if_neg ended]
    unfold useStore World.useStore
    have used := world.disk.useStore_step world.start session.storePath
      (evict session.used · device) device
    generalize world.disk.useStore world.start session.storePath
      (evict session.used · device) device = result at used ⊢
    cases used with
    | @failed fault disk kept reason =>
        by_cases barred : ∃ database keys, world.opened session.storePath device = .ok database ∧
            database.keys = .ok keys ∧
            database.deleteKeys (unused session.used keys) device = .error fault
        · obtain ⟨database, keys, opening, listed, refusal⟩ := barred
          exact .inr (.barred ended opening listed refusal kept)
        · refine .inl (.failed ended kept fun database opening => ?_)
          have refused := (reason database opening).1
          rcases evict_cases session.used database device with
            ⟨other, unlisted, same⟩ | ⟨other, keys, listed, refusal, same⟩ | ⟨_, _, _, _, same⟩
          · rw [refused] at same
            cases same
            exact unlisted
          · rw [refused] at same
            cases same
            exact absurd ⟨database, keys, opening, listed, refusal⟩ barred
          · rw [refused] at same
            cases same
    | done opening ready held acted =>
        rcases evict_cases session.used _ device with
          ⟨other, _, same⟩ | ⟨other, _, _, _, same⟩ | ⟨table, keys, present, texts, same⟩
        · rw [acted] at same
          cases same
        · rw [acted] at same
          cases same
        · rw [acted] at same
          cases same
          refine .inl (.done ended opening present ?_ texts (ready.change rfl))
          rw [World.table, World.place, held, present]
          rfl

theorem cleanup_step (session : Session State) (world : World State) :
    CleanupStep session world .free (session.cleanup world) := by
  rcases session.cleanup_cases world .free with step | barred
  · exact step
  · generalize session.cleanup world = step at barred ⊢
    cases barred with
    | barred unclosed opening listed refusal kept =>
        obtain ⟨result, erased⟩ := Store.Database.deleteKeys_of_keys listed
          (unused session.used _)
        rw [erased] at refusal
        cases refusal

/-- What a reading of the store can do: it fails, or answers what the opened store says. It keeps
the entries. -/
inductive ReadStep {α : Type} (session : Session State) (world : World State)
    (read : Store.Database → Except Store.Fault α) (device : Store.Device) : Step State α → Prop
  | failed {fault : Store.Fault} {disk : Disk}
      (kept : disk.table (world.place session.storePath) = world.table session.storePath)
      (reason : ∀ database, world.opened session.storePath device = .ok database →
        read database = .error fault ∧ disk.Ready (world.place session.storePath) database) :
      ReadStep session world read device (.error (.store fault), session, { world with disk })
  | done {database : Store.Database} {value : α} {disk : Disk}
      (opening : world.opened session.storePath device = .ok database)
      (found : read database = .ok value)
      (held : world.table session.storePath = database.entries.getD .empty)
      (ready : disk.Ready (world.place session.storePath) database) :
      ReadStep session world read device (.ok value, session, { world with disk })

theorem read_step {α : Type} (session : Session State) (world : World State)
    (read : Store.Database → Except Store.Fault α) (device : Store.Device := .free) :
    ReadStep session world read device
      (session.useStore world (fun database => return (← read database, database)) device) := by
  unfold useStore World.useStore
  have used := world.disk.useStore_step world.start session.storePath
    (fun database => return (← read database, database)) device
  generalize world.disk.useStore world.start session.storePath
    (fun database => return (← read database, database)) device = result at used ⊢
  cases used with
  | failed kept reason =>
      refine .failed kept fun database opening => ?_
      obtain ⟨unread, ready⟩ := reason database opening
      cases answer : read database with
      | error other =>
          rw [answer] at unread
          cases unread
          exact ⟨rfl, ready⟩
      | ok value =>
          rw [answer] at unread
          cases unread
  | @done database changed opened value opening ready held acted =>
      cases answer : read database with
      | error other =>
          rw [answer] at acted
          cases acted
      | ok other =>
          rw [answer] at acted
          cases acted
          exact .done opening answer held (ready.change rfl)

/-- A payload is stored in a store that is ready and has a table, or the device refuses it. -/
theorem put_cases {α : Type} (session : Session State) (world : World State)
    {database : Store.Database} {table : Store.Table}
    (ready : world.disk.Ready (world.place session.storePath) database)
    (present : database.entries = some table) (answer : α) (key : String)
    (payload : Store.Payload) (time : String) (device : Store.Device) :
    let stored := session.useStore world
      (fun database => return (answer, ← database.put key payload time device)) device
    (∃ disk changed, database.put key payload time device = .ok changed ∧
      stored = (.ok answer, session, { world with disk }) ∧
      disk.Ready (world.place session.storePath)
        { database with entries := some (table.insert (payload.toRow key time)) }) ∨
    ∃ fault disk, database.put key payload time device = .error fault ∧
      stored = (.error (.store fault), session, { world with disk }) ∧
      disk.Ready (world.place session.storePath) database := by
  have opening := Disk.openStore_ready ready device
  cases done : database.put key payload time device with
  | error fault =>
      refine .inr ⟨fault, _, rfl, ?_, ready.change rfl⟩
      simp only [useStore, World.useStore, Disk.useStore, opening, Disk.changeStore, done]
      rfl
  | ok changed =>
      have stored : database.put key payload time =
          .ok { database with entries := some (table.insert (payload.toRow key time)) } := by
        rw [Store.Database.put_eq, Store.Database.table_eq_ok.2 present]
        rfl
      have same := (Store.Database.put_ok done).symm.trans stored
      cases same
      refine .inl ⟨_, _, rfl, ?_, (ready.change rfl).change rfl⟩
      simp only [useStore, World.useStore, Disk.useStore, opening, Disk.changeStore, done]
      rfl

/-- What a cached fetch can do: it is refused, or cannot read the store, or finds a payload, or
stores the outcome of one fetch. -/
inductive CachedStep (session : Session State) (key : String) (world : World State)
    (device : Store.Device) : Step State (Option ByteArray) → Prop
  | refused (ended : session.isClosed) :
      CachedStep session key world device (.error (.closed session.name), session, world)
  | unread {fault : Store.Fault} {disk : Disk}
      (kept : disk.table (world.place session.storePath) = world.table session.storePath)
      (reason : ∀ database, world.opened session.storePath device = .ok database →
        database.get key = .error fault) :
      CachedStep session key world device
        (.error (.store fault), session.ask key, { world with disk })
  | hit {database : Store.Database} {payload : Store.Payload} {disk : Disk}
      (found : database.get key = .ok (some payload))
      (held : world.table session.storePath = database.entries.getD .empty)
      (ready : disk.Ready (world.place session.storePath) database)
      (unclosed : ¬session.isClosed)
      (opening : world.opened session.storePath device = .ok database) :
      CachedStep session key world device (.ok payload.body?, session.ask key, { world with disk })
  | miss {database : Store.Database} {table : Store.Table} {fetched : Fetch.Outcome × World State}
      {disk : Disk} (absent : table.find? (.text key) = none)
      (held : world.table session.storePath = table)
      (result : fetched = world.fetch session.transport session.policy key)
      (ready : disk.Ready (world.place session.storePath)
        { database with
          entries := some (table.insert (fetched.1.payload.toRow key world.timeOfDay)) })
      (unclosed : ¬session.isClosed)
      (opening : world.opened session.storePath device = .ok database)
      (missing : database.get key = .ok none)
      (accepted : ∃ changed,
        database.put key fetched.1.payload world.timeOfDay device = .ok changed) :
      CachedStep session key world device
        (.ok fetched.1.payload.body?, session.ask key, { fetched.2 with disk })

/-- What a cached fetch does whose outcome the device refuses: it has asked for the key and fetched
it, and keeps everything. -/
inductive CachedBarred (session : Session State) (key : String) (world : World State)
    (device : Store.Device) : Step State (Option ByteArray) → Prop
  | barred {fault : Store.Fault} {database : Store.Database}
      {fetched : Fetch.Outcome × World State} {disk : Disk} (unclosed : ¬session.isClosed)
      (opening : world.opened session.storePath device = .ok database)
      (missing : database.get key = .ok none)
      (result : fetched = world.fetch session.transport session.policy key)
      (refusal : database.put key fetched.1.payload world.timeOfDay device = .error fault)
      (kept : disk.table (world.place session.storePath) = world.table session.storePath) :
      CachedBarred session key world device
        (.error (.store fault), session.ask key, { fetched.2 with disk })

theorem getCached_cases (session : Session State) (key : String) (world : World State)
    (device : Store.Device) :
    CachedStep session key world device (session.getCached key world device) ∨
      CachedBarred session key world device (session.getCached key world device) := by
  unfold getCached whileOpen
  by_cases ended : session.isClosed
  · rw [if_pos ended]
    exact .inl (.refused ended)
  · rw [if_neg ended]
    dsimp only
    have reading := (session.ask key).read_step world (fun database => database.get key) device
    generalize (session.ask key).useStore world
      (fun database => return (← database.get key, database)) device = step at reading ⊢
    cases reading with
    | failed kept reason =>
        exact .inl (.unread kept fun database opening => (reason database opening).1)
    | @done database value disk opening found held ready =>
        cases value with
        | some payload => exact .inl (.hit found held ready ended opening)
        | none =>
            obtain ⟨table, present, absent⟩ := Store.Database.get_eq_none.1 found
            have whole : world.table session.storePath = table :=
              held.trans (by rw [present]; rfl)
            rcases (session.ask key).put_cases
              ({ world with disk }.fetch session.transport session.policy key).2 ready present
              (world.fetch session.transport session.policy key).1.payload.body? key
              (world.fetch session.transport session.policy key).1.payload world.timeOfDay device
              with ⟨rewritten, changed, put, stored, settled⟩ |
                ⟨fault, left, refusal, failed, settled⟩
            · refine .inl ((congrArg (CachedStep session key world device) stored).mpr ?_)
              exact .miss absent whole rfl settled ended opening found ⟨changed, put⟩
            · have barred : CachedBarred session key world device (.error (.store fault),
                  session.ask key,
                  { (world.fetch session.transport session.policy key).2 with disk := left }) :=
                .barred ended opening found rfl refusal (settled.table.trans held.symm)
              exact .inr ((congrArg (CachedBarred session key world device) failed).mpr barred)

theorem getCached_step (session : Session State) (key : String) (world : World State) :
    CachedStep session key world .free (session.getCached key world) := by
  rcases session.getCached_cases key world .free with step | barred
  · exact step
  · generalize session.getCached key world = step at barred ⊢
    cases barred with
    | barred unclosed opening missing result refusal kept =>
        obtain ⟨changed, stored⟩ := Store.Database.put_of_get missing
        rw [stored] at refusal
        cases refusal

/-- No operation moves the store of its session or the start of relative paths. -/
theorem perform_place (session : Session State) (call : Call) (world : World State)
    (device : Store.Device := .free) :
    (session.perform call world device).2.1.storePath = session.storePath ∧
      (session.perform call world device).2.2.start = world.start := by
  have cached : ∀ key, (session.getCached key world device).2.1.storePath = session.storePath ∧
      (session.getCached key world device).2.2.start = world.start := by
    intro key
    have done := session.getCached_cases key world device
    generalize session.getCached key world device = step at done ⊢
    rcases done with step | barred
    · cases step with
      | refused ended => exact ⟨rfl, rfl⟩
      | unread kept => exact ⟨rfl, rfl⟩
      | hit found held ready => exact ⟨rfl, rfl⟩
      | miss absent held result ready =>
          subst result
          exact ⟨rfl, rfl⟩
    · cases barred with
      | barred unclosed opening missing result refusal kept =>
          subst result
          exact ⟨rfl, rfl⟩
  cases call with
  | cached key => exact cached key
  | text key => exact cached key
  | uncached key =>
      by_cases ended : session.isClosed <;>
        simp [perform, Step.as, getUncached, whileOpen, ended, World.fetch]
  | cleanup =>
      have done := session.cleanup_cases world device
      rw [perform, Step.as]
      generalize session.cleanup world device = step at done ⊢
      rcases done with step | barred
      · cases step <;> exact ⟨rfl, rfl⟩
      · cases barred
        exact ⟨rfl, rfl⟩
  | entries =>
      by_cases ended : session.isClosed <;>
        simp [perform, Step.as, entries, whileOpen, ended, useStore, World.useStore]
  | close => exact ⟨rfl, rfl⟩

/-- A cached fetch keeps the entries, or adds one under a key that had none. -/
theorem getCached_table (session : Session State) (key : String) (world : World State)
    (device : Store.Device := .free) :
    let after := (session.getCached key world device).2.2
    after.table session.storePath = world.table session.storePath ∨
      ∃ payload, (world.table session.storePath).find? (.text key) = none ∧
        after.table session.storePath = (world.table session.storePath).insert
          (Store.Payload.toRow payload key world.timeOfDay) := by
  have done := session.getCached_cases key world device
  generalize session.getCached key world device = step at done ⊢
  rcases done with step | barred
  · cases step with
    | refused ended => exact .inl rfl
    | unread kept => exact .inl kept
    | hit found held ready => exact .inl (ready.table.trans held.symm)
    | miss absent held result ready =>
        subst held result
        exact .inr ⟨_, absent, ready.table⟩
  · cases barred with
    | barred unclosed opening missing result refusal kept =>
        subst result
        exact .inl kept

/-- An operation keeps the entries, or is a cached fetch that adds one under a key that had none, or
is a successful cleanup that erases the unused keys. -/
theorem perform_table (session : Session State) (call : Call) (world : World State)
    (device : Store.Device := .free) :
    let step := session.perform call world device
    step.2.2.table session.storePath = world.table session.storePath ∨
    (∃ key payload, (call = .cached key ∨ call = .text key) ∧
      (world.table session.storePath).find? (.text key) = none ∧
      step.2.2.table session.storePath = (world.table session.storePath).insert
        (Store.Payload.toRow payload key world.timeOfDay)) ∨
    (call = .cleanup ∧ (∃ answer, step.1 = .ok answer) ∧
      ∃ keys, (world.table session.storePath).rows.map Store.Row.key = keys.map Store.Key.text ∧
        step.2.2.table session.storePath =
          (world.table session.storePath).eraseAll (unused session.used keys)) := by
  cases call with
  | cached key =>
      rcases session.getCached_table key world device with same | ⟨payload, absent, same⟩
      · exact .inl same
      · exact .inr (.inl ⟨key, payload, .inl rfl, absent, same⟩)
  | text key =>
      rcases session.getCached_table key world device with same | ⟨payload, absent, same⟩
      · exact .inl same
      · exact .inr (.inl ⟨key, payload, .inr rfl, absent, same⟩)
  | uncached key =>
      left
      by_cases ended : session.isClosed <;>
        simp [perform, Step.as, getUncached, whileOpen, ended, World.table_fetch]
  | cleanup =>
      have done := session.cleanup_cases world device
      rw [perform, Step.as]
      generalize session.cleanup world device = step at done ⊢
      rcases done with step | barred
      · cases step with
        | refused ended => exact .inl rfl
        | failed unclosed kept unlisted => exact .inl kept
        | done unclosed opening present held texts ready =>
            subst held
            exact .inr (.inr ⟨rfl, ⟨_, rfl⟩, _, texts, ready.table⟩)
      · cases barred with
        | barred unclosed opening listed refusal kept => exact .inl kept
  | entries =>
      left
      rw [perform, Step.as, entries, whileOpen]
      by_cases ended : session.isClosed
      · rw [if_pos ended]
      · rw [if_neg ended]
        have done := session.read_step world Store.Database.summaries device
        generalize session.useStore world
          (fun database => return (← database.summaries, database)) device = step at done ⊢
        cases done with
        | failed kept reason => exact kept
        | done opening found held ready => exact ready.table.trans held.symm
  | close => exact .inl rfl

end Session

end FeedCache
