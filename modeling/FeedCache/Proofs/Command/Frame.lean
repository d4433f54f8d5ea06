/-
This file says what each command may change of the stores of all sessions.

Main statement: a command changes at most the session that it is for, and only a run over a feed and
a purge take entries away from it. Listing and purging make no store and no request.
-/
import FeedCache.Proofs.Command.Holdings
import FeedCache.Proofs.Store.Agreement

namespace FeedCache
open Store (Row Key Table)

theorem Store.Table.eq_empty {table : Table} (bare : table.rows = []) : table = .empty := by
  cases table
  cases bare
  rfl

/-- The row under a key of what a session holds. -/
def heldRow (held : Option Table) (key : Key) : Option Row := held.bind fun table => table.find? key

/-- Every row is there as it was, and the keys of the new ones are allowed. -/
structure Grown (before after : Option Table) (allowed : String → Prop) : Prop where
  stays : before.isSome → after.isSome
  keeps : ∀ key row, heldRow before key = some row → heldRow after key = some row
  added : ∀ key row, heldRow after key = some row →
    heldRow before key = some row ∨ ∃ text, key = .text text ∧ allowed text

namespace Grown

variable {before between after : Option Table} {allowed more : String → Prop}

theorem refl (held : Option Table) (allowed : String → Prop) : Grown held held allowed :=
  ⟨id, fun _ _ found => found, fun _ _ found => .inl found⟩

theorem weaken (grown : Grown before after allowed) (wider : ∀ key, allowed key → more key) :
    Grown before after more := by
  refine ⟨grown.stays, grown.keeps, fun key row found => (grown.added key row found).imp_right ?_⟩
  rintro ⟨text, same, permitted⟩
  exact ⟨text, same, wider text permitted⟩

theorem trans (first : Grown before between allowed) (second : Grown between after allowed) :
    Grown before after allowed := by
  refine ⟨fun present => second.stays (first.stays present), ?_, ?_⟩
  · intro key row found
    exact second.keeps key row (first.keeps key row found)
  · intro key row found
    rcases second.added key row found with earlier | new
    · exact first.added key row earlier
    · exact .inr new

end Grown

namespace Session
open World

variable {State : Type}

/-- A cached fetch adds at most its key to the store of its session. -/
theorem getCached_grown (session : Session State) (key : String) (world : World State)
    (device : Store.Device) :
    Grown (world.store? session.storePath)
      ((session.getCached key world device).2.2.store? session.storePath) (· = key) := by
  have start : (session.getCached key world device).2.2.start = world.start :=
    (session.perform_place (.cached key) world device).2
  have refiled := (session.getCached_worked key world device).refiled
  have tables := session.getCached_table key world device
  generalize (session.getCached key world device).2.2 = after at start refiled tables
  have place : after.place session.storePath = world.place session.storePath := by
    rw [World.place, start, ← World.place]
  have stays {table : Table} (present : world.store? session.storePath = some table) :
      after.store? session.storePath = some (after.table session.storePath) := by
    obtain ⟨readable, file, -⟩ := store?_eq_some.1 present
    rw [store?_eq_some, place]
    exact ⟨readable, refiled.holdsFile file, rfl⟩
  constructor
  · intro some
    obtain ⟨table, present⟩ := Option.isSome_iff_exists.1 some
    rw [stays present, Option.isSome_some]
  · intro other row found
    obtain ⟨table, present, here⟩ := Option.bind_eq_some_iff.1 found
    rw [heldRow, stays present, Option.bind_some]
    obtain ⟨-, -, rfl⟩ := store?_eq_some.1 present
    rcases tables with same | ⟨payload, absent, same⟩
    · rwa [same]
    · rw [same, Table.findInsert, Store.Payload.key_toRow, if_neg]
      · exact here
      · rintro rfl
        rw [absent] at here
        cases here
  · intro other row found
    obtain ⟨table, present, here⟩ := Option.bind_eq_some_iff.1 found
    obtain ⟨readable, file, rfl⟩ := store?_eq_some.1 present
    rw [place] at readable
    have known (there : (world.table session.storePath).find? other = some row) :
        heldRow (world.store? session.storePath) other = some row := by
      rw [heldRow, store?_of_find? readable there, Option.bind_some, there]
    rcases tables with same | ⟨payload, absent, same⟩
    · rw [same] at here
      exact .inl (known here)
    · rw [same, Table.findInsert, Store.Payload.key_toRow] at here
      split at here
      · rename_i new
        exact .inr ⟨key, new.symm, rfl⟩
      · exact .inl (known here)

end Session

namespace Command
open World

variable {State : Type}

/-- A listing or a purge acts on nothing but the disk. -/
structure Quiet (before after : World State) : Prop where
  start : after.start = before.start
  network : after.network = before.network
  requests : after.requests = before.requests

/-- A listing keeps what is held and shows it. It does not fail where the store can be opened and
read. -/
theorem listEntries_spec {session : Session State} (unclosed : ¬session.isClosed)
    (world : World State) (device : Store.Device) :
    let step := listEntries session world device
    Quiet world step.2 ∧ step.2.store? session.storePath = world.store? session.storePath ∧
      (∀ entries, step.1 = .ok entries →
        ((world.store? session.storePath).getD .empty).rows.mapM Row.summary = .ok entries) ∧
      ∀ database entries, world.opened session.storePath device = .ok database →
        database.summaries = .ok entries → ∃ shown, step.1 = .ok shown := by
  unfold listEntries
  split
  · rename_i present
    have worked := (session.perform_worked .entries world device).refiled
    have read := session.read_step world Store.Database.summaries device
    simp only [Session.perform, Session.entries, Session.whileOpen, if_neg unclosed] at worked ⊢
    generalize session.useStore world
      (fun database => return (← database.summaries, database)) device = step at read worked ⊢
    cases read with
    | failed kept reason =>
        refine ⟨⟨rfl, rfl, rfl⟩, store?_of_kept rfl worked kept present, by simp, ?_⟩
        intro database entries opening listed
        rw [(reason database opening).1] at listed
        cases listed
    | @done database entries disk opening found held ready =>
        have kept := ready.table.trans held.symm
        refine ⟨⟨rfl, rfl, rfl⟩, store?_of_kept rfl worked kept present, fun listed same => ?_,
          fun _ _ _ _ => ⟨entries, rfl⟩⟩
        cases same
        obtain ⟨table, stored, success⟩ := bind_eq_ok.1 found
        rw [Store.Database.table_eq_ok.1 stored] at held
        rw [store?_of_opened present opening, held]
        exact success
  · rename_i absent
    refine ⟨⟨rfl, rfl, rfl⟩, rfl, fun entries same => ?_, fun _ _ _ _ => ⟨[], rfl⟩⟩
    cases same
    rw [store?_of_absent absent]
    rfl

/-- A session that has asked for nothing erases all rows. -/
theorem eraseAll_all {table : Table} {keys : List String}
    (texts : table.rows.map Row.key = keys.map Key.text) :
    table.eraseAll (Session.unused [] keys) = .empty := by
  have rows := @Session.eraseAll_unused table [] keys texts
  have none : table.rows.filter (Session.isUsed []) = [] :=
    List.filter_eq_nil_iff.2 fun row member => by simp [Session.isUsed]
  exact Table.eq_empty (rows.trans none)

/-- A purge that succeeds reports all entries as removed, and leaves an empty store if there was
one. One that fails keeps the entries, and it does not fail where the store can be opened and its
keys can be read, if the device takes in an empty store. -/
theorem purgeStore_spec {session : Session State} (unclosed : ¬session.isClosed)
    (fresh : session.used = []) (world : World State) (device : Store.Device) :
    let step := purgeStore session world device
    Quiet world step.2 ∧
      (∀ report, step.1 = .ok report →
        step.2.store? session.storePath =
            (world.store? session.storePath).map (fun _ => Table.empty) ∧
          report.removed.length = ((world.store? session.storePath).getD .empty).size) ∧
      (∀ failure, step.1 = .error failure →
        step.2.store? session.storePath = world.store? session.storePath) ∧
      ∀ database keys, world.opened session.storePath device = .ok database →
        database.keys = .ok keys →
        (keys ≠ [] →
          device.refuses database { database with entries := some .empty } = none) →
        ∃ report, step.1 = .ok report := by
  unfold purgeStore
  split
  · rename_i present
    have worked := (session.cleanup_worked world device).refiled
    have done := session.cleanup_cases world device
    generalize session.cleanup world device = step at done worked ⊢
    rcases done with step | barred
    · cases step with
      | refused ended => exact absurd ended unclosed
      | failed unclosed kept unlisted =>
          refine ⟨⟨rfl, rfl, rfl⟩, nofun, fun _ _ => store?_of_kept rfl worked kept present, ?_⟩
          intro database keys opening listed
          rw [unlisted database opening] at listed
          cases listed
      | @done database table keys disk unclosed opening held same texts ready =>
          refine ⟨⟨rfl, rfl, rfl⟩, fun report success => ?_, fun failure failed => ?_,
            fun _ _ _ _ _ => ⟨_, rfl⟩⟩
          · cases success
            have stored := store?_of_opened present opening
            have counted : (table.eraseAll (Session.unused session.used keys)).size +
                (Session.unused session.used keys).length = table.size :=
              Session.size_eraseAll_unused texts
            have emptied : table.eraseAll (Session.unused session.used keys) = .empty := by
              rw [fresh, eraseAll_all texts]
            rw [emptied] at ready counted
            rw [stored, same]
            refine ⟨store?_eq_some.2 ⟨(store?_eq_some.1 stored).1, ⟨_, ready.found, nofun⟩, ?_⟩,
              ?_⟩
            · exact ready.table
            · exact (Nat.zero_add _).symm.trans counted
          · cases failed
    · cases barred with
      | @barred fault database keys disk unclosed opening listed refusal kept =>
          refine ⟨⟨rfl, rfl, rfl⟩, nofun, fun _ _ => store?_of_kept rfl worked kept present, ?_⟩
          intro other texts again relisted accepted
          cases opening.symm.trans again
          cases listed.symm.trans relisted
          obtain ⟨table, stored, same⟩ := Store.Database.keys_eq_ok.1 listed
          have doomed : Session.unused session.used keys = keys := by
            rw [fresh, Session.unused]
            exact List.filter_eq_self.2 fun _ _ => rfl
          have emptied : table.eraseAll keys = .empty := by
            rw [← doomed, fresh, eraseAll_all same]
          rw [doomed] at refusal
          obtain ⟨result, erased⟩ := Store.Database.deleteKeys_accepted stored (emptied ▸ accepted)
          cases refusal.symm.trans erased
  · rename_i absent
    refine ⟨⟨rfl, rfl, rfl⟩, fun report same => ?_, fun failure failed => ?_,
      fun _ _ _ _ _ => ⟨_, rfl⟩⟩
    · cases same
      rw [store?_of_absent absent]
      exact ⟨rfl, rfl⟩
    · cases failed

/-- The session that a command is for. -/
def session? : Command → Option String
  | .grab session _ _ _ _ | .get session _ | .keys session | .purge session => some session
  | .fetch _ => none

/-- The commands that clean up. -/
def Removes : Command → Prop
  | .grab .. | .purge _ => True
  | .get .. | .fetch _ | .keys _ => False

/-- What is printed of an entry: its key, how long its body is, whether it is marked as failed, and
its time. -/
inductive Shown : Row → Json.Value → Prop
  | entry (key : String) (body : Store.Cell) (mark : Int) (time : String)
      (small : -0x80000000 ≤ mark ∧ mark < 0x80000000) :
      Shown ⟨.text key, body, .integer mark, .text time⟩
        (.object [("key", .text key), ("size", .number body.length),
          ("failed", .boolean (mark = 1)), ("stored_at", .text time)])

section Listing

variable (device : Store.Device) (opened : Option (Session State))
  (base namespaceName name : String)

/-- What a listing does: it keeps what is held and prints a list of it, in increasing order of the
keys. It does not fail where there is no store, or where the store can be opened and read. -/
structure Listed (before : World State) (exit : Exit) (after : World State) : Prop where
  quiet : Quiet before after
  kept : after.holdings base namespaceName name = before.holdings base namespaceName name
  shown : exit.code = 0 →
    let rows := ((before.holdings base namespaceName name).getD .empty).rows
    ∃ (keys : List String) (values : List Json.Value), rows.map Row.key = keys.map Key.text ∧
      keys.Pairwise Store.Precedes ∧ List.Forall₂ Shown rows values ∧
      exit.output = jsonBytes (.list values)
  absent : ∀ session, opened = some session → ¬before.exists? session.storePath →
    exit = { code := 0, output := "[]\n".toUTF8 } ∧ after = before
  succeeds : ∀ session database entries, opened = some session →
    before.opened session.storePath device = .ok database → database.summaries = .ok entries →
    exit.code = 0

/-- What a purge does: it leaves an empty store where there was one, and says how many entries
went. It does not fail where there is no store, or where the store can be opened, its keys can be
read, and the device takes in an empty store. -/
structure Purged (before : World State) (exit : Exit) (after : World State) : Prop where
  quiet : Quiet before after
  emptied : exit.code = 0 →
    after.holdings base namespaceName name =
      (before.holdings base namespaceName name).map fun _ => Table.empty
  printed : exit.code = 0 →
    let count := ((before.holdings base namespaceName name).getD .empty).size
    exit.output =
      (if count = 0 then "Nothing stored for " ++ name ++ ".\n"
      else "Removed " ++ toString count ++ " entries from " ++ name ++ ".\n").toUTF8
  spared : exit.code ≠ 0 →
    after.holdings base namespaceName name = before.holdings base namespaceName name
  absent : ∀ session, opened = some session → ¬before.exists? session.storePath →
    exit = { code := 0, output := ("Nothing stored for " ++ name ++ ".\n").toUTF8 } ∧
      after = before
  succeeds : ∀ session database keys, opened = some session →
    before.opened session.storePath device = .ok database → database.keys = .ok keys →
    (keys ≠ [] → device.refuses database { database with entries := some .empty } = none) →
    exit.code = 0

end Listing

/-- A listed entry is printed as its row says. -/
theorem shown_of_summary {row : Row} {entry : Store.Summary} (listed : row.summary = .ok entry) :
    Shown row (summaryJson entry) := by
  obtain ⟨key, body, failed, time⟩ := row
  obtain ⟨named, marked, timed, sized⟩ := Row.summary_eq_ok.1 listed
  obtain ⟨mark, integer, small, same⟩ := Store.Cell.toMark_eq_ok.1 marked
  dsimp only at named marked timed sized integer
  subst named integer timed
  have shown := Shown.entry entry.key body mark entry.storedAt small
  rw [summaryJson, ← sized, ← same]
  exact shown

theorem shown_of_summaries {rows : List Row} {entries : List Store.Summary}
    (listed : rows.mapM Row.summary = .ok entries) :
    List.Forall₂ Shown rows (entries.map summaryJson) :=
  List.forall₂_map_right_iff.2
    ((Store.mapM_eq_ok.1 listed).imp fun _ _ success => shown_of_summary success)

/-- What a purge prints says how many entries went. -/
theorem purgeText_eq (name : String) {report : Session.Report} {count : Nat}
    (counted : report.removed.length = count) :
    purgeText name report =
      if count = 0 then "Nothing stored for " ++ name ++ ".\n"
      else "Removed " ++ toString count ++ " entries from " ++ name ++ ".\n" := by
  subst counted
  rw [purgeText]
  simp only [List.isEmpty_iff, List.length_eq_zero_iff]

/-- What a command may change of the stores below a base directory, and what it prints of them. -/
structure Framed (device : Store.Device) (opened : String → Option (Session State))
    (base namespaceName : String) (command : Command) (before : World State) (exit : Exit)
    (after : World State) : Prop where
  /-- The other sessions hold what they held. -/
  others : ∀ name, command.session? ≠ some name →
    after.holdings base namespaceName name = before.holdings base namespaceName name
  /-- Without a cleanup no entry goes, and only the key that is asked for comes. -/
  grown : ¬command.Removes → ∀ name,
    Grown (before.holdings base namespaceName name) (after.holdings base namespaceName name)
      fun key => command = .get name key
  fetch : ∀ url, command = .fetch url → after.disk = before.disk
  keys : ∀ name, command = .keys name →
    Listed device (opened name) base namespaceName name before exit after
  purge : ∀ name, command = .purge name →
    Purged device (opened name) base namespaceName name before exit after

variable {base namespaceName : String}

theorem holdings_of_path {name path : String} {world : World State}
    (named : Store.path base namespaceName name = .ok path) :
    world.holdings base namespaceName name = world.store? path := by
  rw [World.holdings, named]
  rfl

/-- What is kept at the path of a session's store is what the session holds. -/
theorem holdings_of_keeps {name : String} {before after : World State}
    (kept : ∀ path, Store.path base namespaceName name = .ok path →
      KeepsStore path before after) :
    after.holdings base namespaceName name = before.holdings base namespaceName name := by
  cases named : Store.path base namespaceName name with
  | ok path => rw [holdings_of_path named, holdings_of_path named, (kept path named).store]
  | error fault =>
      rw [World.holdings, World.holdings, named]
      rfl

/-- A command that fails before it acts has changed nothing. -/
theorem framed_of_unreached {device : Store.Device} {opened : String → Option (Session State)}
    {command : Command} {world : World State} {exit : Exit} (failed : exit.code ≠ 0)
    (unopened : ∀ name, command.session? = some name → opened name = none) :
    Framed device opened base namespaceName command world exit world where
  others _ _ := rfl
  grown _ name := .refl _ _
  fetch _ _ := rfl
  keys name asked := by
    have none : opened name = none := unopened name (by rw [asked]; rfl)
    exact ⟨⟨rfl, rfl, rfl⟩, rfl, fun success => absurd success failed, by simp [none],
      by simp [none]⟩
  purge name asked := by
    have none : opened name = none := unopened name (by rw [asked]; rfl)
    exact ⟨⟨rfl, rfl, rfl⟩, fun success => absurd success failed,
      fun success => absurd success failed, fun _ => rfl, by simp [none], by simp [none]⟩

/-- A session that has just been opened over a base directory and a namespace. -/
structure Opened (base namespaceName name : String) (session : Session State) : Prop where
  named : Store.path base namespaceName name = .ok session.storePath
  name : session.name = name
  fresh : session.used = []
  unclosed : ¬session.isClosed

/-- Where the settings put stores, if they put them anywhere. -/
def IsPlaced (settings : Settings) (home : Option String) (base namespaceName : String) : Prop :=
  ∀ found, settings.base? home = some found →
    found = base ∧ settings.namespaceName = namespaceName

theorem opened_of_settings {name : String} {home : Option String} {settings : Settings}
    {wire : Http.Wire State} {session : Session State}
    (placed : IsPlaced settings home base namespaceName)
    (opened : Session.ofSettings name home settings wire = .ok session) :
    Opened base namespaceName name session := by
  obtain ⟨⟨found, same, place⟩, name, fresh, created⟩ := ofSettings_place opened
  obtain ⟨rfl, rfl⟩ := placed found same
  exact ⟨place, name, fresh, by simp [Session.isClosed, created]⟩

/-- What is done in a session is nothing, or one of its operations. -/
def Acted (session : Session State) (device : Store.Device) (before after : World State) : Prop :=
  after = before ∨ ∃ call, after = (session.perform call before device).2.2

theorem getBody_world (session : Session State) (url : String) (world : World State)
    (device : Store.Device) :
    (getBody session url world device).2 = (session.getCached url world device).2.2 := by
  unfold getBody
  split <;> rename_i same <;> rw [same]

theorem listEntries_acted (session : Session State) (world : World State)
    (device : Store.Device) :
    Acted session device world (listEntries session world device).2 := by
  unfold listEntries
  split
  · refine .inr ⟨.entries, ?_⟩
    dsimp only [Session.perform, Session.Step.as]
    split <;> rename_i same <;> rw [same]
  · exact .inl rfl

theorem purgeStore_acted (session : Session State) (world : World State)
    (device : Store.Device) :
    Acted session device world (purgeStore session world device).2 := by
  unfold purgeStore
  split
  · refine .inr ⟨.cleanup, ?_⟩
    dsimp only [Session.perform, Session.Step.as]
    split <;> rename_i same <;> rw [same]
  · exact .inl rfl

/-- How a command ends with its answer. -/
def Exit.ofAnswer : Except Failure ByteArray → Exit
  | .ok output => { code := 0, output }
  | .error failure => { code := 1, error := failure.text }

theorem Exit.ofAnswer_code {α : Type} {answer : Except Failure α} (print : α → ByteArray) :
    (ofAnswer (answer.map print)).code = 0 ↔ ∃ value, answer = .ok value := by
  cases answer <;> simp [ofAnswer, Except.map]

section Acts

variable {session : Session State} {name : String} {world after : World State}
  {device : Store.Device}
  (opened : Opened base namespaceName name session)
include opened

/-- What is done in a session is not seen in the store of another one. -/
theorem Opened.others (acted : Acted session device world after) {other : String}
    (different : name ≠ other) :
    after.holdings base namespaceName other = world.holdings base namespaceName other := by
  rcases acted with rfl | ⟨call, rfl⟩
  · rfl
  · apply holdings_of_keeps
    intro path named
    exact perform_keeps (Store.beside_of_names named opened.named different.symm) call world device

/-- Where the entries of one session have grown and the others are kept, all have grown. -/
theorem Opened.grown {allowed : String → Prop} (acted : Acted session device world after)
    (own : Grown (world.store? session.storePath) (after.store? session.storePath) allowed)
    (other : String) :
    Grown (world.holdings base namespaceName other) (after.holdings base namespaceName other)
      fun key => name = other ∧ allowed key := by
  by_cases same : name = other
  · subst same
    rw [holdings_of_path opened.named, holdings_of_path opened.named]
    exact own.weaken fun key permitted => ⟨rfl, permitted⟩
  · rw [opened.others acted same]
    exact .refl _ _

theorem Opened.listed (device : Store.Device) :
    let step := listEntries session world device
    Listed device (some session) base namespaceName name world
      (.ofAnswer (step.1.map fun entries => jsonBytes (.list (entries.map summaryJson))))
      step.2 := by
  intro step
  obtain ⟨quiet, kept, shown, succeeds⟩ := listEntries_spec opened.unclosed world device
  refine ⟨quiet, ?_, ?_, ?_, ?_⟩
  · rw [holdings_of_path opened.named, holdings_of_path opened.named]
    exact kept
  · intro success
    obtain ⟨entries, answer⟩ := (Exit.ofAnswer_code _).1 success
    have rows := shown entries answer
    have listed : Store.Database.keys ⟨none, some _⟩ = .ok (entries.map Store.Summary.key) :=
      Store.Database.keys_of_summaries rows
    obtain ⟨table, stored, texts⟩ := Store.Database.keys_eq_ok.1 listed
    cases stored
    rw [holdings_of_path opened.named, answer]
    exact ⟨_, _, texts, Store.Database.keys_increasing texts, shown_of_summaries rows, rfl⟩
  · rintro session same absent
    cases same
    have skipped : step = (.ok [], world) := if_neg absent
    rw [skipped]
    exact ⟨rfl, rfl⟩
  · rintro session database entries same opening listed
    cases same
    exact (Exit.ofAnswer_code _).2 (succeeds database entries opening listed)

theorem Opened.purged (device : Store.Device) :
    let step := purgeStore session world device
    Purged device (some session) base namespaceName name world
      (.ofAnswer (step.1.map fun report => (purgeText name report).toUTF8)) step.2 := by
  intro step
  obtain ⟨quiet, emptied, spared, succeeds⟩ :=
    purgeStore_spec opened.unclosed opened.fresh world device
  refine ⟨quiet, ?_, ?_, ?_, ?_, ?_⟩
  · intro success
    obtain ⟨report, answer⟩ := (Exit.ofAnswer_code _).1 success
    rw [holdings_of_path opened.named, holdings_of_path opened.named]
    exact (emptied report answer).1
  · intro success
    obtain ⟨report, answer⟩ := (Exit.ofAnswer_code _).1 success
    rw [holdings_of_path opened.named, answer]
    exact congrArg String.toUTF8 (purgeText_eq name (emptied report answer).2)
  · intro failed
    obtain ⟨failure, answer⟩ := exists_error_iff.2 (mt (Exit.ofAnswer_code _).2 failed)
    rw [holdings_of_path opened.named, holdings_of_path opened.named]
    exact spared failure answer
  · rintro session same absent
    cases same
    have skipped : step = (.ok {}, world) := if_neg absent
    rw [skipped]
    exact ⟨rfl, rfl⟩
  · rintro session database keys same opening listed accepted
    cases same
    exact (Exit.ofAnswer_code _).2 (succeeds database keys opening listed accepted)

variable {enter : String → Option (Session State)}

theorem Opened.framed_get (url : String) (exit : Exit) :
    Framed device enter base namespaceName (.get name url) world exit
      (getBody session url world device).2 := by
  have acted : Acted session device world (getBody session url world device).2 :=
    .inr ⟨.cached url, getBody_world session url world device⟩
  have own := session.getCached_grown url world device
  rw [← getBody_world] at own
  refine ⟨fun other different => opened.others acted fun same => different ?_,
    fun _ other => (opened.grown acted own other).weaken ?_, nofun, nofun, nofun⟩
  · rw [← same]
    rfl
  · rintro key ⟨rfl, rfl⟩
    rfl

theorem Opened.framed_keys (entered : enter name = some session) :
    let step := listEntries session world device
    Framed device enter base namespaceName (.keys name) world
      (.ofAnswer (step.1.map fun entries => jsonBytes (.list (entries.map summaryJson))))
      step.2 := by
  intro step
  have kept (other : String) :
      step.2.holdings base namespaceName other = world.holdings base namespaceName other := by
    by_cases same : name = other
    · exact same ▸ (opened.listed device).kept
    · exact opened.others (listEntries_acted session world device) same
  refine ⟨fun other _ => kept other, fun _ other => kept other ▸ .refl _ _, nofun, ?_, nofun⟩
  rintro _ ⟨⟩
  rw [entered]
  exact opened.listed device

theorem Opened.framed_purge (entered : enter name = some session) :
    let step := purgeStore session world device
    Framed device enter base namespaceName (.purge name) world
      (.ofAnswer (step.1.map fun report => (purgeText name report).toUTF8)) step.2 := by
  intro step
  refine ⟨fun other different => opened.others (purgeStore_acted session world device) ?_,
    fun spares => absurd trivial spares, nofun, nofun, ?_⟩
  · rintro rfl
    exact different rfl
  · rintro _ ⟨⟩
    rw [entered]
    exact opened.purged device

end Acts

section Perform

variable (wire : Http.Wire State) {settings : Settings} {call : Call} (world : World State)
  (device : Store.Device) (placed : IsPlaced settings call.home base namespaceName)

/-- A fetch without a session leaves the disk alone. -/
theorem fetchBody_keeps (settings : Settings) (url : String) :
    let after := (fetchBody settings wire url world).2
    after.start = world.start ∧ after.disk = world.disk := by
  unfold fetchBody
  split
  · exact ⟨rfl, rfl⟩
  · split <;> rename_i same <;> exact ⟨congrArg (fun step => step.2.start) same.symm,
      congrArg (fun step => step.2.disk) same.symm⟩

include placed in
/-- What a command does with its settings. -/
theorem perform_framed (command : Command) :
    let step := perform command settings wire call world device
    Framed device (fun name => (Session.ofSettings name call.home settings wire).toOption) base
      namespaceName command world (.ofAnswer step.1) step.2 := by
  -- A command that gets no session fails at once.
  have unreached {name : String} {fault : Session.Fault} {command : Command}
      (entry : Session.ofSettings name call.home settings wire = .error fault)
      (own : command.session? = some name) :
      Framed device (fun name => (Session.ofSettings name call.home settings wire).toOption) base
        namespaceName command world (.ofAnswer (.error (.session fault))) world := by
    apply framed_of_unreached Nat.one_ne_zero
    intro other asked
    cases own.symm.trans asked
    rw [entry]
    rfl
  cases command with
  | grab name primary secondary fromInput directory =>
      refine ⟨fun other different => ?_, fun spares => absurd trivial spares, nofun, nofun, nofun⟩
      apply holdings_of_keeps
      intro path named
      apply grabAll_keeps named
      intro session entry
      have opened := opened_of_settings placed entry
      refine ⟨opened.unclosed, ?_, opened.name ▸ opened.named⟩
      rintro rfl
      exact different (congrArg some opened.name.symm)
  | get name url =>
      dsimp only [perform]
      cases entry : Session.ofSettings name call.home settings wire with
      | error fault => exact unreached entry rfl
      | ok session => exact (opened_of_settings placed entry).framed_get url _
  | fetch url =>
      obtain ⟨start, disk⟩ := fetchBody_keeps wire world settings url
      have node (place : Place) :
          (fetchBody settings wire url world).2.disk.node? place = world.disk.node? place := by
        rw [disk]
      have kept (other : String) :
          (fetchBody settings wire url world).2.holdings base namespaceName other =
          world.holdings base namespaceName other :=
        holdings_of_keeps fun path _ => .of_node start (node (world.place path))
      exact ⟨fun other _ => kept other, fun _ other => kept other ▸ .refl _ _, fun _ _ => disk,
        nofun, nofun⟩
  | keys name =>
      dsimp only [perform]
      cases entry : Session.ofSettings name call.home settings wire with
      | error fault => exact unreached entry rfl
      | ok session =>
          exact (opened_of_settings placed entry).framed_keys (congrArg Except.toOption entry)
  | purge name =>
      dsimp only [perform]
      cases entry : Session.ofSettings name call.home settings wire with
      | error fault => exact unreached entry rfl
      | ok session =>
          exact (opened_of_settings placed entry).framed_purge (congrArg Except.toOption entry)

end Perform

theorem run_performed (wire : Http.Wire State) {call : Call} {world : World State}
    {device : Store.Device} {invocation : Invocation} {settings : Settings}
    (asked : call.invocation = .ok invocation)
    (loaded : settingsOf call.environment invocation.basePath world = .ok settings) :
    let step := perform invocation.command settings wire call world device
    run wire call world device = (.ofAnswer step.1, step.2) := by
  rw [run, asked]
  dsimp only
  rw [loaded]
  dsimp only
  split <;> rename_i same <;> rw [same] <;> rfl

/-- If its settings load and give a place for stores, the call works below the base directory and in
the namespace. -/
def Call.IsOver (call : Call) (base namespaceName : String) (world : World State) : Prop :=
  ∀ invocation settings, call.invocation = .ok invocation →
    settingsOf call.environment invocation.basePath world = .ok settings →
      IsPlaced settings call.home base namespaceName

/-- What a call does whose arguments name a command. -/
theorem run_framed (wire : Http.Wire State) {call : Call} {world : World State}
    (device : Store.Device) {invocation : Invocation}
    (based : call.IsOver base namespaceName world) (asked : call.invocation = .ok invocation) :
    Framed device (fun name => sessionOf wire call invocation.basePath name world) base
      namespaceName invocation.command world (run wire call world device).1
      (run wire call world device).2 := by
  cases loaded : settingsOf call.environment invocation.basePath world with
  | error failure =>
      have stopped : run wire call world device =
          ({ code := 1, error := failure.text }, world) := by
        rw [run, asked]
        dsimp only
        rw [loaded]
      rw [stopped]
      apply framed_of_unreached Nat.one_ne_zero
      intro name own
      rw [sessionOf, loaded]
      rfl
  | ok settings =>
      have placed := based invocation settings asked loaded
      rw [run_performed wire asked loaded]
      have framed := perform_framed wire world device placed invocation.command
      simp only [sessionOf, loaded]
      exact framed

end Command

end FeedCache
