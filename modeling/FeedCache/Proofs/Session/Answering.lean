/-
This file says when a cached fetch answers.

Main statement: a cached fetch fails exactly if its session is closed, its store cannot be read, or
the device refuses to store what was fetched. Nothing has been requested in the first two cases, and
the key has been fetched in the third; every entry is as it was in all of them. Whatever goes wrong
on the network is stored as a failure and answered without a body.
-/
import FeedCache.Proofs.Session.Acceptance
import FeedCache.Proofs.Session.Serving

namespace FeedCache

namespace Session

variable {State : Type}

/-- The row for what a fetch of the key brings. -/
def rowOf (session : Session State) (key : String) (world : World State) : Store.Row :=
  (world.fetch session.transport session.policy key).1.payload.toRow key world.timeOfDay

/-- The key has no entry, and the device of the store refuses the one that its fetch brings. -/
structure Refused (session : Session State) (key : String) (world : World State)
    (device : Store.Device) : Prop where
  unclosed : ¬session.isClosed
  absent : (world.table session.storePath).find? (.text key) = none
  refusal : ∃ database fault, world.opened session.storePath device = .ok database ∧
    database.entries.isSome ∧
    device.refuses database
      { database with
        entries := some ((world.table session.storePath).insert (session.rowOf key world)) } =
      some fault

/-- The session is closed, or the store cannot be opened with a table of entries, or the row under
the key cannot be read. -/
def Unread (session : Session State) (key : String) (world : World State)
    (device : Store.Device) : Prop :=
  session.isClosed ∨ ¬world.Opens session.storePath device ∨
    ∃ row, (world.table session.storePath).find? (.text key) = some row ∧ ¬row.Readable

/-- An operation fails, and leaves a world as it was when that was reached, but for the disk. The
entries are those from before the operation. -/
structure Step.Fails {α : Type} (step : Step State α) (path : String) (before reached : World State) :
    Prop where
  error : ∃ fault, step.1 = .error fault
  frame : step.2.2 = { reached with disk := step.2.2.disk }
  kept : step.2.2.table path = before.table path

/-- The opened store has the entries that were there before, so its rows can be spoken of before it
is opened. -/
theorem opened_get_isOk (world : World State) (path key : String)
    (device : Store.Device := .free) :
    (∃ database, world.opened path device = .ok database ∧
      ∃ found, database.get key = .ok found) ↔
      world.Opens path device ∧
        ∀ row, (world.table path).find? (.text key) = some row → row.Readable := by
  constructor
  · rintro ⟨database, opening, success⟩
    obtain ⟨table, present, readable⟩ := Store.Database.get_isOk.1 success
    have held : world.table path = table :=
      (Disk.openStore_entries opening).trans (by rw [present]; rfl)
    exact ⟨⟨database, opening, by rw [present]; rfl⟩, held ▸ readable⟩
  · rintro ⟨⟨database, opening, hasTable⟩, readable⟩
    obtain ⟨table, present⟩ := Option.isSome_iff_exists.1 hasTable
    have held : world.table path = table :=
      (Disk.openStore_entries opening).trans (by rw [present]; rfl)
    exact ⟨database, opening, Store.Database.get_isOk.2 ⟨table, present, held ▸ readable⟩⟩

/-- A store is not read exactly if the session is closed or no payload can be looked up. -/
theorem not_unread {session : Session State} {key : String} {world : World State}
    {device : Store.Device} :
    ¬session.Unread key world device ↔
      ¬session.isClosed ∧ ∃ database, world.opened session.storePath device = .ok database ∧
        ∃ found, database.get key = .ok found := by
  rw [opened_get_isOk world session.storePath key device, Unread]
  simp only [not_or, not_not, not_exists, not_and]

/-- Where a key has no entry, the device refuses its row exactly if the payload cannot be put. -/
theorem refused_iff {session : Session State} {key : String} {world : World State}
    {device : Store.Device} {database : Store.Database} (unclosed : ¬session.isClosed)
    (opening : world.opened session.storePath device = .ok database)
    (missing : database.get key = .ok none) :
    session.Refused key world device ↔
      ∃ fault, database.put key (world.fetch session.transport session.policy key).1.payload
        world.timeOfDay device = .error fault := by
  obtain ⟨table, present, absent⟩ := Store.Database.get_eq_none.1 missing
  have held : world.table session.storePath = table :=
    (Disk.openStore_entries opening).trans (by rw [present]; rfl)
  have put : database.put key (world.fetch session.transport session.policy key).1.payload
      world.timeOfDay device = device.write database { database with
        entries := some ((world.table session.storePath).insert (session.rowOf key world)) } := by
    rw [Store.Database.put_eq, Store.Database.table_eq_ok.2 present, held]
    rfl
  simp only [put, Store.Device.write_eq_error]
  constructor
  · rintro ⟨-, -, other, fault, same, -, refusal⟩
    cases opening.symm.trans same
    exact ⟨fault, refusal⟩
  · rintro ⟨fault, refusal⟩
    exact ⟨unclosed, held ▸ absent, database, fault, opening, by rw [present]; rfl, refusal⟩

theorem Refused.not_unread {session : Session State} {key : String} {world : World State}
    {device : Store.Device} (refused : session.Refused key world device) :
    ¬session.Unread key world device := by
  obtain ⟨unclosed, absent, database, fault, opening, hasTable, -⟩ := refused
  rintro (ended | unopened | ⟨row, present, -⟩)
  · exact unclosed ended
  · exact unopened ⟨database, opening, hasTable⟩
  · exact nomatch absent.symm.trans present

/-- A free device refuses nothing. -/
theorem not_refused_free (session : Session State) (key : String) (world : World State) :
    ¬session.Refused key world .free := by
  rintro ⟨-, -, database, fault, -, -, refusal⟩
  cases refusal

/-- A cached fetch does one of three things: it fails before anything is requested, or with its
fetch made, or it answers. -/
theorem getCached_exact (session : Session State) (key : String) (world : World State)
    (device : Store.Device) :
    let step := session.getCached key world device
    let fetched := (world.fetch session.transport session.policy key).2
    session.Unread key world device ∧ step.Fails session.storePath world world ∨
    session.Refused key world device ∧ step.Fails session.storePath world fetched ∨
    ¬session.Unread key world device ∧ ¬session.Refused key world device ∧
      ∃ value, step.1 = .ok value := by
  have done := session.getCached_cases key world device
  generalize session.getCached key world device = step at done ⊢
  rcases done with done | barred
  · cases done with
    | refused ended => exact .inl ⟨.inl ended, ⟨_, rfl⟩, rfl, rfl⟩
    | unread kept reason =>
        refine .inl ⟨by_contra fun readable => ?_, ⟨_, rfl⟩, rfl, kept⟩
        obtain ⟨-, database, opening, found, success⟩ := not_unread.1 readable
        cases (reason database opening).symm.trans success
    | @hit database payload disk found held ready unclosed opening =>
        refine .inr (.inr ⟨not_unread.2 ⟨unclosed, database, opening, _, found⟩, ?_, _, rfl⟩)
        rintro ⟨-, absent, -⟩
        obtain ⟨table, row, present, here, -⟩ := Store.Database.get_eq_some.1 found
        have whole : world.table session.storePath = table := held.trans (by rw [present]; rfl)
        cases (whole ▸ absent).symm.trans here
    | miss absent held result ready unclosed opening missing accepted =>
        subst result
        refine .inr (.inr ⟨not_unread.2 ⟨unclosed, _, opening, _, missing⟩, fun refused => ?_, _,
          rfl⟩)
        obtain ⟨changed, put⟩ := accepted
        obtain ⟨fault, refusal⟩ := (refused_iff unclosed opening missing).1 refused
        cases put.symm.trans refusal
  · cases barred with
    | barred unclosed opening missing result refusal kept =>
        subst result
        have refused := (refused_iff unclosed opening missing).2 ⟨_, refusal⟩
        exact .inr (.inl ⟨refused, ⟨_, rfl⟩, rfl, kept⟩)

/-- What a cached fetch that answers has done: it has found a payload and requested nothing, or has
fetched the key and stored what the fetch brought, if only its failure. -/
inductive Answered (session : Session State) (key : String) (world : World State) :
    Option ByteArray → World State → Prop
  | found {row : Store.Row} {payload : Store.Payload} {after : World State}
      (present : (world.table session.storePath).find? (.text key) = some row)
      (readable : row.payload = .ok payload)
      (quiet : after = { world with disk := after.disk })
      (kept : after.table session.storePath = world.table session.storePath) :
      Answered session key world payload.body? after
  | fetched {page : Fetch.Page} {after : World State}
      (absent : (world.table session.storePath).find? (.text key) = none)
      (outcome : (world.fetch session.transport session.policy key).1 = .fetched page)
      (requested : after =
        { (world.fetch session.transport session.policy key).2 with disk := after.disk })
      (added : after.table session.storePath = (world.table session.storePath).insert
        ((Store.Payload.body page.body).toRow key world.timeOfDay)) :
      Answered session key world (some page.body) after
  | failed {failure : Fetch.Failure} {after : World State}
      (absent : (world.table session.storePath).find? (.text key) = none)
      (outcome : (world.fetch session.transport session.policy key).1 = .failed failure)
      (requested : after =
        { (world.fetch session.transport session.policy key).2 with disk := after.disk })
      (added : after.table session.storePath = (world.table session.storePath).insert
        (Store.Payload.failed.toRow key world.timeOfDay)) :
      Answered session key world none after

theorem getCached_answered {session : Session State} {key : String} {world : World State}
    {device : Store.Device} {value : Option ByteArray}
    (answered : (session.getCached key world device).1 = .ok value) :
    session.Answered key world value (session.getCached key world device).2.2 := by
  have freely := getCached_freely answered
  rw [← freely] at answered ⊢
  have done := session.getCached_step key world
  generalize session.getCached key world = step at done answered ⊢
  cases done with
  | refused ended => cases answered
  | unread kept => cases answered
  | @hit database payload disk found held ready =>
      cases answered
      obtain ⟨table, row, present, here, readable⟩ := Store.Database.get_eq_some.1 found
      rw [present] at held
      exact .found (held ▸ here) readable rfl (ready.table.trans (by rw [present, held]))
  | @miss database table fetched disk absent held result ready =>
      subst held result
      have added := ready.table
      cases outcome : (world.fetch session.transport session.policy key).1 with
      | fetched page =>
          rw [outcome] at answered added
          cases answered
          exact .fetched absent outcome rfl added
      | failed failure =>
          rw [outcome] at answered added
          cases answered
          exact .failed absent outcome rfl added

/-- A cached fetch in an open session has asked for its key, whatever comes of it. -/
theorem getCached_asked {session : Session State} (key : String) (world : World State)
    (unclosed : ¬session.isClosed) (device : Store.Device := .free) :
    (session.getCached key world device).2.1 = session.ask key := by
  have done := session.getCached_cases key world device
  generalize session.getCached key world device = step at done ⊢
  rcases done with step | barred
  · cases step with
    | refused ended => exact absurd ended unclosed
    | unread kept => rfl
    | hit found held ready => rfl
    | miss absent held result ready => rfl
  · cases barred
    rfl

/-- A key without an entry is fetched if the session is open and its store can be opened, and else
nothing is requested. -/
theorem getCached_absent (session : Session State) {key : String} {world : World State}
    (absent : (world.table session.storePath).find? (.text key) = none) :
    let after := (session.getCached key world).2.2
    (¬session.isClosed ∧ world.Opens session.storePath →
      (∃ value, (session.getCached key world).1 = .ok value) ∧
        after = { (world.fetch session.transport session.policy key).2 with disk := after.disk }) ∧
    (¬(¬session.isClosed ∧ world.Opens session.storePath) →
      after = { world with disk := after.disk }) := by
  intro after
  have readable : session.Unread key world .free ↔
      ¬(¬session.isClosed ∧ world.Opens session.storePath) := by
    rw [Unread, not_and_or, not_not]
    simp [absent]
  rcases session.getCached_exact key world .free with
    ⟨unread, fails⟩ | ⟨refused, -⟩ | ⟨read, -, value, answered⟩
  · exact ⟨fun ready => absurd ready (readable.1 unread), fun _ => fails.frame⟩
  · exact absurd refused (session.not_refused_free key world)
  · refine ⟨fun _ => ⟨⟨value, answered⟩, ?_⟩, fun unready => absurd (readable.2 unready) read⟩
    cases getCached_answered answered with
    | found present => exact nomatch absent.symm.trans present
    | fetched _ _ requested => exact requested
    | failed _ _ requested => exact requested

/-- A fetch that is refused is one that a free device lets succeed. -/
theorem Refused.served {session : Session State} {key : String} {world : World State}
    {device : Store.Device} (refused : session.Refused key world device) :
    ∃ later after, session.Served world [key] later after ∧
      ∀ disk, { (world.fetch session.transport session.policy key).2 with disk } =
        { after with disk } := by
  obtain ⟨unclosed, absent, database, -, opening, hasTable, -⟩ := refused
  have whole : world.disk.openStore world.start session.storePath device =
      (.ok database, (world.disk.openStore world.start session.storePath device).2) :=
    Prod.ext opening rfl
  have opens : world.Opens session.storePath :=
    ⟨database, congrArg Prod.fst (Disk.openStore_accepted whole), hasTable⟩
  obtain ⟨⟨value, answered⟩, frame⟩ := (session.getCached_absent absent).1 ⟨unclosed, opens⟩
  refine ⟨_, _, getCached_served answered, fun disk => ?_⟩
  exact congrArg (fun world : World State => { world with disk }) frame.symm

/-- A cached fetch fails exactly if it cannot read or its fetch is refused: the session is closed,
the store cannot be opened with a table of entries, or the row under the key cannot be read; or there
is no row, and the device refuses the one for the outcome of the fetch. In the first cases nothing has
been requested, in the last one the key has been fetched, and every entry is as it was. A closed
session stays as it is; an open one is active and has asked for the key. In all other cases there is
an answer, whatever the transport does, and at most one entry more. -/
theorem getCached_fails_exactly (session : Session State) (key : String) (world : World State)
    (device : Store.Device) :
    let step := session.getCached key world device
    let later := step.2.1
    let after := step.2.2
    ((∃ fault, step.1 = .error fault) ↔
      session.Unread key world device ∨ session.Refused key world device) ∧
    (session.Unread key world device → step.Fails session.storePath world world) ∧
    (session.Refused key world device →
      step.Fails session.storePath world
        (world.fetch session.transport session.policy key).2) ∧
    (session.isClosed → later = session) ∧
    (¬session.isClosed →
      later = { session with used := later.used, stage := .active } ∧
        ∀ other, other ∈ later.used ↔ other ∈ session.used ∨ other = key) ∧
    ∀ value, step.1 = .ok value → session.Answered key world value after := by
  intro step later after
  have cases := session.getCached_exact key world device
  refine ⟨⟨?_, ?_⟩, ?_, ?_, ?_, ?_, fun value => getCached_answered⟩
  · rintro ⟨fault, failed⟩
    rcases cases with ⟨unread, -⟩ | ⟨refused, -⟩ | ⟨-, -, value, answered⟩
    · exact .inl unread
    · exact .inr refused
    · exact nomatch failed.symm.trans answered
  · intro reason
    rcases cases with ⟨-, fails⟩ | ⟨-, fails⟩ | ⟨readable, accepted, -⟩
    · exact fails.error
    · exact fails.error
    · exact absurd reason (not_or.2 ⟨readable, accepted⟩)
  · intro unread
    rcases cases with ⟨-, fails⟩ | ⟨refused, -⟩ | ⟨readable, -⟩
    · exact fails
    · exact absurd unread refused.not_unread
    · exact absurd unread readable
  · intro refused
    rcases cases with ⟨unread, -⟩ | ⟨-, fails⟩ | ⟨-, accepted, -⟩
    · exact absurd unread refused.not_unread
    · exact fails
    · exact absurd refused accepted
  · intro ended
    change (session.getCached key world device).2.1 = session
    rw [getCached, whileOpen, if_pos ended]
  · intro unclosed
    have asked : later = session.ask key := getCached_asked key world unclosed device
    rw [asked]
    exact ⟨rfl, fun other => by rw [mem_ask, List.mem_singleton]⟩

/-- A session whose transport answers each request with a body of this many bytes. -/
def sizedSession (size : Nat) : Session Unit :=
  { name := "news"
    storePath := "base/.feedgrab/news.db"
    transport := fun state _ =>
      (⟨0, .ok { status := 200, body := ⟨Array.replicate size 97⟩ }⟩, state)
    policy := ⟨15000, 4, 5, 1000⟩ }

def bareWorld : World Unit := ⟨⟨[]⟩, [], (), [], 0, "noon"⟩

theorem requests_sizedSession (size : Nat) :
    (bareWorld.fetch (sizedSession size).transport (sizedSession size).policy
      "http://a/").2.requests.length = 1 := rfl

theorem rowOf_sizedSession (size : Nat) :
    (sizedSession size).rowOf "http://a/" bareWorld =
      (Store.Payload.body ⟨Array.replicate size 97⟩).toRow "http://a/" "noon" := rfl

/-- What the store of a new session holds when it has been opened. -/
def freshDatabase : Store.Database := ⟨some [1], some .empty⟩

/-- A body with more bytes than a row may have is fetched and refused. -/
theorem sizedSession_refused {size : Nat} (large : 1000000000 < size) :
    (sizedSession size).Refused "http://a/" bareWorld .standard where
  unclosed := Bool.false_ne_true
  absent := by
    change (bareWorld.table "base/.feedgrab/news.db").find? (.text "http://a/") = none
    decide +kernel
  refusal := by
    have opening : bareWorld.opened "base/.feedgrab/news.db" .standard = .ok freshDatabase := by
      decide +kernel
    refine ⟨freshDatabase, .tooBig, opening, rfl, ?_⟩
    have held : bareWorld.table (sizedSession size).storePath = .empty := by
      change bareWorld.table "base/.feedgrab/news.db" = .empty
      decide +kernel
    rw [rowOf_sizedSession, held]
    refine Store.Device.limited_refuses rfl List.mem_cons_self (lt_of_lt_of_le large ?_)
    simp [Store.Row.size, Store.Payload.toRow, Store.Cell.size, ByteArray.size]
    omega

theorem getCached_fails_exactly_sample :
    let unread := idleSession.getCached "b" strangeWorld .readOnly
    let refused := idleSession.getCached "http://c/" strangeWorld .readOnly
    unread.2.2.requests = [] ∧ unread.2.1.stage = .active ∧
      (refused.2.2.table "news.db").rows = (strangeWorld.table "news.db").rows ∧
      refused.2.2.requests.length = 1 := by
  intro unread refused
  have damaged : ¬strangeRow.Readable := by
    rintro ⟨body, mark⟩
    simp [strangeRow] at body
  obtain ⟨-, unchanged, -, -, asked, -⟩ :=
    getCached_fails_exactly idleSession "b" strangeWorld .readOnly
  obtain ⟨-, -, fetched, -⟩ :=
    getCached_fails_exactly idleSession "http://c/" strangeWorld .readOnly
  have first := unchanged (.inr (.inr ⟨strangeRow, rfl, damaged⟩))
  have second := fetched ⟨by decide, by decide +kernel, _, .readOnly, rfl, rfl, rfl⟩
  refine ⟨congrArg World.requests first.frame, ?_, congrArg Store.Table.rows second.kept, ?_⟩
  · exact congrArg Session.stage (asked (by decide)).1
  · rw [second.frame]
    decide +kernel

theorem sizedSession_fails {size : Nat} (large : 1000000000 < size) :
    let step := (sizedSession size).getCached "http://a/" bareWorld .standard
    ¬(sizedSession size).Unread "http://a/" bareWorld .standard ∧
      (∃ fault, step.1 = .error fault) ∧ step.2.2.requests.length = 1 := by
  intro step
  have refused := sizedSession_refused large
  rcases (sizedSession size).getCached_exact "http://a/" bareWorld .standard with
    ⟨unread, -⟩ | ⟨-, fails⟩ | ⟨-, accepted, -⟩
  · exact absurd unread refused.not_unread
  · refine ⟨refused.not_unread, fails.error, ?_⟩
    rw [show step.2.2 = _ from fails.frame]
    exact requests_sizedSession size
  · exact absurd refused accepted

/-- A cached fetch in an open session can fail although its store can be opened and has no row under
the key that cannot be read, and it has made a request then. -/
theorem fails_after_request :
    let step := (sizedSession 1000000001).getCached "http://a/" bareWorld .standard
    ¬(sizedSession 1000000001).Unread "http://a/" bareWorld .standard ∧
      (∃ fault, step.1 = .error fault) ∧ step.2.2.requests.length = 1 :=
  sizedSession_fails (by decide)

end Session

end FeedCache
