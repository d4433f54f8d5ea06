/-
This file follows several sessions that use one store, one after another.

Main statement: a key that has been answered once is answered alike and without a request, until a
session that did not ask for it has cleaned up.
-/
import FeedCache.Proofs.Session.Acceptance

namespace FeedCache

/-- The store at a path has a payload for the key, and the body of it is the value. -/
def World.Holds {State : Type} (world : World State) (path key : String)
    (value : Option ByteArray) : Prop :=
  ∃ row payload, (world.table path).find? (.text key) = some row ∧
    row.payload = .ok payload ∧ payload.body? = value

/-- What a store holds depends on its table alone. -/
theorem World.Holds.of_table {State : Type} {world other : World State} {path key : String}
    {value : Option ByteArray} (holds : world.Holds path key value)
    (same : other.table path = world.table path) : other.Holds path key value := by
  obtain ⟨row, payload, present, rest⟩ := holds
  exact ⟨row, payload, same ▸ present, rest⟩

namespace Session

variable {State : Type}

/-- A new session takes over the store, or the present one is asked for something, on whatever the
store is kept by then. Each session brings its own transport and budgets; transports with states of
their own share one product. -/
inductive Act (State : Type) where
  | begin (name : String) (transport : Fetch.Transport State) (policy : Fetch.Policy)
  | call (call : Call) (device : Store.Device := .free)

/-- An operation as it was seen, with the keys that its session had asked for before. -/
structure Observation where
  used : List String
  call : Call
  answer : Except Fault Answer
  requests : List Url

/-- The operation was a cleanup that took the key away, if it was there. -/
def Observation.Evicts (seen : Observation) (key : String) : Prop :=
  seen.call = .cleanup ∧ (∃ answer, seen.answer = .ok answer) ∧ key ∉ seen.used

/-- All operations of a run in order. -/
def history (session : Session State) : List (Act State) → World State → List Observation
  | [], _ => []
  | .begin name transport policy :: acts, world =>
      history { name, storePath := session.storePath, transport, policy } acts world
  | .call call device :: acts, world =>
      let step := session.perform call world device
      ⟨session.used, call, step.1, step.2.2.requests.drop world.requests.length⟩ ::
        history step.2.1 acts step.2.2

/-- Every row stays as it is under every operation, unless a cleanup removes it. -/
theorem perform_row (session : Session State) (call : Call) (world : World State)
    (device : Store.Device) {key : String} {row : Store.Row}
    (present : (world.table session.storePath).find? (.text key) = some row) :
    let step := session.perform call world device
    (step.2.2.table session.storePath).find? (.text key) = some row ∨
      (call = .cleanup ∧ (∃ answer, step.1 = .ok answer) ∧ key ∉ session.used ∧
        (step.2.2.table session.storePath).find? (.text key) = none) := by
  intro step
  rcases session.perform_table call world device with
    same | ⟨asked, payload, -, absent, same⟩ | ⟨cleaned, succeeded, keys, -, same⟩
  · exact .inl ((congrArg (fun table => table.find? (.text key)) same).trans present)
  · have different : asked ≠ key := by
      rintro rfl
      rw [absent] at present
      cases present
    exact .inl (by simp [step, same, different, present])
  · rw [same, Store.Table.find?_eraseAll, present]
    split
    · rename_i removed
      rw [List.mem_map_of_injective Store.Key.text_injective] at removed
      refine .inr ⟨cleaned, succeeded, ?_, rfl⟩
      simpa using (List.mem_filter.1 removed).2
    · exact .inl rfl

/-- What a cached fetch has answered is in the store afterwards. -/
theorem getCached_holds {session : Session State} {key : String} {world : World State}
    {device : Store.Device} {value : Option ByteArray}
    (answered : (session.getCached key world device).1 = .ok value) :
    (session.getCached key world device).2.2.Holds session.storePath key value := by
  have freely := getCached_freely answered
  rw [← freely] at answered ⊢
  have done := session.getCached_step key world
  generalize session.getCached key world = step at done answered ⊢
  cases done with
  | refused ended => cases answered
  | unread kept => cases answered
  | @hit database payload disk found held ready =>
      obtain ⟨table, row, present, inside, readable⟩ := Store.Database.get_eq_some.1 found
      have stays : disk.table (world.place session.storePath) = table :=
        ready.table.trans (by rw [present]; rfl)
      refine ⟨row, payload, ?_, readable, Except.ok.inj answered⟩
      exact (congrArg (fun table => table.find? (.text key)) stays).trans inside
  | @miss database table fetched disk absent held result ready =>
      refine ⟨_, _, ?_, Store.Payload.payload_toRow _ key world.timeOfDay, Except.ok.inj answered⟩
      subst result
      refine (congrArg (fun table => table.find? (.text key)) ready.table).trans ?_
      simp

/-- A key that has a payload is answered with it, and no request is made. -/
theorem getCached_again {session : Session State} {key : String} {world : World State}
    {device : Store.Device} {value other : Option ByteArray}
    (holds : world.Holds session.storePath key value)
    (answered : (session.getCached key world device).1 = .ok other) :
    other = value ∧ (session.getCached key world device).2.2.requests = world.requests := by
  have freely := getCached_freely answered
  rw [← freely] at answered ⊢
  obtain ⟨row, payload, present, readable, body⟩ := holds
  have done := session.getCached_step key world
  generalize session.getCached key world = step at done answered ⊢
  cases done with
  | refused ended => cases answered
  | unread kept => cases answered
  | hit found held ready =>
      obtain ⟨table, stored, hasTable, inside, read⟩ := Store.Database.get_eq_some.1 found
      rw [held, hasTable, Option.getD_some, inside] at present
      cases present
      rw [readable] at read
      cases read
      exact ⟨(Except.ok.inj answered).symm.trans body, rfl⟩
  | miss absent held result ready =>
      rw [held, absent] at present
      cases present

/-- A payload outlasts every operation that does not evict its key. -/
theorem perform_holds {session : Session State} {call : Call} {world : World State}
    {device : Store.Device} {key : String} {value : Option ByteArray}
    (holds : world.Holds session.storePath key value)
    (kept : ¬(call = .cleanup ∧ (∃ answer, (session.perform call world device).1 = .ok answer) ∧
      key ∉ session.used)) :
    (session.perform call world device).2.2.Holds session.storePath key value := by
  obtain ⟨row, payload, present, readable, body⟩ := holds
  rcases session.perform_row call world device present with stays | ⟨cleaned, succeeded, unasked, -⟩
  · exact ⟨row, payload, stays, readable, body⟩
  · exact absurd ⟨cleaned, succeeded, unasked⟩ kept

theorem as_eq_ok {α : Type} {form : α → Answer} {step : Step State α} {answer : Answer}
    (answered : (Step.as form step).1 = .ok answer) :
    ∃ value, step.1 = .ok value ∧ form value = answer := by
  obtain ⟨outcome, rest⟩ := step
  cases outcome with
  | error fault => cases answered
  | ok value => exact ⟨value, rfl, Except.ok.inj answered⟩

/-- While a payload stays in the store, its key is answered with it in the rest of the run. -/
theorem history_again {acts : List (Act State)} {session : Session State} {world : World State}
    {key : String} {value other : Option ByteArray}
    (holds : world.Holds session.storePath key value)
    {between rest : List Observation} {later : Observation}
    (run : session.history acts world = between ++ later :: rest)
    (kept : ∀ seen ∈ between, ¬seen.Evicts key)
    (again : later.call = .cached key) (answered : later.answer = .ok (.body other)) :
    other = value ∧ later.requests = [] := by
  induction acts generalizing session world between with
  | nil => simp [history] at run
  | cons act acts hypothesis =>
      cases act with
      | begin name transport policy =>
          rw [history] at run
          refine hypothesis ?_ run kept
          exact holds
      | call call device =>
          cases between with
          | nil =>
              obtain ⟨here, -⟩ := List.cons.inj run
              subst here
              cases again
              obtain ⟨found, succeeded, form⟩ := as_eq_ok answered
              cases form
              obtain ⟨same, quiet⟩ := getCached_again holds succeeded
              refine ⟨same, ?_⟩
              change List.drop world.requests.length
                (session.getCached key world device).2.2.requests = []
              rw [quiet, List.drop_length]
          | cons first between =>
              obtain ⟨here, later⟩ := List.cons.inj run
              have unevicted : ¬(call = .cleanup ∧
                  (∃ answer, (session.perform call world device).1 = .ok answer) ∧
                    key ∉ session.used) := by
                simpa [← here, Observation.Evicts] using kept first List.mem_cons_self
              have stays := perform_holds holds unevicted
              rw [← (session.perform_place call world device).1] at stays
              exact hypothesis stays later fun seen member =>
                kept seen (List.mem_cons_of_mem _ member)

/-- An operation in a run was done by some session, and the rest of the run follows it. -/
theorem history_split {acts : List (Act State)} {session : Session State} {world : World State}
    {before rest : List Observation} {seen : Observation}
    (run : session.history acts world = before ++ seen :: rest) :
    ∃ (present : Session State) (call : Call) (device : Store.Device) (moment : World State)
        (others : List (Act State)),
      let step := present.perform call moment device
      seen = ⟨present.used, call, step.1, step.2.2.requests.drop moment.requests.length⟩ ∧
        step.2.1.history others step.2.2 = rest := by
  induction acts generalizing session world before with
  | nil => simp [history] at run
  | cons act acts hypothesis =>
      cases act with
      | begin name transport policy =>
          rw [history] at run
          exact hypothesis run
      | call call device =>
          cases before with
          | nil =>
              obtain ⟨here, tail⟩ := List.cons.inj run
              exact ⟨session, call, device, world, acts, here.symm, tail⟩
          | cons other before => exact hypothesis (List.cons.inj run).2

/-- A key that was answered once is answered alike, and without a request, as long as no session
that did not ask for it has cleaned up, whatever writes the store may have refused. No operation
replaces the row of a key: it stays as it is, or such a cleanup takes it away. -/
theorem stored_not_fetched_again (session : Session State) (world : World State) :
    (∀ (acts : List (Act State)) (before between rest : List Observation)
        (first later : Observation) (key : String) (value other : Option ByteArray),
      session.history acts world = before ++ first :: (between ++ later :: rest) →
      first.call = .cached key → first.answer = .ok (.body value) →
      (∀ seen ∈ between, ¬seen.Evicts key) →
      later.call = .cached key → later.answer = .ok (.body other) →
      other = value ∧ later.requests = []) ∧
    ∀ (call : Call) (device : Store.Device) (key : String) (row : Store.Row),
      let step := session.perform call world device
      (world.table session.storePath).find? (.text key) = some row →
      (step.2.2.table session.storePath).find? (.text key) = some row ∨
        (call = .cleanup ∧ (∃ answer, step.1 = .ok answer) ∧ key ∉ session.used ∧
          (step.2.2.table session.storePath).find? (.text key) = none) := by
  constructor
  · intro acts before between rest first later key value other run asked answered kept again
      succeeded
    obtain ⟨present, call, device, moment, others, same, tail⟩ := history_split run
    subst same
    cases asked
    obtain ⟨found, done, form⟩ := as_eq_ok answered
    cases form
    have holds := getCached_holds done
    rw [← (present.perform_place (.cached key) moment device).1] at holds
    exact history_again holds tail kept again succeeded
  · intro call device key row step present
    exact session.perform_row call world device present

/-- A page is fetched by one session, and read by another one that can fetch nothing. -/
def sampleActs : List (Act Unit) :=
  [.call (.cached "http://a/"), .call .cleanup,
    .begin "second" (fun state _ => (⟨0, .error .timeout⟩, state)) ⟨10, 1, 1, 1⟩,
    .call (.cached "http://a/")]

def firstSession : Session Unit :=
  ⟨"first", "news.db", fun state _ => (⟨0, .ok { status := 200, body := ⟨#[7]⟩ }⟩, state),
    ⟨10, 1, 1, 1⟩, [], .created⟩

theorem stored_not_fetched_again_sample :
    ∃ first cleaned later : Observation,
      firstSession.history sampleActs ⟨.empty, [], (), [], 0, "noon"⟩ = [first, cleaned, later] ∧
        first.answer = .ok (.body (some ⟨#[7]⟩)) ∧ first.requests.length = 1 ∧
        later.answer = .ok (.body (some ⟨#[7]⟩)) ∧ later.requests = [] := by
  refine ⟨_, ⟨["http://a/"], .cleanup, .ok (.report ⟨1, []⟩), []⟩, _, rfl, rfl, rfl, rfl, ?_⟩
  refine ((stored_not_fetched_again firstSession ⟨.empty, [], (), [], 0, "noon"⟩).1 sampleActs []
    [⟨["http://a/"], .cleanup, .ok (.report ⟨1, []⟩), []⟩] [] _ _ "http://a/" _ _ rfl rfl rfl ?_ rfl
    rfl).2
  rintro seen member ⟨-, -, unasked⟩
  rw [List.mem_singleton.1 member] at unasked
  exact unasked List.mem_cons_self

end Session

end FeedCache
