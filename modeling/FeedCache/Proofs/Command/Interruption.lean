/-
This file says what a run over a feed leaves behind if it fails.

Main statement: a run that fails anywhere between its input and its report has kept every entry of
its store, and each entry that it has added is what it fetched for one of its resources. A run whose
report cannot be printed has done all that one does whose report can be.
-/
import FeedCache.Proofs.Command.Grab
import FeedCache.Proofs.Session.Answering

namespace FeedCache

namespace Command
open Store (Row Key Table)

variable {State : Type}

/-- A body that cannot be written changes nothing. -/
theorem writeBody_failed {world after : World State} {directory : Option String} {name : String}
    {body : ByteArray} {failure : Failure}
    (failed : writeBody world directory name body = (.error failure, after)) : after = world := by
  unfold writeBody at failed
  cases directory with
  | none => cases failed
  | some path =>
      dsimp only at failed
      split at failed
      · cases failed
      · cases failed
        rfl

/-- A directory that cannot be made changes nothing. -/
theorem makeDirectory_failed {world after : World State} {directory : Option String}
    {failure : Failure} (failed : makeDirectory world directory = (.error failure, after)) :
    after = world := by
  unfold makeDirectory at failed
  cases directory with
  | none => cases failed
  | some path =>
      dsimp only at failed
      split at failed
      · cases failed
      · cases failed
        rfl

/-- A resource fails as it is looked up or as its body is written, or another one fails after it. -/
theorem lookUp_cons_failed {directory : Option String} {session later : Session State} {index : Nat}
    {world after : World State} {url : String} {urls : List String} {failure : Failure}
    {device : Store.Device}
    (failed : lookUp directory session index world (url :: urls) device =
      (.error failure, later, after)) :
    (∃ fault, session.getCached url world device = (.error fault, later, after)) ∨
      ∃ value middle fetched, session.getCached url world device = (.ok value, middle, fetched) ∧
        (after = fetched ∨
          ∃ file between, Wrote fetched (fileName index) value directory file between ∧
            lookUp directory middle (index + 1) between urls device =
              (.error failure, later, after)) := by
  rw [lookUp] at failed
  cases asked : session.getCached url world device with
  | mk answer moment =>
      obtain ⟨middle, fetched⟩ := moment
      rw [asked] at failed
      cases answer with
      | error fault =>
          cases failed
          exact .inl ⟨fault, rfl⟩
      | ok value =>
          refine .inr ⟨value, middle, fetched, rfl, ?_⟩
          dsimp only at failed
          split at failed
          · rename_i refusal unwritten
            cases failed
            cases value with
            | none => cases unwritten
            | some body => exact .inl (writeBody_failed (Prod.ext unwritten rfl))
          · rename_i file written
            generalize again : lookUp directory middle (index + 1) _ urls device = result at failed
            obtain ⟨outcome, final⟩ := result
            cases outcome with
            | ok rest => cases failed
            | error failure =>
                cases failed
                refine .inr ⟨file, _, ?_, again⟩
                cases value with
                | none =>
                    cases written
                    exact .nothing directory
                | some body => exact writeBody_ok (isBodyName_fileName index) (Prod.ext written rfl)

/-- What a series of look-ups that fails has done: it has got through some of the resources from the
first one on, and it has tried at most one more, which was fetched but could not be stored. -/
structure CutShort (session : Session State) (world : World State) (urls : List String)
    (processed tried : List String) (after : World State) : Prop where
  listed : processed <+: tried ∧ tried <+: urls ∧ tried.length ≤ processed.length + 1
  served : ∃ middle reached, session.Served world processed middle reached ∧
    after.table session.storePath = reached.table session.storePath
  requested : ∃ later last, session.Served world tried later last ∧
    after = { last with disk := after.disk }

theorem CutShort.cons {session middle : Session State} {world between after : World State}
    {url : String} {urls processed tried : List String}
    (first : session.Served world [url] middle between)
    (others : CutShort middle between urls processed tried after) :
    CutShort session world (url :: urls) (url :: processed) (url :: tried) after := by
  have path := first.storePath
  obtain ⟨⟨early, late, few⟩, ⟨ended, reached, served, kept⟩, later, last, ahead, frame⟩ := others
  refine ⟨⟨List.cons_prefix_cons.2 ⟨rfl, early⟩, List.cons_prefix_cons.2 ⟨rfl, late⟩, ?_⟩,
    ⟨ended, reached, first.trans served, path ▸ kept⟩, later, last, first.trans ahead, frame⟩
  simpa using few

/-- What a run that fails in an open session leaves behind. -/
structure Spared (session : Session State) (primary : String) (urls : List String)
    (world after : World State) : Prop where
  /-- Every entry that was in the store is there as it was. -/
  kept : ∀ key row, (world.table session.storePath).find? key = some row →
    (after.table session.storePath).find? key = some row
  /-- The resources that were got through come first in the list, and at most one more was tried.
  What was missing of all these was requested after the primary one. Each further entry is what a
  fetch brought for one that was got through. -/
  added : ∃ processed tried, processed <+: tried ∧ tried <+: urls ∧
    tried.length ≤ processed.length + 1 ∧
    (after.requests = world.requests ∧ tried = [] ∨
      after.requests = world.requests ++ (primaryRun session primary world).requests ++
        (secondaryRuns session primary tried world).1.flatMap fun fetch => fetch.2.requests) ∧
    ∀ key row, (after.table session.storePath).find? key = some row →
      (world.table session.storePath).find? key = some row ∨
        ∃ fetch ∈ (secondaryRuns session primary processed world).1,
          key = .text fetch.1 ∧ row = Fetch.fetchRow world.timeOfDay fetch
  /-- Without the primary resource nothing else is requested, and nothing is made but
  directories. -/
  unfetched : ∀ failure, (primaryRun session primary world).outcome = .failed failure →
    (after.requests = world.requests ∨
      after.requests = world.requests ++ (primaryRun session primary world).requests) ∧
    world.disk.Extends after.disk

section Parts

variable {session : Session State} {primary : String} {urls processed tried : List String}
  {directory : Option String} {world between after : World State} {page : Fetch.Page}
  {device : Store.Device}

/-- A run that stops before it looks up a resource has done nothing to the store. -/
theorem spared_of_extends (extension : world.disk.Extends after.disk)
    (start : after.start = world.start)
    (requests : after.requests = world.requests ∨
      after.requests = world.requests ++ (primaryRun session primary world).requests) :
    Spared session primary urls world after := by
  have same : after.table session.storePath = world.table session.storePath := by
    rw [World.table, World.place, start]
    exact extension.table _
  refine ⟨fun key row present => same ▸ present,
    ⟨[], [], List.prefix_rfl, List.nil_prefix, Nat.zero_le _, ?_, ?_⟩,
    fun failure _ => ⟨requests, extension⟩⟩
  · refine requests.imp (fun quiet => ⟨quiet, rfl⟩) fun only => only.trans ?_
    rw [secondaryRuns]
    exact (List.append_nil _).symm
  · intro key row present
    exact .inl (same ▸ present)

/-- A run in an open session fails with its primary resource or the file of it, with a look-up, or
with the cleanup. -/
theorem grabIn_failed {failure : Failure} (unclosed : ¬session.isClosed)
    (failed : grabIn session primary urls directory world device = (.error failure, after)) :
    after = (world.fetch session.transport session.policy primary).2 ∨
      ∃ page file between items later looked,
        (world.fetch session.transport session.policy primary).1 = .fetched page ∧
        Wrote (world.fetch session.transport session.policy primary).2 primaryName
          (some page.body) directory file between ∧
        lookUp directory { session with stage := .active } 0 between urls device =
          (items, later, looked) ∧
        ((∃ refusal, items = .error refusal ∧ after = looked) ∨
          ∃ found fault ended, items = .ok found ∧
            later.cleanup looked device = (.error fault, ended, after)) := by
  unfold grabIn Session.getUncached Session.whileOpen at failed
  rw [if_neg unclosed] at failed
  dsimp only at failed
  generalize world.fetch session.transport session.policy primary = fetched at failed ⊢
  obtain ⟨outcome, middle⟩ := fetched
  cases outcome with
  | failed reason =>
      cases failed
      exact .inl rfl
  | fetched page =>
      dsimp only at failed
      split at failed
      · rename_i refusal same unwritten
        cases failed
        exact .inl (writeBody_failed unwritten)
      · rename_i file between written
        have wrote := writeBody_ok isBodyName_primaryName written
        split at failed
        · rename_i refusal later looked served
          cases failed
          exact .inr ⟨page, file, between, _, later, _, rfl, wrote, served, .inl ⟨_, rfl, rfl⟩⟩
        · rename_i items later looked served
          split at failed
          · rename_i fault ended last uncleaned
            cases failed
            exact .inr ⟨page, file, between, _, later, looked, rfl, wrote, served,
              .inr ⟨items, fault, ended, rfl, uncleaned⟩⟩
          · cases failed

end Parts

/-- A run that fails has stopped before its session was entered, with nothing made but directories,
or it has failed in the session. -/
theorem grabAll_failed {session : Except Session.Fault (Session State)} {primary : String}
    {secondary : List String} {input : Option ByteArray} {directory : Option String}
    {world after : World State} {failure : Failure}
    {device : Store.Device}
    (failed : grabAll session primary secondary input directory world device =
      (.error failure, after)) :
    (∃ made, after = { world with disk := made } ∧ world.disk.Extends made) ∨
      ∃ further opened made,
        (input.map readUrls).getD (.ok []) = .ok further ∧
        session = .ok opened ∧ world.disk.Extends made ∧
        grabIn opened primary (secondary ++ further) directory { world with disk := made } device =
          (.error failure, after) := by
  unfold grabAll at failed
  split at failed
  · cases failed
    exact .inl ⟨world.disk, rfl, .refl _⟩
  · rename_i further read
    split at failed
    · rename_i refusal same unmade
      cases failed
      rw [makeDirectory_failed unmade]
      exact .inl ⟨world.disk, rfl, .refl _⟩
    · rename_i moment prepared
      obtain ⟨made, rfl, extension⟩ := makeDirectory_ok prepared
      split at failed
      · cases failed
        exact .inl ⟨made, rfl, extension⟩
      · rename_i opened
        exact .inr ⟨further, opened, made, read, rfl, extension, failed⟩

/-- The session that a run is made in. There is none where the settings do not load, the name is
refused, or a proxy cannot be used. -/
def sessionOf (wire : Http.Wire State) (call : Call) (basePath : Option String) (name : String)
    (world : World State) : Option (Session State) :=
  (settingsOf call.environment basePath world).toOption.bind fun settings =>
    (Session.ofSettings name call.home settings wire).toOption

/-- Nothing was requested, and nothing was made but directories. -/
structure Untouched (world after : World State) : Prop where
  frame : after = { world with disk := after.disk }
  extension : world.disk.Extends after.disk

theorem Untouched.table {world after : World State} (untouched : Untouched world after)
    (path : String) : after.table path = world.table path := by
  rw [untouched.frame]
  exact untouched.extension.table _

theorem Untouched.spared {world after : World State} (untouched : Untouched world after)
    (session : Session State) (primary : String) (urls : List String) :
    Spared session primary urls world after :=
  spared_of_extends untouched.extension (by rw [untouched.frame])
    (.inl (by rw [untouched.frame]))

end Command

end FeedCache
