/-
This file follows a session over its whole life, while others change what it acts on.

Main statement: the calls that were made, and which of them succeeded, say what the session has
asked for and how far it has come, whatever the store and the transport have done.
-/
import FeedCache.Proofs.Session.Answering
import Mathlib.Data.List.Induction

namespace FeedCache.Session
open Store (Row Key)

variable {State : Type}

/-- The session is called, on whatever its store is kept by then, or others change the world. -/
inductive Happening (State : Type) where
  | own (call : Call) (device : Store.Device := .free)
  | others (change : World State → World State)

def Happening.call? : Happening State → Option Call
  | .own call _ => some call
  | .others _ => none

/-- The calls that were seen with their answers, and what they and the others have left. -/
structure Life (State : Type) where
  seen : List (Call × Except Fault Answer) := []
  session : Session State
  world : World State

def Life.calls (life : Life State) : List Call := life.seen.map Prod.fst

def Life.next (life : Life State) : Happening State → Life State
  | .own call device =>
      let (answer, session, world) := life.session.perform call life.world device
      ⟨life.seen ++ [(call, answer)], session, world⟩
  | .others change => { life with world := change life.world }

/-- The life of a session that begins in a world. -/
def live (session : Session State) (world : World State) (happenings : List (Happening State)) :
    Life State :=
  happenings.foldl Life.next { session, world }

theorem live_concat (session : Session State) (world : World State)
    (happenings : List (Happening State)) (happening : Happening State) :
    session.live world (happenings ++ [happening]) =
      (session.live world happenings).next happening :=
  List.foldl_concat ..

/-- What was seen are the calls of the session, in their order. -/
theorem calls_live (session : Session State) (world : World State)
    (happenings : List (Happening State)) :
    (session.live world happenings).calls = happenings.filterMap Happening.call? := by
  induction happenings using List.reverseRecOn with
  | nil => rfl
  | append_singleton happenings happening hypothesis =>
      rw [live_concat, List.filterMap_append, ← hypothesis]
      cases happening with
      | own call device => exact List.map_append
      | others change => exact (List.append_nil _).symm

/-- A session as it is begun. -/
structure IsFresh (session : Session State) : Prop where
  used : session.used = []
  stage : session.stage = .created

theorem isFresh_ofBase {name base : String} {transport : Fetch.Transport State}
    {policy : Fetch.Policy} {session : Session State}
    (begun : ofBase name base transport policy = .ok session) : session.IsFresh := by
  obtain ⟨path, -, made⟩ := bind_eq_ok.1 begun
  cases made
  exact ⟨rfl, rfl⟩

/-- The key that a call asks for. What is fetched without the store is not asked for. -/
def Call.key? : Call → Option String
  | .cached key | .text key => some key
  | .uncached _ | .cleanup | .entries | .close => none

/-- The keys of the calls before the first end. -/
def askedFor (calls : List Call) : List String :=
  (calls.takeWhile fun call => call ≠ .close).filterMap Call.key?

theorem mem_askedFor_singleton (call : Call) (key : String) :
    key ∈ askedFor [call] ↔ call.key? = some key := by
  cases call <;> simp [askedFor, Call.key?, eq_comm]

theorem askedFor_append (first second : List Call) :
    askedFor (first ++ second) =
      askedFor first ++ if .close ∈ first then [] else askedFor second := by
  induction first with
  | nil => rfl
  | cons call first hypothesis =>
      by_cases ends : call = .close
      · simp [askedFor, ends]
      · have shorter : ∀ calls, askedFor (call :: calls) = call.key?.toList ++ askedFor calls := by
          intro calls
          cases call <;> first | exact absurd rfl ends | rfl
        rw [List.cons_append, shorter, shorter, hypothesis, List.append_assoc]
        simp [Ne.symm ends]

/-- The stage that a call leads to with its answer, if it changes the stage of an open session. -/
def stage? : Call × Except Fault Answer → Option Stage
  | (.cached _, _) | (.text _, _) | (.uncached _, _) => some .active
  | (.cleanup, .ok _) => some .cleaned
  | (.cleanup, .error _) | (.entries, _) | (.close, _) => none

theorem eq_of_stage? {entry : Call × Except Fault Answer} {stage : Stage}
    (changed : stage? entry = some stage) : stage = .active ∨ stage = .cleaned := by
  obtain ⟨call, answer⟩ := entry
  cases call with
  | cached key | text key | uncached key => exact .inl (Option.some.inj changed).symm
  | entries | close => cases changed
  | cleanup =>
      cases answer with
      | error fault => cases changed
      | ok answer => exact .inr (Option.some.inj changed).symm

/-- How far a fresh session has come by the calls that were seen, as long as it has not ended. -/
def stageAfter (seen : List (Call × Except Fault Answer)) : Stage :=
  (seen.filterMap stage?).getLast?.getD .created

theorem stageAfter_concat (seen : List (Call × Except Fault Answer))
    (last : Call × Except Fault Answer) :
    stageAfter (seen ++ [last]) = (stage? last).getD (stageAfter seen) := by
  rw [stageAfter, List.filterMap_append]
  cases changed : stage? last with
  | none => simp [changed, stageAfter]
  | some stage => simp [changed]

/-- A session has not come anywhere exactly if no call has changed its stage. -/
theorem stageAfter_eq_created (seen : List (Call × Except Fault Answer)) :
    stageAfter seen = .created ↔ ∀ entry ∈ seen, stage? entry = none := by
  induction seen using List.reverseRecOn with
  | nil => simp [stageAfter]
  | append_singleton seen last hypothesis =>
      rw [stageAfter_concat, List.forall_mem_append, List.forall_mem_singleton, ← hypothesis]
      cases changed : stage? last with
      | none => simp
      | some stage => rcases eq_of_stage? changed with rfl | rfl <;> simp

/-- A closed session refuses everything but its end. -/
theorem perform_closed {session : Session State} (ended : session.isClosed) {call : Call}
    (other : call ≠ .close) (world : World State) (device : Store.Device) :
    session.perform call world device = (.error (.closed session.name), session, world) := by
  cases call with
  | close => exact absurd rfl other
  | cached key | uncached key | cleanup | entries =>
      simp only [perform, Step.as, getCached, getUncached, cleanup, entries, whileOpen,
        if_pos ended]
      rfl
  | text key =>
      simp only [perform, Step.as, getText, getCached, whileOpen, if_pos ended]
      rfl

/-- The end of a closed session changes nothing. -/
theorem close_closed {session : Session State} (ended : session.stage = .closed) :
    session.close = session := by
  rw [close, ← ended]

theorem nodup_ask {session : Session State} (nodup : session.used.Nodup) (key : String) :
    (session.ask key).used.Nodup := by
  rw [ask]
  split
  · exact nodup
  · rename_i unknown
    rw [List.contains_iff_mem] at unknown
    rw [← List.concat_eq_append]
    exact nodup.concat unknown

/-- What a call makes of an open session. -/
structure Called (session : Session State) (call : Call) (answer : Except Fault Answer)
    (later : Session State) : Prop where
  frame : later = { session with used := later.used, stage := later.stage }
  used : later.used = (call.key?.elim session session.ask).used
  ended : call = .close → later.stage = .closed
  stage : call ≠ .close → later.stage = (stage? (call, answer)).getD session.stage

theorem perform_called {session : Session State} (unclosed : ¬session.isClosed) (call : Call)
    (world : World State) (device : Store.Device) :
    session.Called call (session.perform call world device).1
      (session.perform call world device).2.1 := by
  have cached (key : String) (call : Call) (asks : call.key? = some key)
      (activates : ∀ answer, stage? (call, answer) = some .active) (answer : Except Fault Answer) :
      session.Called call answer (session.getCached key world device).2.1 := by
    rw [getCached_asked key world unclosed device]
    exact {
      frame := rfl
      used := by rw [asks, Option.elim_some]
      ended := fun ends => by
        rw [ends] at asks
        cases asks
      stage := fun _ => by
        rw [activates]
        rfl }
  cases call with
  | cached key => exact cached key _ rfl (fun _ => rfl) _
  | text key => exact cached key _ rfl (fun _ => rfl) _
  | uncached key =>
      rw [perform, getUncached, whileOpen, if_neg unclosed]
      exact ⟨rfl, rfl, by simp, fun _ => rfl⟩
  | cleanup =>
      have done := session.cleanup_cases world device
      rw [perform]
      generalize session.cleanup world device = step at done ⊢
      rcases done with step | barred
      · cases step with
        | refused ended => exact absurd ended unclosed
        | failed unclosed kept unlisted => exact ⟨rfl, rfl, by simp, fun _ => rfl⟩
        | done unclosed opening present held texts ready => exact ⟨rfl, rfl, by simp, fun _ => rfl⟩
      · cases barred with
        | barred unclosed opening listed refusal kept => exact ⟨rfl, rfl, by simp, fun _ => rfl⟩
  | entries =>
      rw [perform, entries, whileOpen, if_neg unclosed]
      exact ⟨rfl, rfl, by simp, fun _ => rfl⟩
  | close => exact ⟨rfl, rfl, fun _ => rfl, fun other => absurd rfl other⟩

section Called

variable {session later : Session State} {call : Call} {answer : Except Fault Answer}

theorem Called.mem_used (called : session.Called call answer later) (key : String) :
    key ∈ later.used ↔ key ∈ session.used ∨ call.key? = some key := by
  rw [called.used]
  cases call.key? with
  | none => simp
  | some asked => rw [Option.elim_some, mem_ask, List.mem_singleton, Option.some_inj, eq_comm]

theorem Called.nodup (called : session.Called call answer later) (nodup : session.used.Nodup) :
    later.used.Nodup := by
  rw [called.used]
  cases call.key? with
  | none => exact nodup
  | some asked => exact nodup_ask nodup asked

/-- A call keeps what a session has kept since an earlier one. -/
theorem Called.frame_trans {first : Session State} (called : session.Called call answer later)
    (frame : session = { first with used := session.used, stage := session.stage }) :
    later = { first with used := later.used, stage := later.stage } :=
  called.frame.trans (by rw [frame])

/-- An open session is closed by its end and by nothing else. -/
theorem Called.isClosed_iff (called : session.Called call answer later)
    (unclosed : session.stage ≠ .closed) : later.stage = .closed ↔ call = .close := by
  refine ⟨fun ended => ?_, called.ended⟩
  by_contra other
  rw [called.stage other] at ended
  cases changed : stage? (call, answer) with
  | none => exact unclosed (by rwa [changed] at ended)
  | some stage =>
      rw [changed] at ended
      rcases eq_of_stage? changed with rfl | rfl <;> cases ended

end Called

/-- What was seen of a life says what has become of the session that it began with. -/
structure Lived (session : Session State) (life : Life State) : Prop where
  frame : life.session =
    { session with used := life.session.used, stage := life.session.stage }
  used : ∀ key, key ∈ life.session.used ↔ key ∈ askedFor life.calls
  nodup : life.session.used.Nodup
  closed : life.session.stage = .closed ↔ .close ∈ life.calls
  stage : .close ∉ life.calls → life.session.stage = stageAfter life.seen

namespace Lived

variable {session : Session State} {life : Life State}

theorem begin (fresh : session.IsFresh) (world : World State) :
    session.Lived { session, world } where
  frame := rfl
  used key := by simp [fresh.used, Life.calls, askedFor]
  nodup := by simp [fresh.used]
  closed := by simp [fresh.stage, Life.calls]
  stage _ := fresh.stage

theorem name (lived : session.Lived life) : life.session.name = session.name := by
  rw [lived.frame]

theorem storePath (lived : session.Lived life) : life.session.storePath = session.storePath := by
  rw [lived.frame]

theorem isClosed_iff (lived : session.Lived life) :
    life.session.isClosed ↔ .close ∈ life.calls := by
  rw [← lived.closed, isClosed, beq_iff_eq]

theorem calls_next (life : Life State) (call : Call) (device : Store.Device) :
    (life.next (.own call device)).calls = life.calls ++ [call] := List.map_append

/-- A call on a closed session changes nothing. -/
theorem next_closed (lived : session.Lived life) (ended : life.session.isClosed) (call : Call)
    (device : Store.Device) : session.Lived (life.next (.own call device)) := by
  have closed := lived.isClosed_iff.1 ended
  have same : (life.next (.own call device)).session = life.session := by
    by_cases ends : call = .close
    · subst ends
      exact close_closed (lived.closed.2 closed)
    · exact congrArg (fun step => step.2.1) (perform_closed ended ends life.world device)
  have still : .close ∈ (life.next (.own call device)).calls := by
    rw [calls_next]
    exact List.mem_append_left _ closed
  exact {
    frame := by
      rw [same]
      exact lived.frame
    used := fun key => by
      rw [same, calls_next, askedFor_append, if_pos closed, List.append_nil, lived.used]
    nodup := by
      rw [same]
      exact lived.nodup
    closed := by
      rw [same]
      exact iff_of_true (lived.closed.2 closed) still
    stage := fun unclosed => absurd still unclosed }

theorem next_unclosed (lived : session.Lived life) (unclosed : ¬life.session.isClosed)
    (call : Call) (device : Store.Device) : session.Lived (life.next (.own call device)) := by
  have before : .close ∉ life.calls := fun closed => unclosed (lived.isClosed_iff.2 closed)
  have called := perform_called unclosed call life.world device
  exact {
    frame := called.frame_trans lived.frame
    used := fun key => by
      rw [calls_next, askedFor_append, if_neg before, List.mem_append, mem_askedFor_singleton,
        ← lived.used]
      exact called.mem_used key
    nodup := called.nodup lived.nodup
    closed := by
      rw [calls_next, List.mem_append, List.mem_singleton]
      refine (called.isClosed_iff fun closed => before (lived.closed.1 closed)).trans ?_
      exact ⟨fun ends => .inr ends.symm, fun ends => (ends.resolve_left before).symm⟩
    stage := fun still => by
      rw [calls_next] at still
      refine (called.stage fun ends => still ?_).trans ?_
      · exact ends ▸ List.mem_append_right _ List.mem_cons_self
      · rw [lived.stage before]
        exact (stageAfter_concat life.seen _).symm }

theorem next (lived : session.Lived life) (happening : Happening State) :
    session.Lived (life.next happening) := by
  cases happening with
  | others change => exact ⟨lived.frame, lived.used, lived.nodup, lived.closed, lived.stage⟩
  | own call device =>
      by_cases ended : life.session.isClosed
      · exact lived.next_closed ended call device
      · exact lived.next_unclosed ended call device

end Lived

theorem live_lived {session : Session State} (fresh : session.IsFresh) (world : World State)
    (happenings : List (Happening State)) : session.Lived (session.live world happenings) := by
  induction happenings using List.reverseRecOn with
  | nil => exact .begin fresh world
  | append_singleton happenings happening hypothesis =>
      rw [live_concat]
      exact hypothesis.next happening

/-- What a session has asked for it will always have asked for. -/
theorem used_grows {session : Session State} (fresh : session.IsFresh) (world : World State)
    (happenings more : List (Happening State)) :
    (session.live world happenings).session.used ⊆
      (session.live world (happenings ++ more)).session.used := by
  intro key asked
  rw [(live_lived fresh world _).used, calls_live] at asked ⊢
  rw [List.filterMap_append, askedFor_append]
  exact List.mem_append_left _ asked

/-- Each key that was asked for has a payload in the store. -/
def Stocked (session : Session State) (world : World State) : Prop :=
  ∀ key ∈ session.used, ∃ value, world.Holds session.storePath key value

/-- A call that asks for a key and is answered leaves a payload for it. -/
theorem perform_answered {session : Session State} {call : Call} {key : String}
    {world : World State} {device : Store.Device} {answer : Answer} (asks : call.key? = some key)
    (answered : (session.perform call world device).1 = .ok answer) :
    ∃ value, (session.perform call world device).2.2.Holds session.storePath key value := by
  cases call with
  | cached asked =>
      cases asks
      obtain ⟨value, found, -⟩ := as_eq_ok answered
      exact ⟨value, getCached_holds found⟩
  | text asked =>
      cases asks
      obtain ⟨text, read, -⟩ := as_eq_ok answered
      obtain ⟨value, found, -⟩ := map_eq_ok.1 read
      exact ⟨value, getCached_holds found⟩
  | uncached asked | cleanup | entries | close => cases asks

theorem mem_used_perform {session : Session State} {call : Call} {key : String}
    {world : World State} {device : Store.Device}
    (asked : key ∈ (session.perform call world device).2.1.used) :
    key ∈ session.used ∨ call.key? = some key := by
  by_cases ended : session.isClosed
  · by_cases ends : call = .close
    · subst ends
      exact .inl asked
    · rw [perform_closed ended ends] at asked
      exact .inl asked
  · exact ((perform_called ended call world device).mem_used key).1 asked

theorem Stocked.perform {session : Session State} {world : World State}
    (stocked : session.Stocked world) {call : Call} {device : Store.Device}
    (answered : call.key?.isSome → ∃ answer, (session.perform call world device).1 = .ok answer) :
    (session.perform call world device).2.1.Stocked (session.perform call world device).2.2 := by
  intro key asked
  rw [(session.perform_place call world device).1]
  rcases mem_used_perform asked with known | asks
  · obtain ⟨value, holds⟩ := stocked key known
    exact ⟨value, perform_holds holds fun evicts => evicts.2.2 known⟩
  · obtain ⟨answer, success⟩ := answered (by rw [asks]; rfl)
    exact perform_answered asks success

/-- What others do in a life never changes the entries of the session's store. -/
def Undisturbed (session : Session State) (world : World State)
    (happenings : List (Happening State)) : Prop :=
  ∀ before change, before ++ [.others change] <+: happenings →
    let moment := (session.live world before).world
    (change moment).table session.storePath = moment.table session.storePath

theorem undisturbed_of_forall {session : Session State} {world : World State}
    {happenings : List (Happening State)}
    (kept : ∀ change, .others change ∈ happenings → ∀ moment : World State,
      (change moment).table session.storePath = moment.table session.storePath) :
    session.Undisturbed world happenings := by
  intro before change initial
  exact kept change (initial.subset (List.mem_append_right _ List.mem_cons_self)) _

theorem live_stocked {session : Session State} (fresh : session.IsFresh) {world : World State}
    {happenings : List (Happening State)} (undisturbed : session.Undisturbed world happenings)
    (answered : ∀ entry ∈ (session.live world happenings).seen, entry.1.key?.isSome →
      ∃ answer, entry.2 = .ok answer) :
    (session.live world happenings).session.Stocked (session.live world happenings).world := by
  induction happenings using List.reverseRecOn with
  | nil =>
      intro key asked
      rw [show (session.live world []).session.used = [] from fresh.used] at asked
      cases asked
  | append_singleton happenings happening hypothesis =>
      have earlier : session.Undisturbed world happenings := fun before change initial =>
        undisturbed before change (initial.trans (List.prefix_append _ _))
      rw [live_concat] at answered ⊢
      cases happening with
      | own call device =>
          have stocked := hypothesis earlier fun entry member =>
            answered entry (List.mem_append_left _ member)
          exact stocked.perform (answered _ (List.mem_append_right _ List.mem_cons_self))
      | others change =>
          have stocked := hypothesis earlier answered
          have same := undisturbed happenings change (List.prefix_refl _)
          rw [← (live_lived fresh world happenings).storePath] at same
          intro key asked
          obtain ⟨value, holds⟩ := stocked key asked
          exact ⟨value, holds.of_table same⟩

/-- A cleanup of a stocked store leaves exactly what was asked for. -/
theorem cleanup_stocked {session : Session State} {world : World State} {device : Store.Device}
    {report : Report} (stocked : session.Stocked world) (nodup : session.used.Nodup)
    (cleaned : (session.cleanup world device).1 = .ok report) :
    (((session.cleanup world device).2.2.table session.storePath).rows.map Row.key).Perm
      (session.used.map Key.text) := by
  have freely := cleanup_freely cleaned
  rw [← freely] at cleaned ⊢
  have done := session.cleanup_step world
  generalize session.cleanup world = step at done cleaned ⊢
  cases done with
  | refused ended => cases cleaned
  | failed unclosed kept unlisted => cases cleaned
  | @done database table keys disk unclosed opening present held texts ready =>
      subst held
      refine (List.perm_ext_iff_of_nodup (Store.Table.nodup_keys _)
        (nodup.map Store.Key.text_injective)).2 fun key => ?_
      have left : disk.table (world.place session.storePath) =
        (world.table session.storePath).eraseAll (unused session.used keys) := ready.table
      change key ∈ (disk.table (world.place session.storePath)).rows.map Row.key ↔ _
      rw [left, ← Store.Table.isSome_find?_iff, find?_served (fun _ => Iff.rfl) texts]
      split
      · rename_i listed
        obtain ⟨text, asked, rfl⟩ := List.mem_map.1 listed
        obtain ⟨value, row, payload, found, -⟩ := stocked text asked
        exact iff_of_true (by rw [found]; rfl) listed
      · rename_i unlisted
        exact iff_of_false Bool.false_ne_true unlisted

/-- The life of a new session, whatever its store and its transport do and others change. It has
asked for exactly the keys of the cached fetches before its first end, those that failed among them,
and never forgets one. It is closed exactly if it was ended, and has otherwise come as far as its
last fetch or successful cleanup has led. Once it is closed it refuses everything but its end, and
nothing is changed any more. If all its cached fetches were answered and nobody else has changed its
store, then a cleanup that succeeds leaves exactly the keys that it has asked for. -/
theorem lifecycle_exact (session : Session State) (fresh : session.IsFresh) (world : World State)
    (happenings : List (Happening State)) :
    let calls := happenings.filterMap Happening.call?
    let life := session.live world happenings
    let later := life.session
    (life.calls = calls ∧ later.name = session.name ∧ later.storePath = session.storePath) ∧
    (later.used.Nodup ∧ (∀ key, key ∈ later.used ↔ key ∈ askedFor calls) ∧
      ∀ more, later.used ⊆ (session.live world (happenings ++ more)).session.used) ∧
    ((later.stage = .closed ↔ .close ∈ calls) ∧
      (.close ∉ calls → later.stage = stageAfter life.seen ∧
        (later.stage = .created ↔ ∀ entry ∈ life.seen, stage? entry = none))) ∧
    (.close ∈ calls → ∀ (moment : World State) (device : Store.Device),
      later.perform .close moment device = (.ok .closed, later, moment) ∧
        ∀ call, call ≠ .close →
          later.perform call moment device = (.error (.closed session.name), later, moment)) ∧
    (session.Undisturbed world happenings →
      (∀ entry ∈ life.seen, entry.1.key?.isSome → ∃ answer, entry.2 = .ok answer) →
      ∀ device report, (later.cleanup life.world device).1 = .ok report →
        let after := (later.cleanup life.world device).2.2
        ((after.table session.storePath).rows.map Row.key).Perm (later.used.map Key.text)) := by
  intro calls life later
  have lived : session.Lived life := live_lived fresh world happenings
  have seen : life.calls = calls := calls_live session world happenings
  have name : later.name = session.name := lived.name
  have path : later.storePath = session.storePath := lived.storePath
  have grows := used_grows fresh world happenings
  refine ⟨⟨seen, name, path⟩, ⟨lived.nodup, ?_, grows⟩, ⟨?_, ?_⟩, ?_, ?_⟩
  · rw [← seen]
    exact lived.used
  · rw [← seen]
    exact lived.closed
  · intro unclosed
    rw [← seen] at unclosed
    have stage := lived.stage unclosed
    exact ⟨stage, stage ▸ stageAfter_eq_created life.seen⟩
  · intro closed moment device
    rw [← seen] at closed
    rw [← name]
    refine ⟨?_, fun call other => perform_closed (lived.isClosed_iff.2 closed) other moment device⟩
    rw [perform, close_closed (lived.closed.2 closed)]
  · intro undisturbed answered device report cleaned
    have stocked : later.Stocked life.world := live_stocked fresh undisturbed answered
    rw [← path]
    exact cleanup_stocked stocked lived.nodup cleaned

/-- A page is asked for, another one is fetched without the store, and the store is cleaned up. -/
def sampleHappenings : List (Happening Unit) :=
  [.own (.cached "http://a/"), .others fun world => { world with clock := 0 },
    .own (.uncached "http://b/"), .own .cleanup]

def newSession : Session Unit := { firstSession with storePath := ".feedgrab/first.db" }

def sampleLife (happenings : List (Happening Unit)) : Life Unit :=
  newSession.live ⟨.empty, [], (), [], 0, "noon"⟩ happenings

theorem lifecycle_exact_sample :
    let life := sampleLife sampleHappenings
    let ended := sampleLife (sampleHappenings ++ [.own .close])
    life.session.stage = .cleaned ∧ (∀ key, key ∈ life.session.used ↔ key = "http://a/") ∧
      (((life.session.cleanup life.world).2.2.table ".feedgrab/first.db").rows.map Row.key).Perm
        (life.session.used.map Key.text) ∧
      (ended.session.perform .entries life.world).1 = .error (.closed "first") := by
  have begun : ofBase "first" "" newSession.transport newSession.policy = .ok newSession := rfl
  have fresh := isFresh_ofBase begun
  have asked : askedFor (sampleHappenings.filterMap Happening.call?) = ["http://a/"] := rfl
  have unclosed : .close ∉ sampleHappenings.filterMap Happening.call? := by decide
  have cleaned : stageAfter (sampleLife sampleHappenings).seen = .cleaned := rfl
  have closed : .close ∈ (sampleHappenings ++ [Happening.own Call.close]).filterMap
    Happening.call? := by decide
  have undisturbed : newSession.Undisturbed ⟨.empty, [], (), [], 0, "noon"⟩ sampleHappenings := by
    refine undisturbed_of_forall fun change member moment => ?_
    simp only [sampleHappenings, List.mem_cons, Happening.others.injEq, reduceCtorEq, false_or,
      or_false, List.not_mem_nil] at member
    rw [member]
    rfl
  have seen : ∃ outcome report, (sampleLife sampleHappenings).seen =
      [(.cached "http://a/", .ok (.body (some ⟨#[7]⟩))), (.uncached "http://b/", outcome),
        (.cleanup, report)] := ⟨_, _, rfl⟩
  have answered : ∀ entry ∈ (sampleLife sampleHappenings).seen, entry.1.key?.isSome →
      ∃ answer, entry.2 = .ok answer := by
    obtain ⟨outcome, report, seen⟩ := seen
    simp [seen, Call.key?]
  have reported : ((sampleLife sampleHappenings).session.cleanup
      (sampleLife sampleHappenings).world).1 = .ok ⟨1, []⟩ := rfl
  obtain ⟨-, ⟨-, used, -⟩, ⟨-, stage⟩, -, tidy⟩ :=
    lifecycle_exact newSession fresh ⟨.empty, [], (), [], 0, "noon"⟩ sampleHappenings
  obtain ⟨-, -, -, refused, -⟩ := lifecycle_exact newSession fresh
    ⟨.empty, [], (), [], 0, "noon"⟩ (sampleHappenings ++ [.own .close])
  refine ⟨(stage unclosed).1.trans cleaned, fun key => ?_,
    tidy undisturbed answered .free _ reported, ?_⟩
  · exact (used key).trans (by rw [asked, List.mem_singleton])
  · exact congrArg Prod.fst ((refused closed _ .free).2 .entries nofun)

end FeedCache.Session
