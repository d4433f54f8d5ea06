/-
This file follows the command line program over any series of calls.

Main statement: a session that no call is for holds what it held, and one that no call cleans up
has kept its entries and has got no others than those that were asked for.
-/
import FeedCache.Proofs.Command.Frame
import FeedCache.Proofs.Settings.Loading

namespace FeedCache.Command

/-- A call with the time of day at which it is made, and what the stores are kept on then. -/
structure Dated where
  call : Call
  timeOfDay : String
  device : Store.Device := .free

namespace Dated

variable {State : Type}

/-- The command that the call names. -/
def command? (dated : Dated) : Option Command :=
  dated.call.invocation.toOption.map Invocation.command

/-- The world as the call finds it. -/
def enter (dated : Dated) (world : World State) : World State :=
  { world with timeOfDay := dated.timeOfDay }

def run (wire : Http.Wire State) (dated : Dated) (world : World State) : Exit × World State :=
  Command.run wire dated.call (dated.enter world) dated.device

end Dated

variable {State : Type} (wire : Http.Wire State)

/-- The world after a series of calls. -/
def worldAfter (calls : List Dated) (world : World State) : World State :=
  calls.foldl (fun world dated => (dated.run wire world).2) world

theorem worldAfter_append (calls : List Dated) (dated : Dated) (world : World State) :
    worldAfter wire (calls ++ [dated]) world =
      (dated.run wire (worldAfter wire calls world)).2 := by
  rw [worldAfter, worldAfter, List.foldl_append]
  rfl

/-- Each call of a series is over the same directory and namespace at its own moment. -/
def AllOver (base namespaceName : String) (calls : List Dated) (world : World State) : Prop :=
  ∀ before dated after, calls = before ++ dated :: after →
    dated.call.IsOver base namespaceName (dated.enter (worldAfter wire before world))

variable {wire} {base namespaceName : String} {calls : List Dated} {dated : Dated}
  {world : World State}

theorem AllOver.init (based : AllOver wire base namespaceName (calls ++ [dated]) world) :
    AllOver wire base namespaceName calls world := by
  intro before middle after split
  apply based before middle (after ++ [dated])
  rw [split, List.append_assoc, List.cons_append]

theorem AllOver.last (based : AllOver wire base namespaceName (calls ++ [dated]) world) :
    dated.call.IsOver base namespaceName (dated.enter (worldAfter wire calls world)) :=
  based calls dated [] rfl

/-- Without a file of settings the world does not matter for what a call is over. -/
theorem Call.isOver_of_environment {call : Call} {other : World State}
    (unfiled : call.environment.value? "FEEDGRAB_CONFIG_FILE" = none)
    (based : call.IsOver base namespaceName other) : call.IsOver base namespaceName world := by
  have settings (world : World State) :
      Settings.load call.environment world.disk world.start =
        Settings.ofSources call.environment none :=
    Settings.load_eq_ofSources (by rw [Settings.settingsFile, unfiled])
  intro invocation chosen asked loaded
  apply based invocation chosen asked
  rw [settingsOf, settings] at loaded ⊢
  exact loaded

theorem allOver_of_environment
    (unfiled : ∀ dated ∈ calls, dated.call.environment.value? "FEEDGRAB_CONFIG_FILE" = none)
    (based : ∀ dated ∈ calls, dated.call.IsOver base namespaceName world) :
    AllOver wire base namespaceName calls world := by
  intro before dated after split
  have member : dated ∈ calls := split ▸ List.mem_append_right _ List.mem_cons_self
  exact Call.isOver_of_environment (unfiled dated member) (based dated member)

/-- Arguments that name no command change nothing. -/
theorem run_stopped {call : Call} {stop : Stop} {device : Store.Device}
    (asked : call.invocation = .error stop) :
    run wire call world device = (stop.exit, world) := by
  rw [run, asked]

/-- What one call may change: nothing if its arguments name no command, or what its command may. -/
structure Change (wire : Http.Wire State) (base namespaceName : String) (dated : Dated)
    (before : World State) (exit : Exit) (after : World State) : Prop where
  stopped : ∀ stop, dated.call.invocation = .error stop → exit = stop.exit ∧ after = before
  framed : ∀ invocation, dated.call.invocation = .ok invocation →
    Framed dated.device (fun name => sessionOf wire dated.call invocation.basePath name before) base
      namespaceName invocation.command before exit after

theorem run_change (wire : Http.Wire State) {dated : Dated}
    (based : dated.call.IsOver base namespaceName (dated.enter world)) :
    Change wire base namespaceName dated (dated.enter world) (dated.run wire world).1
      (dated.run wire world).2 := by
  rw [Dated.run]
  constructor
  · intro stop asked
    rw [run_stopped asked]
    exact ⟨rfl, rfl⟩
  · intro invocation asked
    exact run_framed wire dated.device based asked

theorem Dated.command?_of_asked {invocation : Invocation}
    (asked : dated.call.invocation = .ok invocation) :
    dated.command? = some invocation.command := by
  rw [command?, asked]
  rfl

namespace Change

variable {before after : World State} {exit : Exit}
  (change : Change wire base namespaceName dated before exit after) {name : String}
include change

/-- A session that the call is not for holds what it held. -/
theorem others (apart : ∀ command, dated.command? = some command →
    command.session? ≠ some name) :
    after.holdings base namespaceName name = before.holdings base namespaceName name := by
  cases asked : dated.call.invocation with
  | error stop => rw [(change.stopped stop asked).2]
  | ok invocation =>
      exact (change.framed invocation asked).others name
        (apart _ (Dated.command?_of_asked asked))

/-- A session that the call does not clean up gets at most the key that the call asks it for. -/
theorem grown (spared : ∀ command, dated.command? = some command →
    command.session? = some name → ¬command.Removes) :
    Grown (before.holdings base namespaceName name) (after.holdings base namespaceName name)
      fun key => dated.command? = some (.get name key) := by
  by_cases apart : ∀ command, dated.command? = some command → command.session? ≠ some name
  · rw [change.others apart]
    exact .refl _ _
  · push Not at apart
    obtain ⟨command, named, own⟩ := apart
    obtain ⟨invocation, success, rfl⟩ := Option.map_eq_some_iff.1 named
    have asked := eq_ok_of_toOption success
    have kept := (change.framed invocation asked).grown (spared _ named own) name
    exact kept.weaken fun key same => named.trans (congrArg some same)

end Change

/-- A session that no call is for holds what it held. -/
theorem holdings_worldAfter {name : String}
    (based : AllOver wire base namespaceName calls world)
    (apart : ∀ dated ∈ calls, ∀ command, dated.command? = some command →
      command.session? ≠ some name) :
    (worldAfter wire calls world).holdings base namespaceName name =
      world.holdings base namespaceName name := by
  induction calls using List.reverseRecOn with
  | nil => rfl
  | append_singleton calls dated hypothesis =>
      have earlier := hypothesis based.init fun other member =>
        apart other (List.mem_append_left _ member)
      rw [worldAfter_append, ← earlier]
      exact (run_change wire based.last).others
        (apart dated (List.mem_append_right _ List.mem_cons_self))

/-- A session that no call cleans up keeps its entries, and gets none but those asked for. -/
theorem grown_worldAfter {name : String}
    (based : AllOver wire base namespaceName calls world)
    (spared : ∀ dated ∈ calls, ∀ command, dated.command? = some command →
      command.session? = some name → ¬command.Removes) :
    Grown (world.holdings base namespaceName name)
      ((worldAfter wire calls world).holdings base namespaceName name)
      fun key => ∃ dated ∈ calls, dated.command? = some (.get name key) := by
  induction calls using List.reverseRecOn with
  | nil => exact .refl _ _
  | append_singleton calls dated hypothesis =>
      have earlier := hypothesis based.init fun other member =>
        spared other (List.mem_append_left _ member)
      have last : dated ∈ calls ++ [dated] := List.mem_append_right _ List.mem_cons_self
      have later := (run_change wire based.last).grown (spared dated last)
      rw [worldAfter_append]
      apply (earlier.weaken ?_).trans (later.weaken fun key asked => ⟨dated, last, asked⟩)
      rintro key ⟨other, member, asked⟩
      exact ⟨other, List.mem_append_left _ member, asked⟩

/-- What each call of a series may change. A call whose arguments name no command changes nothing,
and a command changes no session but its own. A fetch changes none, and a listing keeps what it
prints, in increasing order of the keys. Getting a resource adds at most its key, and only a run
over a feed and a purge take entries away; a purge that succeeds takes all of them. Listing and
purging make no store and no request. So a session that no call is for holds what it held in the
beginning, and one that no call cleans up has all that it held and what it was asked for. -/
theorem commands_framed (wire : Http.Wire State) {base namespaceName : String}
    (calls : List Dated) (world : World State)
    (based : AllOver wire base namespaceName calls world) :
    (∀ before dated after, calls = before ++ dated :: after →
      let moment := dated.enter (worldAfter wire before world)
      let step := dated.run wire (worldAfter wire before world)
      worldAfter wire (before ++ [dated]) world = step.2 ∧
        Change wire base namespaceName dated moment step.1 step.2) ∧
    ∀ name,
      ((∀ dated ∈ calls, ∀ command, dated.command? = some command →
          command.session? ≠ some name) →
        (worldAfter wire calls world).holdings base namespaceName name =
          world.holdings base namespaceName name) ∧
      ((∀ dated ∈ calls, ∀ command, dated.command? = some command →
          command.session? = some name → ¬command.Removes) →
        Grown (world.holdings base namespaceName name)
          ((worldAfter wire calls world).holdings base namespaceName name)
          fun key => ∃ dated ∈ calls, dated.command? = some (.get name key)) := by
  refine ⟨fun before dated after split => ?_, fun name => ⟨?_, ?_⟩⟩
  · have change := run_change wire (based before dated after split)
    exact ⟨worldAfter_append wire before dated world, change⟩
  · exact holdings_worldAfter based
  · exact grown_worldAfter based

/-- A call over the base directory of the sample. -/
def sampleCall (words : List String) : Dated :=
  ⟨{ arguments := words ++ ["--base-path", "base"], environment := [] }, "noon", .standard⟩

/-- An entry comes, all entries are listed, and all of them go. -/
def sampleCalls : List Dated :=
  [sampleCall ["get", "news", "http://a/"], sampleCall ["keys", "news"],
    sampleCall ["purge", "news"]]

theorem commands_framed_sample :
    let listed := worldAfter countingWire
      [sampleCall ["get", "news", "http://a/"], sampleCall ["keys", "news"]] failedWorld
    let purged := worldAfter countingWire sampleCalls failedWorld
    (listed.holdings "base" "feedgrab" "news").map Store.Table.size = some 3 ∧
      purged.holdings "base" "feedgrab" "news" = some .empty ∧
      purged.holdings "base" "feedgrab" "blog" = none := by
  intro listed purged
  have based : AllOver countingWire "base" "feedgrab" sampleCalls failedWorld := by
    apply allOver_of_environment (by decide +kernel)
    intro dated member invocation settings asked loaded
    have given : invocation.basePath = some "base" ∧ dated.call.environment = [] := by
      simp only [sampleCalls, List.mem_cons, List.not_mem_nil, or_false] at member
      rcases member with rfl | rfl | rfl <;> cases asked <;> exact ⟨rfl, rfl⟩
    rw [given.1, given.2] at loaded
    cases loaded
    rintro found ⟨⟩
    exact ⟨rfl, rfl⟩
  obtain ⟨each, whole⟩ := commands_framed countingWire sampleCalls failedWorld based
  have held : (listed.holdings "base" "feedgrab" "news").map Store.Table.size = some 3 := by
    decide +kernel
  refine ⟨held, ?_, ?_⟩
  · obtain ⟨last, change⟩ := each [sampleCall ["get", "news", "http://a/"],
      sampleCall ["keys", "news"]] (sampleCall ["purge", "news"]) [] rfl
    have purge := ((change.framed ⟨.purge "news", some "base"⟩ rfl).purge "news" rfl).emptied
      (by decide +kernel)
    obtain ⟨table, present, -⟩ := Option.map_eq_some_iff.1 held
    rw [← last] at purge
    exact purge.trans (congrArg (Option.map _) present)
  · have blog := (whole "blog").1
    rw [blog]
    · decide +kernel
    · intro dated member command asked
      have named : some command ∈ sampleCalls.map Dated.command? :=
        List.mem_map.2 ⟨dated, member, asked⟩
      have commands : sampleCalls.map Dated.command? =
          [some (.get "news" "http://a/"), some (.keys "news"), some (.purge "news")] := by rfl
      rw [commands] at named
      simp only [List.mem_cons, Option.some.injEq, List.not_mem_nil, or_false] at named
      rcases named with rfl | rfl | rfl <;> decide

end FeedCache.Command
