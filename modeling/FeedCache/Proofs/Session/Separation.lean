/-
This file puts sessions with different names on one disk.

Main statement: in every order of their operations, each session answers as if it were alone, and
finds its store as if it were alone.
-/
import FeedCache.Proofs.Session.Locality
import FeedCache.Proofs.Store.Location

namespace FeedCache

/-- A session with what it alone acts on: the state of its transport, its requests and its time. -/
structure Party (State : Type) where
  session : Session State
  network : State
  requests : List Url := []
  clock : Nat := 0

/-- One operation, with the time of day at which it is done and what its store is kept on then. -/
structure Turn where
  call : Session.Call
  timeOfDay : String
  device : Store.Device := .free

namespace Party

variable {State : Type}

def place (party : Party State) (start : Place) : Place :=
  Place.ofPath start party.session.storePath

/-- What the session acts on in one turn. -/
def world (party : Party State) (start : Place) (turn : Turn) (disk : Disk) : World State :=
  { party with disk, start, timeOfDay := turn.timeOfDay }

/-- One turn: the answer, and the party and the disk as it leaves them. -/
def take (party : Party State) (start : Place) (turn : Turn) (disk : Disk) :
    Except Session.Fault Session.Answer × Party State × Disk :=
  let (answer, session, world) :=
    party.session.perform turn.call (party.world start turn disk) turn.device
  (answer, { world with session }, world.disk)

/-- Turns in order, with nobody else on the disk. -/
def takeAll (party : Party State) (start : Place) :
    List Turn → Disk → List (Except Session.Fault Session.Answer) × Party State × Disk
  | [], disk => ([], party, disk)
  | turn :: turns, disk =>
      let (answer, party, disk) := party.take start turn disk
      let (answers, party, disk) := party.takeAll start turns disk
      (answer :: answers, party, disk)

/-- A turn leaves a party where it was. -/
theorem place_take (party : Party State) (start : Place) (turn : Turn) (disk : Disk) :
    (party.take start turn disk).2.1.place start = party.place start :=
  congrArg (Place.ofPath start) (party.session.perform_place turn.call _ turn.device).1

/-- A turn is not seen from the places beside the party's. -/
theorem take_beside (party : Party State) (start : Place) (turn : Turn) (disk : Disk)
    {place : Place} (beside : place.Beside (party.place start)) :
    Disk.Alike place (party.take start turn disk).2.2 disk :=
  (party.session.perform_worked turn.call (party.world start turn disk) turn.device).beside beside

/-- A turn does the same on disks that look alike from the party's place. -/
theorem take_alike (party : Party State) (start : Place) (turn : Turn) {disk other : Disk}
    (alike : Disk.Alike (party.place start) disk other) :
    ∃ answer after left right, party.take start turn disk = (answer, after, left) ∧
      party.take start turn other = (answer, after, right) ∧
      Disk.Alike (party.place start) left right := by
  have step : Session.Step.Alike (party.place start)
      (party.session.perform turn.call (party.world start turn disk) turn.device)
      (party.session.perform turn.call (party.world start turn other) turn.device) := by
    have seen : Disk.Alike ((party.world start turn disk).place party.session.storePath)
      (party.world start turn disk).disk other := alike
    exact party.session.perform_alike turn.call seen turn.device
  unfold take
  generalize party.session.perform turn.call (party.world start turn disk) turn.device = first
    at step ⊢
  generalize party.session.perform turn.call (party.world start turn other) turn.device = second
    at step ⊢
  cases step with
  | same disks => exact ⟨_, _, _, _, rfl, rfl, disks⟩

end Party

variable {ι : Type} [DecidableEq ι] {State : ι → Type}

/-- What belongs to one party in a list of tagged things. -/
def ownOf {α : Type} (party : ι) (tagged : List (ι × α)) : List α :=
  tagged.filterMap fun entry => if entry.1 = party then some entry.2 else none

theorem ownOf_own {α : Type} (party : ι) (thing : α) (tagged : List (ι × α)) :
    ownOf party ((party, thing) :: tagged) = thing :: ownOf party tagged := by
  simp [ownOf]

theorem ownOf_other {α : Type} {party other : ι} (different : other ≠ party) (thing : α)
    (tagged : List (ι × α)) : ownOf party ((other, thing) :: tagged) = ownOf party tagged := by
  simp [ownOf, different]

/-- Several parties take their turns on one disk, in the order of a list. -/
def takeMixed (start : Place) (parties : (party : ι) → Party (State party)) :
    List (ι × Turn) → Disk →
      List (ι × Except Session.Fault Session.Answer) × ((party : ι) → Party (State party)) × Disk
  | [], disk => ([], parties, disk)
  | (party, turn) :: turns, disk =>
      let (answer, after, disk) := (parties party).take start turn disk
      let (answers, parties, disk) :=
        takeMixed start (Function.update parties party after) turns disk
      ((party, answer) :: answers, parties, disk)

/-- A turn leaves every party where it was. -/
theorem place_update {start : Place} {places : ι → Place}
    {parties : (party : ι) → Party (State party)}
    (placed : ∀ party, (parties party).place start = places party) {taker : ι}
    {after : Party (State taker)} (moved : after.place start = places taker) (party : ι) :
    (Function.update parties taker after party).place start = places party := by
  by_cases own : party = taker
  · subst own
    rw [Function.update_self, moved]
  · rw [Function.update_of_ne own, placed]

/-- A party among others whose places are beside its own does what it does alone. -/
theorem takeMixed_alone {start : Place} {places : ι → Place} {party : ι}
    (beside : ∀ other, other ≠ party → (places party).Beside (places other))
    (turns : List (ι × Turn)) :
    ∀ {parties : (party : ι) → Party (State party)} {disk single : Disk},
      (∀ party, (parties party).place start = places party) →
      Disk.Alike (places party) disk single →
      ∃ answers after left right,
        takeMixed start parties turns disk = (answers, after, left) ∧
        (parties party).takeAll start (ownOf party turns) single =
          (ownOf party answers, after party, right) ∧
        Disk.Alike (places party) left right := by
  induction turns with
  | nil =>
      intro parties disk single placed alike
      exact ⟨_, _, _, _, rfl, rfl, alike⟩
  | cons entry turns hypothesis =>
      obtain ⟨taker, turn⟩ := entry
      intro parties disk single placed alike
      have moved := ((parties taker).place_take start turn disk).trans (placed taker)
      by_cases own : taker = party
      · subst own
        rw [← placed taker] at alike
        obtain ⟨answer, after, left, right, first, second, disks⟩ :=
          (parties taker).take_alike start turn alike
        rw [first] at moved
        rw [placed taker] at disks
        obtain ⟨answers, last, mixed, alone, together, apart, ends⟩ :=
          hypothesis (place_update placed moved) disks
        rw [Function.update_self] at apart
        refine ⟨(taker, answer) :: answers, last, mixed, alone, ?_, ?_, ends⟩
        · rw [takeMixed, first]
          dsimp only
          rw [together]
        · rw [ownOf_own, Party.takeAll, second]
          dsimp only
          rw [apart, ownOf_own]
      · have hidden := (parties taker).take_beside start turn disk
          (placed taker ▸ beside taker own)
        generalize took : (parties taker).take start turn disk = result at hidden moved
        obtain ⟨answer, after, left⟩ := result
        obtain ⟨answers, last, mixed, alone, together, apart, ends⟩ :=
          hypothesis (place_update placed moved) (hidden.trans alike)
        rw [Function.update_of_ne (Ne.symm own)] at apart
        refine ⟨(taker, answer) :: answers, last, mixed, alone, ?_, ?_, ends⟩
        · rw [takeMixed, took]
          dsimp only
          rw [together]
        · rw [ownOf_other own, apart, ownOf_other own]

/-- Sessions with different names are apart from each other. Their stores have different paths, and
none is a companion of another. In each order of their operations on one disk, every session
answers as if it were alone, and ends as if it were alone, with its store. -/
theorem sessions_separate (base namespaceName : String) :
    (∀ first second : String, Store.checkName first = .ok () → Store.checkName second = .ok () →
      first ≠ second →
      ∃ left right, Store.path base namespaceName first = .ok left ∧
        Store.path base namespaceName second = .ok right ∧ left ≠ right ∧
        ∀ suffix ∈ Store.companions, left ≠ right ++ suffix ∧ right ≠ left ++ suffix) ∧
    ∀ (start : Place) (parties : (party : ι) → Party (State party)),
      (∀ party, Store.path base namespaceName (parties party).session.name =
        .ok (parties party).session.storePath) →
      (∀ first second, first ≠ second →
        (parties first).session.name ≠ (parties second).session.name) →
      ∀ (turns : List (ι × Turn)) (disk : Disk) (party : ι),
        let mixed := takeMixed start parties turns disk
        let alone := (parties party).takeAll start (ownOf party turns) disk
        ownOf party mixed.1 = alone.1 ∧ mixed.2.1 party = alone.2.1 ∧
          mixed.2.2.node? ((parties party).place start) =
            alone.2.2.node? ((parties party).place start) := by
  constructor
  · intro first second accepted other different
    obtain ⟨left, named⟩ := Store.path_of_accepted accepted base namespaceName
    obtain ⟨right, beside⟩ := Store.path_of_accepted other base namespaceName
    refine ⟨left, right, named, beside, ?_, fun suffix companion =>
      ⟨Store.path_ne_companion named companion right,
        Store.path_ne_companion beside companion left⟩⟩
    rintro rfl
    exact different (Store.path_injective named beside)
  · intro start parties named different turns disk party mixed alone
    have beside : ∀ other, other ≠ party →
        ((parties party).place start).Beside ((parties other).place start) :=
      fun other apart => Store.beside_of_names (named party) (named other)
        (different party other (Ne.symm apart)) start
    obtain ⟨answers, after, left, right, together, single, alike⟩ :=
      takeMixed_alone beside turns (fun _ => rfl) (.refl _ disk)
    have ends : alone = (ownOf party answers, after party, right) := single
    rw [show mixed = (answers, after, left) from together, ends]
    exact ⟨rfl, rfl, alike.here⟩

/-- Two sessions, one of them with the name of the other's companion file. -/
def neighbours (imitates : Bool) : Party Unit :=
  let name := if imitates then "news.db-wal" else "news"
  { session :=
      { name, storePath := ".feedgrab/" ++ name ++ ".db", policy := ⟨10, 1, 1, 1⟩
        transport := fun state _ => (⟨0, .ok { status := 200, body := ⟨#[7]⟩ }⟩, state) }
    network := () }

def neighbourTurns : List (Bool × Turn) :=
  [(true, ⟨.cached "http://a/", "noon", .free⟩), (false, ⟨.cached "http://b/", "one", .standard⟩),
    (true, ⟨.cleanup, "two", .readOnly⟩), (false, ⟨.entries, "three", .standard⟩)]

theorem sessions_separate_sample :
    let mixed := takeMixed [] neighbours neighbourTurns .empty
    let alone := (neighbours false).takeAll []
      [⟨.cached "http://b/", "one", .standard⟩, ⟨.entries, "three", .standard⟩] .empty
    (∃ left right, Store.path "" "feedgrab" "news" = .ok left ∧
      Store.path "" "feedgrab" "news.db-wal" = .ok right ∧ left ≠ right ∧
      ∀ suffix ∈ Store.companions, left ≠ right ++ suffix ∧ right ≠ left ++ suffix) ∧
    ownOf false mixed.1 = alone.1 ∧ mixed.2.1 false = alone.2.1 ∧
      mixed.2.2.node? [".feedgrab", "news.db"] = alone.2.2.node? [".feedgrab", "news.db"] := by
  obtain ⟨paths, runs⟩ := @sessions_separate Bool _ (fun _ => Unit) "" "feedgrab"
  have named : ∀ imitates, Store.path "" "feedgrab" (neighbours imitates).session.name =
      .ok (neighbours imitates).session.storePath := by
    rintro (_ | _) <;> rfl
  have different : ∀ first second, first ≠ second →
      (neighbours first).session.name ≠ (neighbours second).session.name := by decide
  have place : (neighbours false).place [] = [".feedgrab", "news.db"] := by decide
  have own : ownOf false neighbourTurns =
    [⟨.cached "http://b/", "one", .standard⟩, ⟨.entries, "three", .standard⟩] := rfl
  have same := runs [] neighbours named different neighbourTurns .empty false
  rw [own, place] at same
  exact ⟨paths "news" "news.db-wal" rfl rfl (by decide), same⟩

end FeedCache
