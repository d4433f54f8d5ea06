/-
This file says that fragments are never fetched.

Main statement: a fragment does not decide where a text leads, and texts, keys and locations that
differ in their fragments cause the same requests.
-/
import FeedCache.Proofs.Fetch.Fragment
import FeedCache.Proofs.Fetch.Shape
import FeedCache.Proofs.Session.Answering

namespace FeedCache
open Fetch Url

variable {State : Type}

/-- Texts that differ in their fragments are fetched with the same requests in the same time. -/
theorem World.fetch_alike (world : World State) {transport other : Transport State}
    (alike : transport.Alike other) (policy : Policy) {left right : String}
    (differ : DifferInFragment left right) :
    (world.fetch transport policy left).2 = (world.fetch other policy right).2 := by
  obtain ⟨steps, state⟩ := run_alike alike policy differ world.network
  simp only [World.fetch, Run.requests, Run.attempts, Run.elapsed, steps, state]

namespace Session

/-- Keys without entries that differ in their fragments are fetched with the same requests. -/
theorem getCached_differInFragment (session : Session State) {other : Transport State}
    (alike : session.transport.Alike other) {left right : String}
    (differ : DifferInFragment left right) (world : World State)
    (noLeft : (world.table session.storePath).find? (.text left) = none)
    (noRight : (world.table session.storePath).find? (.text right) = none) :
    let first := (session.getCached left world).2.2
    let second := ({ session with transport := other }.getCached right world).2.2
    first = { second with disk := first.disk } := by
  intro first second
  have restored (middle : World State) (same : second = { middle with disk := second.disk }) :
      { middle with disk := first.disk } = { second with disk := first.disk } :=
    congrArg (fun world : World State => { world with disk := first.disk }) same.symm
  obtain ⟨fetchedFirst, keptFirst⟩ := session.getCached_absent noLeft
  obtain ⟨fetchedSecond, keptSecond⟩ :=
    ({ session with transport := other } : Session State).getCached_absent noRight
  by_cases ready : ¬session.isClosed ∧ world.Opens session.storePath
  · calc first = { (world.fetch session.transport session.policy left).2 with
          disk := first.disk } := (fetchedFirst ready).2
      _ = { (world.fetch other session.policy right).2 with disk := first.disk } := by
          rw [world.fetch_alike alike session.policy differ]
      _ = { second with disk := first.disk } := restored _ (fetchedSecond ready).2
  · exact (keptFirst ready).trans (restored world (keptSecond ready))

end Session

/-- A fragment does not decide where a text leads, alone or from a base. The one exception is a text
of an unknown scheme with an at sign for no user and no host: it leads nowhere with a fragment or
without, but for different reasons. A location that is only a fragment leads back to the base. Texts
and locations that differ in their fragments cause the same requests, and so do keys without
entries. -/
theorem fragments_irrelevant :
    (∀ text fragment : String, '#' ∉ text.toList → HasFirmEnds text.toList →
      ((¬∃ scheme, IsBareSign scheme (text.toList.filter isKeptInside)) →
        parse (text ++ "#" ++ fragment) = parse text ∧
        ∀ base : Url, base.resolve (text ++ "#" ++ fragment) = base.resolve text) ∧
      ∀ scheme, IsBareSign scheme (text.toList.filter isKeptInside) →
        (parse text = .error (.unsupportedScheme (String.ofList scheme)) ∧
          parse (text ++ "#" ++ fragment) = .error (.invalid .emptyHost)) ∧
        ∀ base : Url,
          base.resolve text = .error (.unsupportedScheme (String.ofList scheme)) ∧
          base.resolve (text ++ "#" ++ fragment) = .error (.invalid .emptyHost)) ∧
    (∀ text first second : String, '#' ∉ text.toList →
      parse (text ++ "#" ++ first) = parse (text ++ "#" ++ second) ∧
      ∀ base : Url, base.resolve (text ++ "#" ++ first) = base.resolve (text ++ "#" ++ second)) ∧
    (∀ (base : Url) (fragment : String), base.resolve ("#" ++ fragment) = .ok base) ∧
    ∀ (State : Type) (session : Session State) (other : Transport State) (left right : String)
      (world : World State), session.transport.Alike other → DifferInFragment left right →
      (run session.transport session.policy left world.network).requests =
        (run other session.policy right world.network).requests ∧
      ((∀ key ∈ [left, right], (world.table session.storePath).find? (.text key) = none) →
        (session.getCached left world).2.2.requests =
          ({ session with transport := other }.getCached right world).2.2.requests) := by
  refine ⟨fun text fragment plain firm => ?_, fun text first second plain => ?_,
    resolve_fragment, ?_⟩
  · have added (base : Option Url) := readFetchable_added base plain firm fragment
    exact ⟨fun other => ⟨(added none).1 other, fun base => (added (some base)).1 other⟩,
      fun scheme bare =>
        ⟨(added none).2 scheme bare, fun base => (added (some base)).2 scheme bare⟩⟩
  · exact ⟨readFetchable_changed none plain first second,
      fun base => readFetchable_changed (some base) plain first second⟩
  · intro State session other left right world alike differ
    obtain ⟨steps, -⟩ := run_alike alike session.policy differ world.network
    refine ⟨by simp only [Run.requests, Run.attempts, steps], fun absent => ?_⟩
    have same := session.getCached_differInFragment alike differ world (absent left (by simp))
      (absent right (by simp))
    have requests := congrArg World.requests same
    exact requests

/-- A transport that redirects from the root to a location with a fragment. -/
def markedTransport (fragment : String) : Transport Unit := fun state url =>
  (⟨0, .ok (if url.path = [[]] then { status := 302, location := some ("/b" ++ "#" ++ fragment) }
    else { status := 200 })⟩, state)

theorem markedTransport_alike (first second : String) :
    (markedTransport first).Alike (markedTransport second) := by
  intro state url
  refine ⟨?_, rfl⟩
  rw [markedTransport, markedTransport]
  split
  · exact @Reply.Alike.moved 0 { status := 302 } _ _ rfl
      (@DifferInFragment.changed "/b" (by decide) first second)
  · exact .same _

/-- Two sessions ask for a key with a fragment and without, and are redirected to locations with
different ones. -/
theorem fragments_irrelevant_sample :
    let session : Session Unit :=
      ⟨"news", "news.db", markedTransport "x", ⟨10, 1, 2, 1⟩, [], .created⟩
    let other : Session Unit := { session with transport := markedTransport "y" }
    parse ("http://a/" ++ "#" ++ "z") = parse "http://a/" ∧
      (session.getCached "http://a/" Session.strangeWorld).2.2.requests =
        (other.getCached ("http://a/" ++ "#" ++ "z") Session.strangeWorld).2.2.requests ∧
      (run session.transport session.policy "http://a/" ()).requests =
        [sampleUrl [], sampleUrl ['b']] := by
  intro session other
  have plain : '#' ∉ "http://a/".toList := by decide
  have firm : HasFirmEnds "http://a/".toList := by decide
  have noBareSign : ¬∃ scheme, IsBareSign scheme ("http://a/".toList.filter isKeptInside) := by
    rintro ⟨scheme, bare⟩
    have other : splitScheme ("http://a/".toList.filter isKeptInside) =
      some ("http".toList, "//a/".toList) := by decide +kernel
    exact absurd (Option.some.inj (other.symm.trans bare.split.1)) (by simp)
  obtain ⟨added, -, -, sessions⟩ := fragments_irrelevant
  obtain ⟨-, asked⟩ := sessions Unit session (markedTransport "y") "http://a/"
    ("http://a/" ++ "#" ++ "z") Session.strangeWorld (markedTransport_alike "x" "y")
    (.added plain firm "z")
  have absent : ∀ key ∈ ["http://a/", "http://a/" ++ "#" ++ "z"],
      (Session.strangeWorld.table "news.db").find? (.text key) = none := by decide +kernel
  exact ⟨((added "http://a/" "z" plain firm).1 noBareSign).1, asked absent, by decide +kernel⟩

/-- A fragment decides why a text is refused, alone or from a base. -/
theorem fragment_decides_refusal :
    '#' ∉ "foo://@".toList ∧ HasFirmEnds "foo://@".toList ∧
      parse "foo://@" = .error (.unsupportedScheme "foo") ∧
      parse ("foo://@" ++ "#" ++ "x") ≠ parse "foo://@" ∧
      (sampleUrl []).resolve "foo://@" = .error (.unsupportedScheme "foo") ∧
      (sampleUrl []).resolve ("foo://@" ++ "#" ++ "x") ≠ (sampleUrl []).resolve "foo://@" := by
  have alone : parse "foo://@" = .error (.unsupportedScheme "foo") := by decide +kernel
  have marked : parse ("foo://@" ++ "#" ++ "x") = .error (.invalid .emptyHost) := by
    decide +kernel
  have seen : (sampleUrl []).resolve "foo://@" = .error (.unsupportedScheme "foo") := by
    decide +kernel
  have seenMarked : (sampleUrl []).resolve ("foo://@" ++ "#" ++ "x") =
      .error (.invalid .emptyHost) := by
    decide +kernel
  refine ⟨by decide, by decide, alone, ?_, seen, ?_⟩
  · rw [alone, marked]
    simp
  · rw [seen, seenMarked]
    simp

end FeedCache
