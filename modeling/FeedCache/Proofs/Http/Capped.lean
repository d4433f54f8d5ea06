/-
This file follows the limit for bodies through a whole fetch.

Main statement: no body that is larger than the limit is handed on, the body of a redirect never
stands in its way, and a body that is too large ends the fetch for good.
-/
import FeedCache.Proofs.Fetch.Bounds
import FeedCache.Proofs.Fetch.Progress

namespace FeedCache.Http
open Fetch

namespace Client

variable {State : Type}

/-- What the limit of a client means for the reply to one request. -/
structure CapsReplies (client : Client) (wire : Wire State) : Prop where
  size : ∀ state url response, (client.transport wire state url).1.result = .ok response →
    response.body.size ≤ client.limit
  tooLarge : ∀ state url length bound,
    (client.transport wire state url).1.result = .error (.tooLarge length bound) ↔
      bound = client.limit ∧
        ∃ answer, client.Answered wire state url answer ∧ answer.Exceeds client.limit length
  /-- A body may be as long as the limit. -/
  accepted : ∀ state url answer, client.Answered wire state url answer → answer.Succeeds →
    answer.DeclaresUpTo client.limit → answer.isComplete → answer.body.size ≤ client.limit →
      (client.transport wire state url).1.result = .ok { answer.head with body := answer.body }
  /-- Of an answer that is no success only the head counts, and its location is reported. -/
  unread : ∀ state url answer, client.Answered wire state url answer → ¬answer.Succeeds →
    (client.transport wire state url).1.result =
      .ok { status := answer.status, location := answer.field? "location",
            contentType := answer.field? "content-type" }

theorem capsReplies (client : Client) (wire : Wire State) : client.CapsReplies wire where
  size _ _ _ received := transport_size received
  tooLarge _ _ _ _ := transport_eq_tooLarge
  accepted _ _ _ answered success modest complete fits :=
    answered.result.trans (Answer.receive_fitting success modest complete fits)
  unread _ _ _ answered failed := answered.result.trans (Answer.receive_failure failed)

/-- The reply to a request is what the client makes of an answer that comes over the wire. -/
def Heard (client : Client) (wire : Wire State) (exchange : Fetch.Exchange) (answer : Answer) :
    Prop :=
  ∃ state, client.Answered wire state exchange.url answer ∧
    exchange.reply = (client.transport wire state exchange.url).1

section

variable {client : Client} {wire : Wire State} {exchange : Fetch.Exchange} {answer : Answer}

theorem Heard.result (heard : client.Heard wire exchange answer) :
    exchange.reply.result = answer.receive client.limit := by
  obtain ⟨state, answered, reply⟩ := heard
  rw [reply, answered.result]

/-- A redirect with a usable location is one whatever its body and the length that it declares. -/
theorem Heard.redirectsTo (heard : client.Heard wire exchange answer)
    (redirect : 300 ≤ answer.status ∧ answer.status < 400) {location : String} {target : Url}
    (named : answer.field? "location" = some location)
    (resolved : exchange.url.resolve location = .ok target) : exchange.RedirectsTo target := by
  have failed : ¬answer.Succeeds := fun success => by
    have := success.2
    omega
  exact ⟨answer.head, location, heard.result.trans (Answer.receive_failure failed),
    Response.isRedirect_iff.2 redirect, named, resolved⟩

theorem Heard.failsWith (heard : client.Heard wire exchange answer) {length : Nat}
    (exceeds : answer.Exceeds client.limit length) :
    exchange.FailsWith (.tooLarge length client.limit) :=
  .tooLarge (heard.result.trans (Answer.receive_eq_tooLarge.2 ⟨rfl, exceeds⟩))

end

/-- What the limit of a client means for a whole fetch. -/
structure CapsFetch (client : Client) (wire : Wire State) (policy : Policy) (text : String)
    (state : State) : Prop where
  page : ∀ page, (Fetch.run (client.transport wire) policy text state).outcome = .fetched page →
    page.body.size ≤ client.limit
  /-- The attempts that are made are the first ones by their numbers. -/
  attempts : ∀ url, Url.parse text = .ok url → ∃ count ≤ policy.attempts,
    (Fetch.run (client.transport wire) policy text state).attempts =
      (List.range count).map (numbered (client.transport wire) policy url state)
  /-- The next request after a redirect is for its target, whatever body comes with it, unless all
  hops or all the time of the attempt are used up. -/
  redirected : ∀ url, Url.parse text = .ok url → ∀ number,
    let log := attemptLog (client.transport wire) policy url state number
    ∀ index exchange answer location target, log[index]? = some exchange →
      client.Heard wire exchange answer → 300 ≤ answer.status ∧ answer.status < 400 →
      answer.field? "location" = some location → exchange.url.resolve location = .ok target →
        log[index + 1]?.map Exchange.url = some target ∨ index + 1 = policy.maxRedirects ∨
          policy.timeout < totalDelay (log.take (index + 1))
  /-- An answer that is too large ends the fetch in the attempt in which it comes in time. -/
  final : ∀ url, Url.parse text = .ok url →
    let log := attemptLog (client.transport wire) policy url state
    ∀ number < policy.attempts, (∀ earlier < number, EndsInTimeout policy.timeout (log earlier)) →
      totalDelay (log number) ≤ policy.timeout → ∀ exchange ∈ log number, ∀ answer length,
      client.Heard wire exchange answer → answer.Exceeds client.limit length →
        let run := Fetch.run (client.transport wire) policy text state
        run.outcome = .failed (.tooLarge length client.limit) ∧
          run.attempts =
            (List.range (number + 1)).map (numbered (client.transport wire) policy url state)

theorem capsFetch (client : Client) (wire : Wire State) (policy : Policy) (text : String)
    (state : State) : client.CapsFetch wire policy text state where
  page _ fetched := run_body_limit fetched
  attempts _ parsed := run_attempts (client.transport wire) policy state parsed
  redirected url _ number := by
    intro log index exchange answer location target found heard redirect named resolved
    exact follow_goesOn (client.transport wire) _ _ _ url _ index exchange target found
      (heard.redirectsTo redirect named resolved)
  final url parsed := by
    intro log number inBudget late inTime exchange member answer length heard exceeds
    exact run_failed (client.transport wire) policy state parsed inBudget late inTime member
      (heard.failsWith exceeds)

/-- The limit of the settings is kept in every reply and in every fetch, over every wire, and only
the bodies of successes are measured by it. -/
theorem bodies_capped (client : Client) (wire : Wire State) :
    (∀ settings, ofSettings settings = .ok client → client.limit = settings.maxBytes) ∧
      client.CapsReplies wire ∧
      ∀ policy text state, client.CapsFetch wire policy text state :=
  ⟨fun _ built => ofSettings_limit built, client.capsReplies wire, client.capsFetch wire⟩

/-- A redirect that declares a length and has a body. -/
def heavyRedirect : Answer :=
  { status := 302, header := [⟨"Location", [0x2F, 0x62]⟩], declared := some 9
    body := ⟨#[1, 2, 3, 4, 5, 6, 7, 8, 9]⟩ }

/-- A success that does not say how long its body is. -/
def heavySuccess : Answer := { status := 200, body := ⟨#[1, 2, 3, 4, 5]⟩ }

/-- A wire over which the first page moves; the moved page takes too long at first. -/
def heavyWire : Wire Nat := fun count _ =>
  ((1, if count = 1 then .timedOut
    else if count = 3 then .answered heavySuccess else .answered heavyRedirect), count + 1)

/-- The client of settings that set nothing but the limit. -/
def lightClient : Client := ⟨({} : Settings).userAgent, 4, {}, []⟩

/-- The redirect is followed in both attempts, and the second one ends with a body that is too
large. -/
theorem bodies_capped_sample :
    let transport := lightClient.transport heavyWire
    let policy : Policy := ⟨100, 3, 2, 5⟩
    let log := attemptLog transport policy (sampleUrl []) 0
    let run := Fetch.run transport policy "http://a/" 0
    ofSettings { maxBytes := 4 } = .ok lightClient ∧ lightClient.limit = 4 ∧
      Url.parse "http://a/" = .ok (sampleUrl []) ∧ EndsInTimeout 100 (log 0) ∧
      lightClient.Heard heavyWire ⟨sampleUrl [], (transport 2 (sampleUrl [])).1⟩ heavyRedirect ∧
      (log 1)[1]?.map Exchange.url = some (sampleUrl ['b']) ∧
      lightClient.Heard heavyWire ⟨sampleUrl ['b'], (transport 3 (sampleUrl ['b'])).1⟩
        heavySuccess ∧
      heavySuccess.Exceeds 4 5 ∧ run.outcome = .failed (.tooLarge 5 4) ∧
      run.attempts.length = 2 := by
  intro transport policy log run
  have built : ofSettings { maxBytes := 4 } = .ok lightClient :=
    eq_ok_of_toOption (by decide +kernel)
  have parsed : Url.parse "http://a/" = .ok (sampleUrl []) := by decide +kernel
  have requests : ∀ number < 2, (numbered transport policy (sampleUrl []) 0 number).requests =
      [sampleUrl [], sampleUrl ['b']] := by decide +kernel
  have between : stateBefore transport policy (sampleUrl []) 0 1 = 2 := by decide +kernel
  have first : log 0 = transcript transport 0 [sampleUrl [], sampleUrl ['b']] := by
    simp only [log, attemptLog, requests 0 (by decide)]
    rfl
  have second : log 1 = transcript transport 2 [sampleUrl [], sampleUrl ['b']] := by
    simp only [log, attemptLog, requests 1 (by decide), between]
  have late : EndsInTimeout 100 (log 0) := by
    rw [first]
    exact .inl ⟨_, rfl, by decide +kernel⟩
  have inTime : totalDelay (log 1) ≤ 100 ∧ totalDelay ((log 1).take 1) ≤ 100 := by
    rw [second]
    decide +kernel
  have moved : lightClient.Heard heavyWire ⟨sampleUrl [], (transport 2 (sampleUrl [])).1⟩
      heavyRedirect := ⟨2, ⟨by decide +kernel, rfl⟩, rfl⟩
  have heard : lightClient.Heard heavyWire ⟨sampleUrl ['b'], (transport 3 (sampleUrl ['b'])).1⟩
      heavySuccess := ⟨3, ⟨by decide +kernel, rfl⟩, rfl⟩
  have exceeds : heavySuccess.Exceeds 4 5 :=
    .received ⟨by decide, by decide⟩ nofun rfl (by decide)
  have member : ⟨sampleUrl ['b'], (transport 3 (sampleUrl ['b'])).1⟩ ∈ log 1 := by
    rw [second]
    exact List.mem_cons_of_mem _ List.mem_cons_self
  obtain ⟨limited, -, fetches⟩ := bodies_capped lightClient heavyWire
  have capped := fetches policy "http://a/" 0
  have goes := capped.redirected (sampleUrl []) parsed 1 0 _ heavyRedirect "/b" (sampleUrl ['b'])
    (congrArg (·[0]?) second) moved (by decide) (by decide +kernel) (by decide +kernel)
  obtain ⟨outcome, attempts⟩ := capped.final (sampleUrl []) parsed 1 (by decide)
    (fun earlier before => by rwa [Nat.lt_one_iff.1 before]) inTime.1 _ member heavySuccess 5 heard
    exceeds
  refine ⟨built, limited _ built, parsed, late, moved, ?_, heard, exceeds, outcome,
    by rw [attempts]; rfl⟩
  rcases goes with goes | spent | tooLate
  · exact goes
  · cases spent
  · exact absurd inTime.2 (Nat.not_le.2 tooLate)

end Client

end FeedCache.Http
