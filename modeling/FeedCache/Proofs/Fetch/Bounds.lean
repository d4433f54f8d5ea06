/-
This file bounds every fetch that is made with loaded settings.

Main statement: settings that are loaded keep their rules, and so no fetch makes more than 400
requests or 19 pauses, each attempt has the time that the settings give it, no pause takes longer than
the rules allow, and no body is larger; settings that break a rule are not loaded.
-/
import FeedCache.Proofs.Fetch.Outcome
import FeedCache.Proofs.Http.Limit
import FeedCache.Proofs.Settings.Loading
import FeedCache.Proofs.Settings.Rules

namespace FeedCache.Fetch

variable {State : Type}

def Step.pause? : Step State → Option Nat
  | .attempt _ => none
  | .pause duration => some duration

/-- The pauses of a fetch, in order. -/
def Run.pauses (run : Run State) : List Nat := run.steps.filterMap Step.pause?

/-- An attempt has as much time as the limit says. It takes as long as its replies do, but no longer
than that; it is timed out if they take longer, and else only if its last request is. -/
structure Attempt.HasLimit (limit : Nat) (done : Attempt State) (log : List Exchange) : Prop where
  requests : log.map Exchange.url = done.requests
  elapsed : done.elapsed = min limit (totalDelay log)
  timedOut : done.ending = .timedOut ↔ EndsInTimeout limit log

/-- An attempt is cut off when its time is up, and not before. -/
theorem follow_elapsed (transport : Transport State) (limit hops time : Nat) (url : Url)
    (state : State) :
    (follow transport limit hops time url state).elapsed =
      min time (totalDelay
        (transcript transport state (follow transport limit hops time url state).requests)) := by
  induction hops generalizing time url state with
  | zero => simp [follow, Attempt.ended]
  | succ hops hypothesis =>
      rw [follow]
      dsimp only
      by_cases late : time < (transport state url).1.delay
      · rw [if_pos late]
        simp only [Attempt.afterRequest, Attempt.ended, transcript_cons, transcript_nil,
          totalDelay_cons, totalDelay_nil]
        omega
      · rw [if_neg late]
        cases judge url (transport state url).1.result with
        | error ending =>
            simp only [Attempt.afterRequest, Attempt.ended, transcript_cons, transcript_nil,
              totalDelay_cons, totalDelay_nil]
            omega
        | ok target =>
            have rest := hypothesis (time - (transport state url).1.delay) target
              (transport state url).2
            simp only [Attempt.afterRequest, transcript_cons, totalDelay_cons]
            omega

theorem attempt_hasLimit (transport : Transport State) (policy : Policy) (url : Url)
    (state : State) :
    let done := attempt transport policy url state
    done.HasLimit policy.timeout (transcript transport state done.requests) where
  requests := transcript_urls transport state _
  elapsed := follow_elapsed transport _ _ policy.timeout url state
  timedOut := (follow_follows transport _ _ policy.timeout url state).timedOut

/-- The exchanges of a fetch part into those of its attempts, each of which has the same limit. There
are as many attempts as may be made, or the last one has not timed out. -/
structure Run.HasLimits (transport : Transport State) (limit budget : Nat) (state : State)
    (run : Run State) : Prop where
  limited : ∃ parts : List (List Exchange),
    transcript transport state run.requests = parts.flatten ∧
      List.Forall₂ (Attempt.HasLimit limit) run.attempts parts
  spent : run.attempts.length = budget ∨ ∃ last ∈ run.attempts.getLast?, last.ending ≠ .timedOut

theorem retry_hasLimits (transport : Transport State) (policy : Policy) (url : Url)
    (left made : Nat) (state : State) :
    (retry transport policy url left made state).HasLimits transport policy.timeout left state := by
  induction left generalizing made state with
  | zero => exact ⟨⟨[], rfl, .nil⟩, .inl rfl⟩
  | succ left hypothesis =>
      have limit := attempt_hasLimit transport policy url state
      cases ended : (attempt transport policy url state).outcome? url (made + 1) with
      | some outcome =>
          rw [retry_ended transport policy url left made state ended]
          have inTime : (attempt transport policy url state).ending ≠ .timedOut :=
            fun late => nomatch (Attempt.outcome?_eq_none.2 late).symm.trans ended
          exact ⟨⟨[_], by simp [Run.requests, Run.attempts, Step.attempt?],
            .cons limit .nil⟩, .inr ⟨_, rfl, inTime⟩⟩
      | none =>
          obtain ⟨-, attempts, requests, -⟩ :=
            retry_again transport policy url left made state ended
          obtain ⟨⟨parts, flat, limits⟩, spent⟩ :=
            hypothesis (made + 1) (attempt transport policy url state).state
          have follows := follow_follows transport policy.maxRedirects policy.maxRedirects
            policy.timeout url state
          rw [← attempt] at follows
          constructor
          · refine ⟨transcript transport state (attempt transport policy url state).requests ::
              parts, ?_, attempts ▸ .cons limit limits⟩
            rw [requests, transcript_append, ← follows.moved, flat, List.flatten_cons]
          · rw [attempts]
            rcases spent with whole | ⟨last, final, inTime⟩
            · exact .inl (congrArg (· + 1) whole)
            · refine .inr ⟨last, ?_, inTime⟩
              rw [Option.mem_def, List.getLast?_cons, Option.mem_def.1 final]
              rfl

theorem pauses_intersperse (attempts : List (Attempt State)) (duration : Nat) :
    ((attempts.map Step.attempt).intersperse (.pause duration)).filterMap Step.pause? =
      List.replicate (attempts.length - 1) duration := by
  induction attempts with
  | nil => rfl
  | cons first rest hypothesis =>
      cases rest with
      | nil => rfl
      | cons second rest =>
          rw [List.map_cons, List.map_cons, List.intersperse_cons_cons, ← List.map_cons]
          simpa [Step.pause?, List.filterMap_cons, List.replicate_succ] using hypothesis

theorem Run.Shape.pauses {transport : Transport State} {policy : Policy} {url : Url} {budget : Nat}
    {state : State} {run : Run State} (shape : run.Shape transport policy url budget state) :
    run.pauses = List.replicate (run.attempts.length - 1) policy.retryBackoff := by
  rw [Run.pauses, shape.paused, pauses_intersperse]

/-- The first request of a fetch is the URL that was asked for. -/
theorem Run.Shape.head?_requests {transport : Transport State} {policy : Policy} {url : Url}
    {budget : Nat} {state : State} {run : Run State}
    (shape : run.Shape transport policy url budget state) (begun : budget ≠ 0)
    (hops : policy.maxRedirects ≠ 0) : run.requests.head? = some url := by
  obtain ⟨first, rest, attempts⟩ := List.exists_cons_of_ne_nil (shape.begun begun)
  obtain ⟨before, made⟩ := shape.attempted first (attempts ▸ List.mem_cons_self)
  have starts := (follow_follows transport policy.maxRedirects policy.maxRedirects policy.timeout
    url before).starts
  rw [← attempt, ← made, if_neg hops] at starts
  rw [Run.requests, attempts, List.flatMap_cons, List.head?_append, starts]
  rfl

theorem exists_of_mem_transcript {transport : Transport State} {state : State} {urls : List Url}
    {exchange : Exchange} (member : exchange ∈ transcript transport state urls) :
    ∃ before, exchange.reply = (transport before exchange.url).1 := by
  induction urls generalizing state with
  | nil => cases member
  | cons url urls hypothesis =>
      rw [transcript_cons] at member
      rcases List.mem_cons.1 member with rfl | later
      · exact ⟨state, rfl⟩
      · exact hypothesis later

/-- A page is brought by one of the attempts that may be made. -/
theorem run_fetched {transport : Transport State} {policy : Policy} {text : String} {state : State}
    {page : Page} (fetched : (run transport policy text state).outcome = .fetched page) :
    ∃ url, ∃ number < policy.attempts,
      Brings policy url (number + 1) (attemptLog transport policy url state number) page := by
  unfold run at fetched
  split at fetched
  · cases fetched
  · rename_i url parsed
    by_cases late : ∀ number < policy.attempts,
        (numbered transport policy url state number).ending = .timedOut
    · rw [retry_timedOut transport policy url policy.attempts 0 state late] at fetched
      cases fetched
    · obtain ⟨number, inBudget, before, inTime⟩ := exists_first late
      obtain ⟨decided, -⟩ :=
        retry_decided transport policy url policy.attempts 0 state inBudget before inTime
      rw [fetched, Nat.zero_add] at decided
      exact ⟨url, number, inBudget, ((numbered_outcome decided).1 page).1 rfl⟩

/-- What the settings make of a fetch over a transport. -/
structure Run.WithinSettings (transport : Transport State) (state : State) (run : Run State)
    (settings : Settings) (text : String) : Prop where
  begun : ∀ url, Url.parse text = .ok url → run.attempts ≠ [] ∧ run.requests.head? = some url
  requests : run.requests.length ≤ settings.maxRetries * settings.maxRedirects
  pauses : run.pauses.length ≤ settings.maxRetries - 1 ∧
    ∀ duration ∈ run.pauses, duration = settings.retryBackoff
  /-- The time of an attempt is the timeout of the settings. -/
  attempts : ∀ url, Url.parse text = .ok url →
    run.HasLimits transport settings.timeout settings.maxRetries state
  page : ∀ page, run.outcome = .fetched page →
    1 ≤ page.attempts ∧ page.attempts ≤ settings.maxRetries ∧
      page.redirects < settings.maxRedirects

/-- The settings that keep the rules for budgets bound every fetch. -/
theorem run_withinSettings (transport : Transport State) {settings : Settings} (text : String)
    (state : State) (retries : 1 ≤ settings.maxRetries) (redirects : 1 ≤ settings.maxRedirects) :
    (run transport (.ofSettings settings) text state).WithinSettings transport state settings
      text := by
  have budget : (Policy.ofSettings settings).attempts = settings.maxRetries := max_eq_right retries
  have page : ∀ page, (run transport (.ofSettings settings) text state).outcome = .fetched page →
      1 ≤ page.attempts ∧ page.attempts ≤ settings.maxRetries ∧
        page.redirects < settings.maxRedirects := by
    intro page fetched
    obtain ⟨url, number, inBudget, brings⟩ := run_fetched fetched
    rw [budget] at inBudget
    obtain ⟨count, last, response, -, followed, -, -, rfl⟩ := brings
    exact ⟨Nat.le_add_left 1 number, inBudget, followed⟩
  cases parsed : Url.parse text with
  | error rejection =>
      have nothing : (run transport (.ofSettings settings) text state).steps = [] := by
        simp only [run, parsed]
      refine ⟨fun url impossible => (by cases parsed.symm.trans impossible), ?_, ?_,
        fun url impossible => (by cases parsed.symm.trans impossible), page⟩ <;>
        simp [Run.requests, Run.pauses, Run.attempts, nothing]
  | ok url =>
      have shape : (run transport (.ofSettings settings) text state).Shape transport
          (.ofSettings settings) url settings.maxRetries state := by
        simp only [run, parsed, budget]
        exact retry_shape transport (.ofSettings settings) url settings.maxRetries 0 state
      have begun : settings.maxRetries ≠ 0 := Nat.ne_of_gt retries
      constructor
      case begun =>
        rintro other same
        cases parsed.symm.trans same
        exact ⟨shape.begun begun, shape.head?_requests begun (Nat.ne_of_gt redirects)⟩
      case requests => exact shape.requests_length
      case pauses =>
        rw [shape.pauses]
        refine ⟨?_, fun duration member => List.eq_of_mem_replicate member⟩
        rw [List.length_replicate]
        exact Nat.sub_le_sub_right shape.bounded 1
      case attempts =>
        intro _ _
        simp only [run, parsed, budget]
        exact retry_hasLimits transport (.ofSettings settings) url settings.maxRetries 0 state
      case page => exact page

/-- Over a wire no body is larger than the limit of the client. -/
theorem run_body_limit {client : Http.Client} {wire : Http.Wire State} {policy : Policy}
    {text : String} {state : State} {page : Page}
    (fetched : (run (client.transport wire) policy text state).outcome = .fetched page) :
    page.body.size ≤ client.limit := by
  obtain ⟨url, number, -, count, last, response, -, -, final, ⟨answered, -⟩, rfl⟩ :=
    run_fetched fetched
  obtain ⟨before, reply⟩ := exists_of_mem_transcript (List.mem_of_getLast? final)
  rw [reply] at answered
  exact Http.Client.transport_size answered

end FeedCache.Fetch

namespace FeedCache.Settings
open Fetch

/-- The settings bound every fetch, whatever the text, the transport and the wire. -/
structure BoundFetches (settings : Settings) : Prop where
  carried : Policy.ofSettings settings =
    { timeout := settings.timeout
      maxRetries := settings.maxRetries
      maxRedirects := settings.maxRedirects
      retryBackoff := settings.retryBackoff }
  requests : settings.maxRetries * settings.maxRedirects ≤ 400
  pauses : settings.maxRetries - 1 ≤ 19 ∧ settings.retryBackoff ≤ 60000
  attempts : 100 ≤ settings.timeout ∧ settings.timeout ≤ 300000
  bytes : settings.maxBytes ≤ 52428800
  within : ∀ {State : Type} (transport : Transport State) (text : String) (state : State),
    (run transport (.ofSettings settings) text state).WithinSettings transport state settings text
  size : ∀ {State : Type} (client : Http.Client) (wire : Http.Wire State) (text : String)
    (state : State) (page : Page), Http.Client.ofSettings settings = .ok client →
    (run (client.transport wire) (.ofSettings settings) text state).outcome = .fetched page →
      page.body.size ≤ settings.maxBytes

theorem boundFetches_of_keepsRule {settings : Settings} (kept : ∀ field, settings.KeepsRule field) :
    settings.BoundFetches where
  carried := rfl
  requests := Nat.mul_le_mul (kept .maxRetries).2 (kept .maxRedirects).2
  pauses := ⟨Nat.sub_le_sub_right (kept .maxRetries).2 1, kept .retryBackoff⟩
  attempts := kept .timeout
  bytes := (kept .maxBytes).2
  within transport text state :=
    run_withinSettings transport text state (kept .maxRetries).1 (kept .maxRedirects).1
  size _ _ _ _ _ built fetched := Http.Client.ofSettings_limit built ▸ run_body_limit fetched

/-- Settings that are loaded bound every fetch. Once they are extracted and proxies are filled in,
they are loaded if each field keeps its rule, and otherwise the first one that does not is named. -/
theorem load_boundFetches (environment : Environment) (disk : Disk) (start : Place) :
    (∀ settings, load environment disk start = .ok settings → settings.BoundFetches) ∧
    ∀ file extracted, settingsFile environment disk start = .ok file →
      extract (find? environment file) = .ok extracted →
      let filled := withCommonProxies environment extracted
      ((∀ field, filled.KeepsRule field) → load environment disk start = .ok filled) ∧
      ∀ field, ¬filled.KeepsRule field → ∃ violation,
        load environment disk start = .error (.invalid violation) ∧
          filled.BreaksFirst violation.field := by
  constructor
  · intro settings loaded
    cases read : settingsFile environment disk start with
    | error fault =>
        rw [load, read] at loaded
        cases loaded
    | ok file =>
        rw [load_eq_ofSources read] at loaded
        obtain ⟨extracted, -, -, valid⟩ := ofSources_eq_ok.1 loaded
        exact boundFetches_of_keepsRule (violation?_eq_none.1 valid)
  · intro file extracted read taken filled
    have loaded := ofSources_of_extracted taken
    rw [load_eq_ofSources read, loaded]
    constructor
    · intro kept
      rw [violation?_eq_none.2 kept]
    · intro field broken
      cases violated : filled.violation? with
      | none => exact absurd (violation?_eq_none.1 violated field) broken
      | some violation => exact ⟨violation, rfl, breaksFirst_of_violation? violated⟩

/-- Variables that set two budgets to their largest values. -/
def generousEnvironment : Environment :=
  [("FEEDGRAB_MAX_RETRIES", "20"), ("FEEDGRAB_MAX_REDIRECTS", "20"), ("http_proxy", "proxy:1")]

/-- Variables that break two rules, the one that is checked first in the second place. -/
def brokenEnvironment : Environment :=
  [("FEEDGRAB_MAX_REDIRECTS", "0"), ("FEEDGRAB_TIMEOUT_MS", "99")]

/-- The largest budgets are loaded and bound every fetch; of two broken rules the first is named. -/
theorem load_boundFetches_sample :
    (∃ settings, load generousEnvironment .empty [] = .ok settings ∧ settings.maxRetries = 20 ∧
      settings.BoundFetches) ∧
    ∃ violation, load brokenEnvironment .empty [] = .error (.invalid violation) ∧
      violation.field = .timeout ∧
      ({ timeout := 99, maxRedirects := 0 } : Settings).BreaksFirst violation.field := by
  constructor
  · have loaded : load generousEnvironment .empty [] = .ok
        { maxRetries := 20, maxRedirects := 20, httpProxy := some "http://proxy:1" } :=
      eq_ok_of_toOption (by decide +kernel)
    exact ⟨_, loaded, rfl, (load_boundFetches generousEnvironment .empty []).1 _ loaded⟩
  · have taken : extract (find? brokenEnvironment none) =
        .ok { timeout := 99, maxRedirects := 0 } := eq_ok_of_toOption (by decide +kernel)
    have filled : withCommonProxies brokenEnvironment { timeout := 99, maxRedirects := 0 } =
        { timeout := 99, maxRedirects := 0 } := by decide +kernel
    have reported := ((load_boundFetches brokenEnvironment .empty []).2 none _ rfl taken).2
    rw [filled] at reported
    obtain ⟨violation, failed, first⟩ := reported .timeout (by simp [KeepsRule])
    refine ⟨violation, failed, ?_, first⟩
    -- The timeout is checked before all other fields.
    by_contra later
    have kept := first.earlier .timeout (by simp [checkedFields, Ne.symm later])
    exact absurd kept.1 (by decide)

end FeedCache.Settings
