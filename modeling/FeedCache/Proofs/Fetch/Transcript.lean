/-
This file reads the requests of an attempt beside what the transport answered to them.

Main statements: the transcript of an attempt starts at the URL that was asked for and goes from
redirect to redirect, it has at most as many requests as there are hops, and it says whether the
attempt has timed out.
-/
import FeedCache.Fetch.Attempt
import Mathlib.Data.List.Chain

namespace FeedCache.Fetch

/-- A request with the reply to it. -/
structure Exchange where
  url : Url
  reply : Reply

/-- The reply sends the request on to another URL. -/
def Exchange.RedirectsTo (exchange : Exchange) (target : Url) : Prop :=
  ∃ response location, exchange.reply.result = .ok response ∧ response.isRedirect ∧
    response.location = some location ∧ exchange.url.resolve location = .ok target

variable {State : Type}

/-- What the transport answers if it is asked for the URLs in order. -/
def transcript (transport : Transport State) : State → List Url → List Exchange
  | _, [] => []
  | state, url :: urls =>
      ⟨url, (transport state url).1⟩ :: transcript transport (transport state url).2 urls

/-- The state of a transport that has been asked for the URLs in order. -/
def stateAfter (transport : Transport State) (state : State) (urls : List Url) : State :=
  urls.foldl (fun state url => (transport state url).2) state

/-- The time that all replies take, one after another. -/
def totalDelay (log : List Exchange) : Nat :=
  log.foldr (fun exchange total => exchange.reply.delay + total) 0

/-- The last request timed out, or all replies together took longer than the time there was. -/
def EndsInTimeout (time : Nat) (log : List Exchange) : Prop :=
  (∃ last ∈ log.getLast?, last.reply.result = .error .timeout) ∨ time < totalDelay log

@[simp] theorem totalDelay_nil : totalDelay [] = 0 := rfl

@[simp] theorem totalDelay_cons (exchange : Exchange) (log : List Exchange) :
    totalDelay (exchange :: log) = exchange.reply.delay + totalDelay log := rfl

@[simp] theorem transcript_nil (transport : Transport State) (state : State) :
    transcript transport state [] = [] := rfl

@[simp] theorem transcript_cons (transport : Transport State) (state : State) (url : Url)
    (urls : List Url) :
    transcript transport state (url :: urls) =
      ⟨url, (transport state url).1⟩ :: transcript transport (transport state url).2 urls := rfl

@[simp] theorem stateAfter_nil (transport : Transport State) (state : State) :
    stateAfter transport state [] = state := rfl

@[simp] theorem stateAfter_cons (transport : Transport State) (state : State) (url : Url)
    (urls : List Url) :
    stateAfter transport state (url :: urls) =
      stateAfter transport (transport state url).2 urls := rfl

theorem stateAfter_append (transport : Transport State) (state : State) (first second : List Url) :
    stateAfter transport state (first ++ second) =
      stateAfter transport (stateAfter transport state first) second :=
  List.foldl_append

/-- The transcript of two runs of requests is that of the first one and of the second one after
it. -/
theorem transcript_append (transport : Transport State) (state : State) (first second : List Url) :
    transcript transport state (first ++ second) =
      transcript transport state first ++
        transcript transport (stateAfter transport state first) second := by
  induction first generalizing state with
  | nil => rfl
  | cons url first hypothesis =>
      rw [List.cons_append, transcript_cons, hypothesis, transcript_cons, stateAfter_cons]
      rfl

/-- A transcript has the URLs that were asked for. -/
@[simp] theorem transcript_urls (transport : Transport State) (state : State) (urls : List Url) :
    (transcript transport state urls).map Exchange.url = urls := by
  induction urls generalizing state with
  | nil => rfl
  | cons url urls hypothesis => rw [transcript_cons, List.map_cons, hypothesis]

/-- A reply sends a request on exactly if it is a redirect with a usable location. -/
theorem judge_eq_ok {url target : Url} {reply : Reply} :
    judge url reply.result = .ok target ↔ Exchange.RedirectsTo ⟨url, reply⟩ target := by
  unfold Exchange.RedirectsTo
  dsimp only
  cases result : reply.result with
  | error fault => cases fault <;> simp [judge]
  | ok response =>
      by_cases success : response.isSuccess
      · have other : response.isRedirect = false := by
          simp [Response.isSuccess, Response.isRedirect] at success ⊢
          omega
        simp [judge, success, other]
      · by_cases redirect : response.isRedirect
        · cases place : response.location with
          | none => simp [judge, success, redirect, place]
          | some location =>
              cases resolved : url.resolve location <;>
                simp [judge, success, redirect, place, resolved, Except.toOption]
        · simp [judge, success, redirect]

/-- A reply ends an attempt as timed out exactly if the request did so. -/
theorem judge_eq_timedOut {url : Url} {result : Except TransportFault Response} :
    judge url result = .error .timedOut ↔ result = .error .timeout := by
  cases result with
  | error fault => cases fault <;> simp [judge]
  | ok response =>
      simp only [judge, reduceCtorEq, iff_false]
      split
      · simp
      · split
        · split <;> simp
        · simp

/-- How an attempt goes from a URL: its requests are at most as many as there are hops, the first
of them is the URL, each other one is where the one before was sent on to, and the attempt is timed
out exactly if its transcript ends so. -/
structure Attempt.Follows (transport : Transport State) (hops time : Nat) (url : Url)
    (state : State) (done : Attempt State) : Prop where
  moved : done.state = stateAfter transport state done.requests
  bounded : done.requests.length ≤ hops
  starts : done.requests.head? = if hops = 0 then none else some url
  chained : (transcript transport state done.requests).IsChain
    fun first second => first.RedirectsTo second.url
  timedOut : done.ending = .timedOut ↔
    EndsInTimeout time (transcript transport state done.requests)

/-- An attempt that ends with the reply to its first request. -/
theorem Attempt.Follows.last {transport : Transport State} {hops time : Nat} {url : Url}
    {state : State} (ending : Ending) (taken : Nat)
    (timedOut : ending = .timedOut ↔ (transport state url).1.result = .error .timeout ∨
      time < (transport state url).1.delay) :
    (Attempt.afterRequest url taken (.ended ending (transport state url).2)).Follows transport
      (hops + 1) time url state where
  moved := rfl
  bounded := Nat.le_add_left 1 hops
  starts := rfl
  chained := .singleton _
  timedOut := by
    refine timedOut.trans ?_
    simp [EndsInTimeout, afterRequest, ended]

/-- An attempt that goes on after a redirect. -/
theorem Attempt.Follows.next {transport : Transport State} {hops time : Nat} {url target : Url}
    {state : State} {rest : Attempt State} (inTime : ¬time < (transport state url).1.delay)
    (redirected : Exchange.RedirectsTo ⟨url, (transport state url).1⟩ target)
    (follows : rest.Follows transport hops (time - (transport state url).1.delay) target
      (transport state url).2) :
    (Attempt.afterRequest url (transport state url).1.delay rest).Follows transport (hops + 1) time
      url state where
  moved := follows.moved
  bounded := Nat.succ_le_succ follows.bounded
  starts := rfl
  chained := by
    refine List.isChain_cons.2 ⟨fun second first => ?_, follows.chained⟩
    have heads := congrArg List.head?
      (transcript_urls transport (transport state url).2 rest.requests)
    rw [List.head?_map, Option.mem_def.1 first, follows.starts] at heads
    split at heads
    · cases heads
    · cases heads
      exact redirected
  timedOut := by
    refine follows.timedOut.trans ?_
    simp only [EndsInTimeout, afterRequest, transcript_cons, totalDelay_cons]
    refine or_congr ?_ (by omega)
    obtain ⟨response, _, answered, _⟩ := redirected
    dsimp only at answered
    cases log : transcript transport (transport state url).2 rest.requests with
    | nil => simp [answered]
    | cons first others => rw [List.getLast?_cons_cons]

/-- Redirects are followed from the URL, and no further than the hops and the time allow. -/
theorem follow_follows (transport : Transport State) (limit hops time : Nat) (url : Url)
    (state : State) :
    (follow transport limit hops time url state).Follows transport hops time url state := by
  induction hops generalizing time url state with
  | zero =>
      refine ⟨rfl, Nat.le_refl 0, rfl, .nil, ?_⟩
      simp [follow, Attempt.ended, EndsInTimeout]
  | succ hops hypothesis =>
      rw [follow]
      dsimp only
      by_cases late : time < (transport state url).1.delay
      · rw [if_pos late]
        exact .last .timedOut time (by simp [late])
      · rw [if_neg late]
        cases judged : judge url (transport state url).1.result with
        | error ending =>
            refine .last ending _ ?_
            rw [← @judge_eq_timedOut url, judged]
            simp [late]
        | ok target => exact .next late (judge_eq_ok.1 judged) (hypothesis _ target _)

end FeedCache.Fetch
