/-
This file follows redirects with counters of 32 bits, and sees that they never leave their range.

Main statement: for every budget the counted loop ends as the uncounted one does, and the counter of
redirects is never above the budget.
-/
import FeedCache.Fetch.Attempt

namespace FeedCache.Fetch

/-- How many requests may still be made, and how many redirects were followed. -/
structure Counters where
  hopsLeft : UInt32
  redirects : UInt32
  deriving DecidableEq

/-- A redirect moves both counters by one. There is no result where one of them would leave its
range. -/
def Counters.advance? (counters : Counters) : Option Counters :=
  if counters.hopsLeft = 0 ∨ counters.redirects.toNat + 1 = UInt32.size then none
  else some ⟨counters.hopsLeft - 1, counters.redirects + 1⟩

theorem Counters.toNat_advance {counters next : Counters} (moved : counters.advance? = some next) :
    next.hopsLeft.toNat + 1 = counters.hopsLeft.toNat ∧
      next.redirects.toNat = counters.redirects.toNat + 1 := by
  unfold advance? at moved
  split at moved
  · cases moved
  · rename_i inRange
    cases moved
    obtain ⟨remaining, room⟩ := not_or.1 inRange
    have positive : 1 ≤ counters.hopsLeft.toNat :=
      Nat.one_le_iff_ne_zero.2 fun zero => remaining (UInt32.toNat_inj.1 zero)
    have below : counters.redirects.toNat < UInt32.size := counters.redirects.toNat_lt
    constructor
    · have fewer : (counters.hopsLeft - 1).toNat = counters.hopsLeft.toNat - 1 :=
        UInt32.toNat_sub_of_le _ _ (UInt32.le_iff_toNat_le.2 positive)
      rw [fewer, Nat.sub_add_cancel positive]
    · rw [UInt32.toNat_add]
      refine Nat.mod_eq_of_lt ?_
      change counters.redirects.toNat + 1 < UInt32.size
      omega

/-- The counters can move as long as there are hops, and all hops with all redirects are in
range. -/
theorem Counters.advance?_isSome {counters : Counters} (remaining : counters.hopsLeft ≠ 0)
    (inRange : counters.hopsLeft.toNat + counters.redirects.toNat < UInt32.size) :
    ∃ next, counters.advance? = some next := by
  have positive : counters.hopsLeft.toNat ≠ 0 := fun zero => remaining (UInt32.toNat_inj.1 zero)
  refine ⟨_, if_neg (not_or.2 ⟨remaining, ?_⟩)⟩
  omega

variable {State : Type}

/-- Redirects are followed as long as a counter says that there are hops. There is no result if a
counter leaves its range. -/
def followCounted (transport : Transport State) (limit : UInt32) (counters : Counters) (left : Nat)
    (url : Url) (state : State) : Option (Attempt State × Counters) :=
  if counters.hopsLeft = 0 then some (.ended (.failed (.redirectLoop limit.toNat)) state, counters)
  else
    let (reply, next) := transport state url
    if left < reply.delay then some (.afterRequest url left (.ended .timedOut next), counters)
    else
      match judge url reply.result with
      | .error ending => some (.afterRequest url reply.delay (.ended ending next), counters)
      | .ok target =>
          match _ : counters.advance? with
          | none => none
          | some counters =>
              (followCounted transport limit counters (left - reply.delay) target next).map
                fun (rest, last) => (.afterRequest url reply.delay rest, last)
termination_by counters.hopsLeft.toNat
decreasing_by
  rename_i moved
  have stepped := (Counters.toNat_advance moved).1
  omega

/-- The counted loop ends as the uncounted one, with a redirect for each request but the one that
was answered. -/
theorem followCounted_eq (transport : Transport State) (limit : UInt32) {hops : Nat} {time : Nat}
    {url : Url} {state : State} {counters : Counters} (left : counters.hopsLeft.toNat = hops)
    (inRange : hops + counters.redirects.toNat < UInt32.size) :
    ∃ last, followCounted transport limit counters time url state =
        some (follow transport limit.toNat hops time url state, last) ∧
      last.redirects.toNat ≤ hops + counters.redirects.toNat ∧
      ∀ finalUrl response,
        (follow transport limit.toNat hops time url state).ending = .landed finalUrl response →
        last.redirects.toNat + 1 = counters.redirects.toNat +
          (follow transport limit.toNat hops time url state).requests.length := by
  induction hops generalizing time url state counters with
  | zero =>
      have spent : counters.hopsLeft = 0 := UInt32.toNat_inj.1 left
      refine ⟨counters, by rw [followCounted, if_pos spent, follow], Nat.le_add_left _ _, ?_⟩
      intro finalUrl response impossible
      simp [follow, Attempt.ended] at impossible
  | succ hops hypothesis =>
      have remaining : counters.hopsLeft ≠ 0 := by
        intro zero
        rw [zero] at left
        cases left
      rw [followCounted, if_neg remaining, follow]
      dsimp only
      by_cases late : time < (transport state url).1.delay
      · simp only [if_pos late]
        refine ⟨counters, rfl, Nat.le_add_left _ _, ?_⟩
        intro finalUrl response impossible
        cases impossible
      · simp only [if_neg late]
        cases judged : judge url (transport state url).1.result with
        | error ending => exact ⟨counters, rfl, Nat.le_add_left _ _, fun _ _ _ => rfl⟩
        | ok target =>
            obtain ⟨next, moved⟩ := Counters.advance?_isSome remaining (left.symm ▸ inRange)
            obtain ⟨fewer, more⟩ := Counters.toNat_advance moved
            obtain ⟨last, same, bounded, counted⟩ := @hypothesis
              (time - (transport state url).1.delay) target (transport state url).2 next
              (by omega) (by omega)
            refine ⟨last, ?_, by omega, ?_⟩
            · dsimp only
              split
              · rename_i stuck
                rw [moved] at stuck
                cases stuck
              · rename_i other advanced
                rw [moved] at advanced
                cases advanced
                rw [same]
                rfl
            · intro finalUrl response landed
              have answered := counted finalUrl response landed
              simp only [Attempt.afterRequest, List.length_cons]
              omega

/-- An attempt can be made with counters of 32 bits for every budget of 32 bits. -/
theorem attempt_counted (transport : Transport State) (policy : Policy) (url : Url) (state : State)
    {limit : UInt32} (budget : policy.maxRedirects = limit.toNat) :
    ∃ last, followCounted transport limit ⟨limit, 0⟩ policy.timeout url state =
        some (attempt transport policy url state, last) ∧
      last.redirects ≤ limit ∧
      ∀ finalUrl response, (attempt transport policy url state).ending = .landed finalUrl response →
        last.redirects.toNat + 1 = (attempt transport policy url state).requests.length := by
  have inRange : policy.maxRedirects + (Counters.mk limit 0).redirects.toNat < UInt32.size := by
    rw [budget]
    exact limit.toNat_lt
  obtain ⟨last, same, bounded, counted⟩ := @followCounted_eq State transport limit
    policy.maxRedirects policy.timeout url state ⟨limit, 0⟩ budget.symm inRange
  rw [← budget, ← attempt] at same counted
  refine ⟨last, same, ?_, ?_⟩
  · rw [UInt32.le_iff_toNat_le, ← budget]
    exact bounded
  · intro finalUrl response landed
    exact (counted finalUrl response landed).trans (Nat.zero_add _)

end FeedCache.Fetch
