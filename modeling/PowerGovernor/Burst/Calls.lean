import PowerGovernor.Burst

/-!
Calls of a burst budget.

Owns the calls, what the refill before each of them can do, and what each call leaves of
the budget: a query what the refill leaves, and `consume` that with what it accepted.
-/

set_option autoImplicit false

namespace PowerGovernor

theorem fifty_admitted : UnitTag.joules.dim.Admits 50 := by decide +kernel

/-- 50 W above the target for a second. -/
def BurstLimits.standard : BurstLimits :=
  ⟨⟨50, by decide +kernel⟩, Duration.oneSecond, Duration.oneSecond, true⟩

/-- A call with the time it is given. -/
inductive BurstCall where
  | available (now : Timestamp)
  | canBurst (j : Joules) (now : Timestamp)
  | consume (j : Joules) (now : Timestamp)
  | consumed (now : Timestamp)
  | exhausted (now : Timestamp)
  | utilization (now : Timestamp)
deriving DecidableEq

namespace BurstCall

def now : BurstCall → Timestamp
  | .available now | .canBurst _ now | .consume _ now | .consumed now | .exhausted now
  | .utilization now => now

/-- The only call that is not `const`. -/
def isConsume : BurstCall → Bool
  | .consume _ _ => true
  | _ => false

/-- What is asked for. -/
def amount : BurstCall → Joules
  | .consume j _ => j
  | _ => Joules.zero

/-- Performs a call. Of the answers, only that of `consume` is kept. -/
def perform : BurstCall → Stateful Fault BurstBudget (Option Bool)
  | .available now => do
    let _ ← BurstBudget.available now
    return none
  | .canBurst j now => do
    let _ ← BurstBudget.canBurst j now
    return none
  | .consume j now => do
    let accepted ← BurstBudget.consume j now
    return some accepted
  | .consumed now => do
    let _ ← BurstBudget.consumedAt now
    return none
  | .exhausted now => do
    let _ ← BurstBudget.exhausted now
    return none
  | .utilization now => do
    let _ ← BurstBudget.utilization now
    return none

end BurstCall

namespace BurstBudget

variable {b b' : BurstBudget} {now : Timestamp}

/-! ## The refill -/

/-- What `refill_if_needed` can do. -/
inductive Refills (b : BurstBudget) (now : Timestamp) : Except Fault Unit × BurstBudget → Prop where
  | started (fresh : b.started = false) :
      Refills b now (.ok (), { b with windowStart := now, started := true })
  | failed {fault : Fault} (running : b.started = true)
      (overflows : now.elapsedSince b.windowStart = .error fault) :
      Refills b now (.error fault, b)
  | refilled {elapsed : Duration} (running : b.started = true)
      (returned : now.elapsedSince b.windowStart = .ok elapsed)
      (ended : b.limits.window.ns ≤ elapsed.ns) :
      Refills b now (.ok (), { b with windowStart := now, consumed := Joules.zero })
  | settled {elapsed : Duration} (running : b.started = true)
      (returned : now.elapsedSince b.windowStart = .ok elapsed)
      (within : elapsed.ns < b.limits.window.ns) : Refills b now (.ok (), b)

theorem refillIfNeeded_refills (b : BurstBudget) (now : Timestamp) :
    Refills b now ((refillIfNeeded now).exec b) := by
  unfold refillIfNeeded
  rw [Stateful.exec_bind_of_ok (Stateful.exec_get b)]
  rcases Bool.eq_false_or_eq_true b.started with running | fresh
  · rw [if_neg (by rw [running]; decide), Stateful.exec_bind, Stateful.exec_ofExcept]
    cases returned : now.elapsedSince b.windowStart with
    | error fault => exact .failed running returned
    | ok elapsed =>
        dsimp only
        split
        case isTrue ended => exact .refilled running returned ended
        case isFalse within => exact .settled running returned (not_le.mp within)
  · rw [if_pos (by rw [fresh]; decide)]
    exact .started fresh

theorem refillIfNeeded_of_fresh (fresh : b.started = false) : (refillIfNeeded now).exec b =
    (.ok (), { b with windowStart := now, started := true }) := by
  have refills := refillIfNeeded_refills b now
  generalize (refillIfNeeded now).exec b = ended at refills ⊢
  cases refills with
  | started _ => rfl
  | failed running _ | refilled running _ _ | settled running _ _ =>
      cases running.symm.trans fresh

theorem refillIfNeeded_of_overflow {fault : Fault} (running : b.started = true)
    (overflows : now.elapsedSince b.windowStart = .error fault) :
    (refillIfNeeded now).exec b = (.error fault, b) := by
  have refills := refillIfNeeded_refills b now
  generalize (refillIfNeeded now).exec b = ended at refills ⊢
  cases refills with
  | started fresh => cases running.symm.trans fresh
  | failed _ other =>
      obtain rfl := Except.error.inj (overflows.symm.trans other)
      rfl
  | refilled _ returned _ | settled _ returned _ => cases overflows.symm.trans returned

/-- A started window that has not elapsed, or whose age fits in no `Duration`: the refill
leaves the budget as it is. -/
def Settled (b : BurstBudget) (now : Timestamp) : Prop :=
  b.started = true ∧ ∀ elapsed, now.elapsedSince b.windowStart = .ok elapsed →
    elapsed.ns < b.limits.window.ns

theorem refillIfNeeded_of_settled (settled : b.Settled now) :
    ((refillIfNeeded now).exec b).2 = b := by
  obtain ⟨running, within⟩ := settled
  have refills := refillIfNeeded_refills b now
  generalize (refillIfNeeded now).exec b = ended at refills ⊢
  cases refills with
  | started fresh => cases running.symm.trans fresh
  | failed _ _ => rfl
  | refilled _ returned ended => exact absurd (within _ returned) (not_lt.mpr ended)
  | settled _ _ _ => rfl

/-- In a positive window a second refill at the same time does nothing. -/
theorem refillIfNeeded_again (positive : 0 < b.limits.window.ns)
    (first : (refillIfNeeded now).exec b = (.ok (), b')) :
    (refillIfNeeded now).exec b' = (.ok (), b') := by
  have self := now.elapsedSince_self
  have running : b'.started = true ∧ ∃ elapsed,
      now.elapsedSince b'.windowStart = .ok elapsed ∧ elapsed.ns < b'.limits.window.ns := by
    have refills := refillIfNeeded_refills b now
    rw [first] at refills
    cases refills with
    | started _ => exact ⟨rfl, Duration.zero, self, positive⟩
    | refilled running _ _ => exact ⟨running, Duration.zero, self, positive⟩
    | settled running returned within => exact ⟨running, _, returned, within⟩
  obtain ⟨running, elapsed, returned, within⟩ := running
  have refills := refillIfNeeded_refills b' now
  generalize (refillIfNeeded now).exec b' = ended at refills ⊢
  cases refills with
  | started fresh => cases running.symm.trans fresh
  | failed _ overflows => cases returned.symm.trans overflows
  | refilled _ other ended =>
      obtain rfl := Except.ok.inj (returned.symm.trans other)
      exact absurd within (not_lt.mpr ended)
  | settled _ _ _ => rfl

/-- The limits stay, and so does the budget when the refill fails. -/
theorem refillIfNeeded_cases (b : BurstBudget) (now : Timestamp) :
    (∃ fault, (refillIfNeeded now).exec b = (.error fault, b)) ∨
      ∃ b', (refillIfNeeded now).exec b = (.ok (), b') ∧ b'.limits = b.limits ∧
        b'.started = true := by
  have refills := refillIfNeeded_refills b now
  generalize (refillIfNeeded now).exec b = ended at refills ⊢
  cases refills with
  | started _ => exact .inr ⟨_, rfl, rfl, rfl⟩
  | failed _ _ => exact .inl ⟨_, rfl⟩
  | refilled running _ _ => exact .inr ⟨_, rfl, rfl, running⟩
  | settled running _ _ => exact .inr ⟨_, rfl, rfl, running⟩

/-- A window that starts at the time of the refill does not fail it. -/
theorem refillIfNeeded_of_start (start : b.windowStart = now) :
    ∃ b', (refillIfNeeded now).exec b = (.ok (), b') := by
  have refills := refillIfNeeded_refills b now
  rcases refillIfNeeded_cases b now with ⟨fault, thrown⟩ | ⟨b', returned, _⟩
  · rw [thrown] at refills
    cases refills with
    | failed _ overflows =>
        rw [start] at overflows
        cases now.elapsedSince_self.symm.trans overflows
  · exact ⟨b', returned⟩

/-! ## The calls -/

/-- What is left in the open window. -/
def room (b : BurstBudget) : Joules := Joules.clamped (b.capacity.value - b.consumed.value)

theorem perform_consume (b : BurstBudget) (j : Joules) (now : Timestamp) :
    (BurstCall.consume j now).perform.exec b =
      (((consume j now).exec b).1.map some, ((consume j now).exec b).2) := by
  show (consume j now >>= _).exec b = _
  rw [Stateful.exec_bind]
  rcases (consume j now).exec b with ⟨_ | _, b'⟩ <;> rfl

/-- A disabled budget answers without looking at its window. -/
theorem perform_of_disabled (disabled : b.limits.enabled = false) (call : BurstCall) :
    call.perform.exec b = (.ok (if call.isConsume then some false else none), b) := by
  cases call <;>
    simp only [BurstCall.perform, available, canBurst, consume, consumedAt, exhausted, utilization,
      Stateful.exec_bind, Stateful.exec_get, disabled, BurstCall.isConsume] <;> rfl

section Enabled

variable (enabled : b.limits.enabled = true)
include enabled

theorem exec_available : (available now).exec b =
    (((refillIfNeeded now).exec b).1.map fun _ => room ((refillIfNeeded now).exec b).2,
      ((refillIfNeeded now).exec b).2) := by
  unfold available
  rw [Stateful.exec_bind_of_ok (Stateful.exec_get b), enabled]
  show (refillIfNeeded now >>= _).exec b = _
  rw [Stateful.exec_bind]
  rcases (refillIfNeeded now).exec b with ⟨_ | _, b'⟩ <;> rfl

theorem exec_consumedAt : (consumedAt now).exec b =
    (((refillIfNeeded now).exec b).1.map fun _ => ((refillIfNeeded now).exec b).2.consumed,
      ((refillIfNeeded now).exec b).2) := by
  unfold consumedAt
  rw [Stateful.exec_bind_of_ok (Stateful.exec_get b), enabled]
  show (refillIfNeeded now >>= _).exec b = _
  rw [Stateful.exec_bind]
  rcases (refillIfNeeded now).exec b with ⟨_ | _, b'⟩ <;> rfl

theorem exec_canBurst (j : Joules) : (canBurst j now).exec b =
    (((refillIfNeeded now).exec b).1.map fun _ =>
        decide (j.value ≤ (room ((refillIfNeeded now).exec b).2).value + 1 / 1000000000),
      ((refillIfNeeded now).exec b).2) := by
  unfold canBurst
  rw [Stateful.exec_bind_of_ok (Stateful.exec_get b), enabled]
  show (available now >>= _).exec b = _
  rw [Stateful.exec_bind, exec_available enabled]
  rcases (refillIfNeeded now).exec b with ⟨_ | _, b'⟩
  · rfl
  · simp [Except.map, j.nonneg]

theorem exec_consume_of_failed {fault : Fault} {j : Joules}
    (failed : (refillIfNeeded now).exec b = (.error fault, b')) :
    (consume j now).exec b = (.error fault, b') := by
  unfold consume
  rw [Stateful.exec_bind_of_ok (Stateful.exec_get b), enabled]
  exact Stateful.exec_bind_of_error failed _

/-- `consume` refills, and refills again to see what fits. -/
theorem exec_consume_of_refilled {b'' : BurstBudget} (j : Joules)
    (first : (refillIfNeeded now).exec b = (.ok (), b'))
    (again : (refillIfNeeded now).exec b' = (.ok (), b'')) :
    (consume j now).exec b =
      if j.value ≤ b''.room.value + 1 / 1000000000 then
        (.ok true, { b'' with consumed := Joules.clamped (b''.consumed.value + j.value) })
      else (.ok false, b'') := by
  have same : b'.limits = b.limits := by
    rcases refillIfNeeded_cases b now with ⟨fault, thrown⟩ | ⟨other, returned, same, _⟩
    · cases first.symm.trans thrown
    · obtain rfl := congrArg Prod.snd (first.symm.trans returned)
      exact same
  unfold consume
  rw [Stateful.exec_bind_of_ok (Stateful.exec_get b), enabled]
  show (refillIfNeeded now >>= _).exec b = _
  rw [Stateful.exec_bind_of_ok first, Stateful.exec_bind, exec_canBurst (same ▸ enabled), again]
  dsimp only [Except.map]
  by_cases fits : j.value ≤ b''.room.value + 1 / 1000000000
  · rw [decide_eq_true fits, if_pos fits]
    rfl
  · rw [decide_eq_false fits, if_neg fits]
    rfl

end Enabled

/-! ## What a query leaves -/

/-- Whether the call gets as far as the refill. -/
def Looks (b : BurstBudget) : BurstCall → Prop
  | .utilization _ => b.limits.enabled = true ∧ 0 < b.capacity.value
  | _ => b.limits.enabled = true

/-- A query that looks at the window leaves what the refill leaves. -/
theorem query_of_looks {call : BurstCall} (query : call.isConsume = false) (looks : b.Looks call) :
    (call.perform.exec b).2 = ((refillIfNeeded call.now).exec b).2 := by
  cases call with
  | consume j now => cases query
  | available now =>
      show ((available now >>= _).exec b).2 = _
      rw [Stateful.state_bind (fun _ _ => rfl), exec_available looks]
      rfl
  | canBurst j now =>
      show ((canBurst j now >>= _).exec b).2 = _
      rw [Stateful.state_bind (fun _ _ => rfl), exec_canBurst looks]
      rfl
  | consumed now =>
      show ((consumedAt now >>= _).exec b).2 = _
      rw [Stateful.state_bind (fun _ _ => rfl), exec_consumedAt looks]
      rfl
  | exhausted now =>
      show ((exhausted now >>= _).exec b).2 = _
      rw [Stateful.state_bind (fun _ _ => rfl), exhausted,
        Stateful.exec_bind_of_ok (Stateful.exec_get b), looks]
      show ((available now >>= _).exec b).2 = _
      rw [Stateful.state_bind (fun _ _ => rfl), exec_available looks]
      rfl
  | utilization now =>
      obtain ⟨enabled, positive⟩ := looks
      show ((utilization now >>= _).exec b).2 = _
      rw [Stateful.state_bind (fun _ _ => rfl), utilization,
        Stateful.exec_bind_of_ok (Stateful.exec_get b), enabled]
      show ((if b.capacity.value ≤ 0 then _ else _ : Stateful Fault BurstBudget ℚ).exec b).2 = _
      rw [if_neg (not_le.mpr positive)]
      show ((consumedAt now >>= _).exec b).2 = _
      rw [Stateful.state_bind (fun _ _ => rfl), exec_consumedAt enabled]
      rfl

/-- A query that does not look at the window leaves the budget as it is. -/
theorem query_of_not_looks {call : BurstCall} (notLooks : ¬ b.Looks call)
    (query : call.isConsume = false) : (call.perform.exec b).2 = b := by
  by_cases enabled : b.limits.enabled = true
  · cases call with
    | consume j now => cases query
    | utilization now =>
        have empty : b.capacity.value ≤ 0 := not_lt.mp fun positive => notLooks ⟨enabled, positive⟩
        show ((utilization now >>= _).exec b).2 = _
        rw [Stateful.state_bind (fun _ _ => rfl), utilization,
          Stateful.exec_bind_of_ok (Stateful.exec_get b), enabled]
        show ((if b.capacity.value ≤ 0 then _ else _ : Stateful Fault BurstBudget ℚ).exec b).2 = _
        rw [if_pos empty]
        rfl
    | available _ | canBurst _ _ | consumed _ | exhausted _ => exact absurd enabled notLooks
  · rw [perform_of_disabled (Bool.eq_false_of_not_eq_true enabled)]

/-- A query has no answer that is kept. -/
theorem answer_of_query {call : BurstCall} (query : call.isConsume = false) (accepted : Bool) :
    (call.perform.exec b).1 ≠ .ok (some accepted) := by
  cases call with
  | consume j now => cases query
  | available now | canBurst j now | consumed now | exhausted now | utilization now =>
      intro answered
      obtain ⟨_, _, _, ended⟩ := Stateful.bind_eq_ok.mp (Prod.ext answered rfl)
      cases congrArg Prod.fst ended

end BurstBudget

end PowerGovernor
