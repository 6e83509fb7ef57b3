import PowerGovernor.Decision.Limits

/-!
The hysteresis over runs of evaluations.

Owns the time-ordered runs of one engine under one policy, what one evaluation
does to the recorded verdict, and the two temporal claims: when a hold ends and
when an ALLOW can appear inside one. A held verdict is recorded with the time of
the evaluation that held it, so a hold ends only after a gap between two
consecutive evaluations. The burst stage returns before the hysteresis, so it
answers ALLOW inside a hold.
-/

set_option autoImplicit false

namespace PowerGovernor

/-! ## Runs -/

/-- The arguments of one `evaluate` call. -/
structure Evaluation where
  input : DecisionInput
  now : Timestamp

/-- An engine next to the identifier allocators it draws from. -/
abbrev EngineState := DecisionEngine × Allocators

/-- One `evaluate` call; a call that throws changes nothing. -/
def EngineState.perform (s : EngineState) (call : Evaluation) :
    Except Fault Decision × EngineState :=
  match s.1.evaluate s.2 call.input call.now with
  | .ok (d, engine, ids) => (.ok d, engine, ids)
  | .error fault => (.error fault, s)

namespace EngineState

variable {s : EngineState} {call : Evaluation}

/-- A resolved evaluation returns its verdict and records it with its own time. -/
theorem perform_of_resolved {outcome : Outcome}
    (resolved : s.1.resolve call.input call.now = .ok outcome) :
    (∃ d, (s.perform call).1 = .ok d ∧ d.verdict = outcome.verdict) ∧
      (s.perform call).2.1.last = some ⟨outcome.verdict, call.now⟩ := by
  unfold perform
  rw [DecisionEngine.evaluate_of_resolved resolved]
  exact ⟨⟨_, rfl, rfl⟩, rfl⟩

/-- An evaluation that throws returns no verdict and records nothing. -/
theorem perform_of_fault {fault : Fault}
    (resolved : s.1.resolve call.input call.now = .error fault) :
    s.perform call = (.error fault, s) := by
  unfold perform
  rw [DecisionEngine.evaluate_of_fault resolved]

end EngineState

/-- A time-ordered run of evaluations under one policy. A finite run is one that
repeats its last call. -/
structure EngineRun where
  start : EngineState
  calls : Nat → Evaluation
  policy : PowerPolicy
  onePolicy : ∀ n, (calls n).input.policy = policy
  ordered : ∀ n, (calls n).now.ns ≤ (calls (n + 1)).now.ns

namespace EngineRun

/-- The engine before evaluation `n`. -/
def state (run : EngineRun) : Nat → EngineState
  | 0 => run.start
  | n + 1 => ((run.state n).perform (run.calls n)).2

/-- What evaluation `n` returns. -/
def decision (run : EngineRun) (n : Nat) : Except Fault Decision :=
  ((run.state n).perform (run.calls n)).1

def time (run : EngineRun) (n : Nat) : Int := (run.calls n).now.ns

/-- Evaluation `n` returns ALLOW. -/
def Allows (run : EngineRun) (n : Nat) : Prop :=
  ∃ d, run.decision n = .ok d ∧ d.verdict = .allow

/-- Evaluation `n` returns a verdict other than ALLOW. -/
def Restricts (run : EngineRun) (n : Nat) : Prop :=
  ∃ d, run.decision n = .ok d ∧ d.verdict ≠ .allow

instance decidableAllows (run : EngineRun) (n : Nat) : Decidable (run.Allows n) :=
  match returned : run.decision n with
  | .ok d => decidable_of_iff (d.verdict = .allow) (by simp [Allows, returned])
  | .error _ => .isFalse (by simp [Allows, returned])

instance decidableRestricts (run : EngineRun) (n : Nat) : Decidable (run.Restricts n) :=
  match returned : run.decision n with
  | .ok d => decidable_of_iff (d.verdict ≠ .allow) (by simp [Restricts, returned])
  | .error _ => .isFalse (by simp [Restricts, returned])

/-- The policy's `min_stable_duration`. -/
def minStable (run : EngineRun) : Int := run.policy.minStableDuration.ns

theorem time_mono (run : EngineRun) {i k : Nat} (before : i ≤ k) : run.time i ≤ run.time k := by
  induction before with
  | refl => exact Int.le_refl _
  | step _ inductionHypothesis => exact Int.le_trans inductionHypothesis (run.ordered _)

end EngineRun

/-! ## The burst stage -/

/-- Stage 6 grants the request: evidence is current, the device is neither
constrained nor recovering, and a burst covers a request over the soft target
and within the ceiling. -/
structure DecisionInput.BurstGrants (input : DecisionInput) : Prop where
  policyCurrent : input.policyCurrent = true
  notStale : input.stale = false
  withinCeiling : input.hardCeiling.under input.requestedPower.value = false
  notConstrained : input.constrained = false
  notRecovering : input.recovering = false
  exceeds : input.exceedsSoftTarget = true
  burst : input.burstAvailable = true

namespace DecisionInput

variable {input : DecisionInput}

/-- A lower amount lies under the ceiling less often. -/
theorem not_under_of_le {best : HardCeiling} {low high : ℚ} (below : low ≤ high)
    (within : best.under high = false) : best.under low = false := by
  unfold HardCeiling.under at within ⊢
  cases found : best.limit with
  | none => rfl
  | some limit =>
      rw [found, Option.any_some] at within
      rw [Option.any_some]
      have reached : high ≤ limit.value := not_lt.mp (of_decide_eq_false within)
      exact decide_eq_false (not_lt.mpr (below.trans reached))

/-- The only early return with ALLOW is the burst stage's. -/
theorem burstGrants_iff :
    input.BurstGrants ↔ ∃ outcome, input.stages = .returned outcome ∧ outcome.verdict = .allow := by
  constructor
  · rintro ⟨policyCurrent, notStale, withinCeiling, notConstrained, notRecovering, exceeds, burst⟩
    have passed : input.hardCeiling.under (input.requestedPower.value - slack) = false :=
      not_under_of_le (sub_le_self _ slack_nonneg) withinCeiling
    refine ⟨input.overSoftTarget input.hardCeiling, ?_, ?_⟩
    · simp [stages, policyCurrent, notStale, withinCeiling, notConstrained, notRecovering, exceeds,
        passed]
    · simp [overSoftTarget, burst, withinCeiling]
  · rintro ⟨outcome, staged, allow⟩
    have decided := staged ▸ input.decidedBy
    cases decided with
    | revalidation _ => cases allow
    | noCapacity _ _ =>
        simp only [noCapacity] at allow
        split at allow <;> cases allow
    | overCeiling _ =>
        simp only [overCeiling] at allow
        cases constrained : input.constrained <;> cases recovering : input.recovering <;>
          simp [constrained, recovering] at allow
        · split at allow <;> cases allow
        · split at allow <;> cases allow
    | constrained _ _ => cases allow
    | recovering _ _ _ => cases allow
    | energyWindow _ _ _ => cases allow
    | softTarget passed notConstrained notRecovering exceeds =>
        unfold overSoftTarget at allow
        split at allow
        · rename_i granted
          obtain ⟨burst, within⟩ := Bool.and_eq_true_iff.mp granted
          exact ⟨passed.policyCurrent, passed.notStale, by simpa using within, notConstrained,
            notRecovering, exceeds, burst⟩
        · cases allow

/-- An input a fresh engine answers with ALLOW passes by a burst or by default. -/
theorem staged_of_allow (allow : input.stages.outcome.verdict = .allow) :
    input.BurstGrants ∨
      ¬ input.BurstGrants ∧ ∃ outcome, input.stages = .defaultAllow outcome := by
  cases staged : input.stages with
  | returned outcome =>
      rw [staged] at allow
      exact .inl (burstGrants_iff.mpr ⟨outcome, staged, allow⟩)
  | defaultAllow outcome =>
      refine .inr ⟨fun burst => ?_, outcome, rfl⟩
      obtain ⟨other, returned, _⟩ := burstGrants_iff.mp burst
      rw [staged] at returned
      cases returned

theorem default_verdict {outcome : Outcome} (staged : input.stages = .defaultAllow outcome) :
    outcome.verdict = .allow := by
  have decided := staged ▸ input.decidedBy
  cases decided with
  | allowed => rfl

end DecisionInput

/-! ## One evaluation -/

namespace DecisionEngine

variable {engine : DecisionEngine} {now : Timestamp} (input : DecisionInput) (outcome : Outcome)

/-- Without a restrictive last verdict the outcome stands. -/
theorem hold_of_released (released : ∀ last, engine.last = some last → last.verdict = .allow) :
    engine.hold input now outcome = .ok outcome := by
  unfold hold
  cases found : engine.last with
  | none => rfl
  | some last => exact if_pos (released last found)

variable {last : LastVerdict} (found : engine.last = some last)
  (restrictive : last.verdict ≠ .allow)

include found restrictive

/-- Inside the window the last verdict is repeated. -/
theorem hold_of_within {dt : Duration} (elapsed : now.elapsedSince last.decidedAt = .ok dt)
    (within : dt.ns < input.policy.minStableDuration.ns) :
    ∃ held, engine.hold input now outcome = .ok held ∧ held.verdict = last.verdict := by
  unfold hold
  simp only [found, if_neg restrictive, elapsed, bind, Except.bind, if_pos within]
  split
  · exact ⟨_, rfl, rfl⟩
  · exact ⟨_, rfl, rfl⟩

theorem hold_of_over {dt : Duration} (elapsed : now.elapsedSince last.decidedAt = .ok dt)
    (longer : input.policy.minStableDuration.ns ≤ dt.ns) :
    engine.hold input now outcome = .ok outcome := by
  unfold hold
  simp only [found, if_neg restrictive, elapsed, bind, Except.bind, if_neg (not_lt.mpr longer)]
  rfl

theorem hold_of_fault {fault : Fault} (elapsed : now.elapsedSince last.decidedAt = .error fault) :
    engine.hold input now outcome = .error fault := by
  unfold hold
  simp only [found, if_neg restrictive, elapsed, bind, Except.bind]

end DecisionEngine

/-! ## Requests for revalidation -/

/-- The only stage that asks for revalidation is the first. -/
theorem DecisionInput.stale_iff {input : DecisionInput} (current : input.policyCurrent = true) :
    input.stale = true ↔
      ∃ outcome, input.stages = .returned outcome ∧ outcome.verdict = .revalidationRequired := by
  constructor
  · intro stale
    refine ⟨input.revalidation, ?_, rfl⟩
    unfold stages
    rw [stale, Bool.or_true]
    rfl
  · rintro ⟨outcome, staged, asks⟩
    have decided := staged ▸ input.decidedBy
    cases decided with
    | revalidation notCurrent =>
        rcases notCurrent with other | stale
        · rw [current] at other
          cases other
        · exact stale
    | noCapacity _ _ =>
        simp only [noCapacity] at asks
        split at asks <;> cases asks
    | overCeiling _ =>
        unfold overCeiling at asks
        dsimp only at asks
        repeat' split at asks
        all_goals cases asks
    | constrained _ _ => cases asks
    | recovering _ _ _ => cases asks
    | energyWindow _ _ _ => cases asks
    | softTarget _ _ _ _ =>
        unfold overSoftTarget at asks
        split at asks <;> cases asks

namespace DecisionEngine

variable {engine : DecisionEngine} {input : DecisionInput} {now : Timestamp}

/-- The last verdict was a request for revalidation, and it is held for some time. -/
def Recalls (engine : DecisionEngine) (policy : PowerPolicy) : Prop :=
  (∃ last, engine.last = some last ∧ last.verdict = .revalidationRequired) ∧
    0 < policy.minStableDuration.ns

/-- At the time of the last verdict the hysteresis turns an ALLOW into a request for
revalidation exactly when the last verdict was one. -/
theorem hold_revalidation_iff {outcome : Outcome} (allow : outcome.verdict = .allow)
    (instant : ∀ last ∈ engine.last, last.decidedAt = now) :
    (∃ final, engine.hold input now outcome = .ok final ∧
        final.verdict = .revalidationRequired) ↔ engine.Recalls input.policy := by
  have passes : engine.hold input now outcome = .ok outcome →
      ¬ ∃ final, engine.hold input now outcome = .ok final ∧
        final.verdict = .revalidationRequired := by
    rintro passed ⟨final, held, asks⟩
    obtain rfl := Except.ok.inj (passed.symm.trans held)
    rw [allow] at asks
    cases asks
  by_cases released : ∀ last, engine.last = some last → last.verdict = .allow
  · apply iff_of_false (passes (hold_of_released input outcome released))
    rintro ⟨⟨last, found, asked⟩, _⟩
    rw [released last found] at asked
    cases asked
  · obtain ⟨last, others⟩ := not_forall.mp released
    obtain ⟨found, restrictive⟩ := Classical.not_imp.mp others
    have elapsed : now.elapsedSince last.decidedAt = .ok Duration.zero := by
      rw [instant last found]
      exact if_neg (lt_irrefl _)
    by_cases within : 0 < input.policy.minStableDuration.ns
    · obtain ⟨held, returned, verdict⟩ :=
        hold_of_within input outcome found restrictive elapsed within
      constructor
      · rintro ⟨final, same, asks⟩
        obtain rfl := Except.ok.inj (returned.symm.trans same)
        exact ⟨⟨last, found, verdict.symm.trans asks⟩, within⟩
      · rintro ⟨⟨other, same, asked⟩, _⟩
        obtain rfl := Option.some.inj (found.symm.trans same)
        exact ⟨held, returned, verdict.trans asked⟩
    · apply iff_of_false (passes (hold_of_over input outcome found restrictive elapsed
        (not_lt.mp within)))
      exact fun recalls => within recalls.2

/-- An evaluation at the time of the last verdict asks for revalidation on stale
evidence, and where only the hysteresis speaks against an ALLOW and repeats an earlier
request. -/
theorem resolve_revalidation_iff (current : input.policyCurrent = true)
    (instant : ∀ last ∈ engine.last, last.decidedAt = now) :
    (∃ outcome, engine.resolve input now = .ok outcome ∧
        outcome.verdict = .revalidationRequired) ↔
      input.stale = true ∨
        (∃ outcome, input.stages = .defaultAllow outcome) ∧ engine.Recalls input.policy := by
  rw [DecisionInput.stale_iff current]
  unfold resolve
  cases staged : input.stages with
  | returned outcome =>
      constructor
      · rintro ⟨other, same, asks⟩
        obtain rfl := Except.ok.inj same
        exact .inl ⟨outcome, rfl, asks⟩
      · rintro (⟨other, same, asks⟩ | ⟨⟨other, different⟩, _⟩)
        · obtain rfl := Staged.returned.inj same
          exact ⟨outcome, rfl, asks⟩
        · cases different
  | defaultAllow outcome =>
      refine (hold_revalidation_iff (DecisionInput.default_verdict staged) instant).trans ?_
      constructor
      · exact fun recalls => .inr ⟨⟨outcome, rfl⟩, recalls⟩
      · rintro (⟨other, different, _⟩ | ⟨_, recalls⟩)
        · cases different
        · exact recalls

end DecisionEngine

namespace EngineRun

variable {run : EngineRun} {n : Nat}

/-- What evaluation `n` resolves to. -/
def resolved (run : EngineRun) (n : Nat) : Except Fault Outcome :=
  (run.state n).1.resolve (run.calls n).input (run.calls n).now

theorem step_of_resolved {outcome : Outcome} (resolved : run.resolved n = .ok outcome) :
    (∃ d, run.decision n = .ok d ∧ d.verdict = outcome.verdict) ∧
      (run.state (n + 1)).1.last = some ⟨outcome.verdict, (run.calls n).now⟩ :=
  EngineState.perform_of_resolved resolved

theorem step_of_fault {fault : Fault} (resolved : run.resolved n = .error fault) :
    run.decision n = .error fault ∧ run.state (n + 1) = run.state n := by
  have thrown := EngineState.perform_of_fault resolved
  exact ⟨congrArg Prod.fst thrown, congrArg Prod.snd thrown⟩

theorem resolved_of_decision {d : Decision} (returned : run.decision n = .ok d) :
    ∃ outcome, run.resolved n = .ok outcome ∧ d.verdict = outcome.verdict := by
  cases resolved : run.resolved n with
  | error fault =>
      rw [(step_of_fault resolved).1] at returned
      cases returned
  | ok outcome =>
      obtain ⟨⟨other, same, verdict⟩, _⟩ := step_of_resolved resolved
      rw [returned] at same
      obtain rfl := Except.ok.inj same
      exact ⟨outcome, rfl, verdict⟩

/-- The stages decide what is resolved, up to the hold. -/
theorem resolved_of_returned {outcome : Outcome}
    (staged : (run.calls n).input.stages = .returned outcome) : run.resolved n = .ok outcome := by
  unfold resolved DecisionEngine.resolve
  rw [staged]

theorem resolved_of_default {outcome : Outcome}
    (staged : (run.calls n).input.stages = .defaultAllow outcome) :
    run.resolved n = (run.state n).1.hold (run.calls n).input (run.calls n).now outcome := by
  unfold resolved DecisionEngine.resolve
  rw [staged]

end EngineRun

/-! ## No ALLOW inside a hold -/

/-- The engine would hold back a default ALLOW now. -/
def DecisionEngine.Holding (engine : DecisionEngine) (call : Evaluation) : Prop :=
  ∃ last dt, engine.last = some last ∧ last.verdict ≠ .allow ∧
    call.now.elapsedSince last.decidedAt = .ok dt ∧
      dt.ns < call.input.policy.minStableDuration.ns

namespace EngineRun

variable {run : EngineRun}

/-- Inside a hold only the burst stage answers ALLOW. -/
theorem restricts_of_holding {n : Nat} (holding : (run.state n).1.Holding (run.calls n))
    (noBurst : ¬ (run.calls n).input.BurstGrants) : run.Restricts n ∧
      ∃ verdict, verdict ≠ .allow ∧
        (run.state (n + 1)).1.last = some ⟨verdict, (run.calls n).now⟩ := by
  have settled : ∃ outcome, run.resolved n = .ok outcome ∧ outcome.verdict ≠ .allow := by
    cases staged : (run.calls n).input.stages with
    | returned outcome =>
        refine ⟨outcome, resolved_of_returned staged, fun allow => ?_⟩
        exact noBurst (DecisionInput.burstGrants_iff.mpr ⟨outcome, staged, allow⟩)
    | defaultAllow outcome =>
        obtain ⟨last, dt, found, restrictive, elapsed, within⟩ := holding
        obtain ⟨held, returned, verdict⟩ :=
          DecisionEngine.hold_of_within _ outcome found restrictive elapsed within
        refine ⟨held, (resolved_of_default staged).trans returned, ?_⟩
        rw [verdict]
        exact restrictive
  obtain ⟨outcome, resolved, restrictive⟩ := settled
  obtain ⟨⟨d, returned, verdict⟩, recorded⟩ := step_of_resolved resolved
  exact ⟨⟨d, returned, by rw [verdict]; exact restrictive⟩, outcome.verdict, restrictive, recorded⟩

/-- A verdict recorded at the previous evaluation is held when the next one
comes soon enough. -/
theorem holding_of_recorded {n : Nat} {verdict : DecisionVerdict} (restrictive : verdict ≠ .allow)
    (recorded : (run.state (n + 1)).1.last = some ⟨verdict, (run.calls n).now⟩)
    (soon : run.time (n + 1) - run.time n < run.minStable) :
    (run.state (n + 1)).1.Holding (run.calls (n + 1)) := by
  have bounded := run.policy.minStableDuration.bounded
  have fits : Timestamp.ElapsedFits (run.calls (n + 1)).now (run.calls n).now := by
    unfold Timestamp.ElapsedFits
    unfold time minStable at soon
    omega
  obtain ⟨dt, elapsed, value⟩ := Timestamp.elapsedSince_of_fits (run.ordered n) fits
  refine ⟨_, dt, recorded, restrictive, elapsed, ?_⟩
  rw [run.onePolicy, value]
  exact soon

theorem recorded_of_restricts {n : Nat} (restricts : run.Restricts n) :
    ∃ verdict, verdict ≠ .allow ∧
      (run.state (n + 1)).1.last = some ⟨verdict, (run.calls n).now⟩ := by
  obtain ⟨d, returned, restrictive⟩ := restricts
  obtain ⟨outcome, resolved, verdict⟩ := resolved_of_decision returned
  rw [verdict] at restrictive
  exact ⟨outcome.verdict, restrictive, (step_of_resolved resolved).2⟩

theorem not_allows_of_restricts {n : Nat} (restricts : run.Restricts n) : ¬ run.Allows n := by
  rintro ⟨d, returned, allow⟩
  obtain ⟨other, same, restrictive⟩ := restricts
  rw [returned] at same
  exact restrictive ((Except.ok.inj same) ▸ allow)

/-- In a run that never takes the burst stage inside a hold, no evaluation less
than `min_stable_duration` after a verdict other than ALLOW returns ALLOW. -/
theorem no_allow_within_min_stable (run : EngineRun)
    (noBurst : ∀ n, (run.state n).1.Holding (run.calls n) → ¬ (run.calls n).input.BurstGrants)
    {i k : Nat} (later : i ≤ k) (restricts : run.Restricts i)
    (within : run.time k < run.time i + run.minStable) : ¬ run.Allows k := by
  suffices restricted : run.Restricts k from not_allows_of_restricts restricted
  induction later with
  | refl => exact restricts
  | @step n later inductionHypothesis =>
      change run.time (n + 1) < run.time i + run.minStable at within
      have start := run.time_mono later
      have next := run.ordered n
      have before : run.Restricts n := inductionHypothesis (by unfold time at *; omega)
      obtain ⟨verdict, restrictive, recorded⟩ := recorded_of_restricts before
      have holding := holding_of_recorded restrictive recorded (by unfold time at *; omega)
      exact (restricts_of_holding holding (noBurst _ holding)).1

end EngineRun

/-! Runs of two phases under the default policy, whose `min_stable_duration` is
200 ms: a refused request at time zero, then one input repeated at a fixed pace. -/

/-- Current evidence and nothing requested. -/
def idleInput : DecisionInput :=
  { DecisionInput.blank (.defaults ⟨1⟩ []) with policyCurrent := true, powerFreshness := .current }

/-- 100 W are requested of a device without any capacity. -/
def refusedInput : DecisionInput :=
  { idleInput with
    requestedPower := Watts.clamped 100
    hardwareCap := some Watts.zero }

/-- 100 W are requested over a soft target of 50 W that a burst covers. -/
def burstInput : DecisionInput :=
  { idleInput with
    requestedPower := Watts.clamped 100
    softTarget := some (Watts.clamped 50)
    burstAvailable := true }

/-- The time of the given repetition; the run stands still after the second. -/
def repetitionTime (pace : Fin 501) (n : Nat) : Timestamp :=
  ⟨(min n 2 * pace.val : Nat) * 1000000, by omega, by
    have := Nat.mul_le_mul (Nat.min_le_right n 2) (Nat.le_of_lt_succ pace.isLt)
    omega⟩

theorem repetitionTime_mono (pace : Fin 501) (n : Nat) :
    (repetitionTime pace n).ns ≤ (repetitionTime pace (n + 1)).ns := by
  have grows : min n 2 * pace.val ≤ min (n + 1) 2 * pace.val :=
    Nat.mul_le_mul_right pace.val (by omega)
  simp only [repetitionTime]
  omega

/-- The refused request, then `input` every `pace` milliseconds. -/
def pacedRun (input : DecisionInput) (pace : Fin 501)
    (policy : input.policy = refusedInput.policy) : EngineRun where
  start := (.construct .first, .start)
  calls
    | 0 => ⟨refusedInput, repetitionTime pace 0⟩
    | n + 1 => ⟨input, repetitionTime pace (n + 1)⟩
  policy := refusedInput.policy
  onePolicy
    | 0 => rfl
    | _ + 1 => policy
  ordered
    | 0 => repetitionTime_mono pace 0
    | n + 1 => repetitionTime_mono pace (n + 1)

namespace EngineRun

theorem no_allow_within_min_stable_paced : ¬ (pacedRun idleInput 100 rfl).Allows 1 := by
  apply no_allow_within_min_stable _ _ (Nat.zero_le 1)
  · decide +kernel
  · decide +kernel
  · rintro (_ | n) _ burst
    · cases burst.burst
    · cases burst.burst

/-- A burst is granted 100 ms after the refusal, inside the hold. -/
theorem allow_inside_hold :
    ¬ ∀ (run : EngineRun) (i k : Nat), i ≤ k → run.Restricts i →
      run.time k < run.time i + run.minStable → ¬ run.Allows k := by
  intro claimed
  have within : (pacedRun burstInput 100 rfl).time 1 <
      (pacedRun burstInput 100 rfl).time 0 + (pacedRun burstInput 100 rfl).minStable := by
    decide +kernel
  exact claimed (pacedRun burstInput 100 rfl) 0 1 (Nat.zero_le 1) (by decide +kernel) within
    (by decide +kernel)

end EngineRun

/-! ## The end of a hold -/

/-- A fresh engine answers the call with ALLOW. -/
def Evaluation.FreshAllows (call : Evaluation) : Prop :=
  ∃ d engine ids, (DecisionEngine.construct .first).evaluate .start call.input call.now =
    .ok (d, engine, ids) ∧ d.verdict = .allow

theorem Evaluation.FreshAllows.staged {call : Evaluation} (fresh : call.FreshAllows) :
    call.input.BurstGrants ∨
      ¬ call.input.BurstGrants ∧ ∃ outcome, call.input.stages = .defaultAllow outcome := by
  obtain ⟨d, engine, ids, returned, allow⟩ := fresh
  obtain ⟨outcome, resolved, verdict, _⟩ := DecisionEngine.evaluate_eq_ok returned
  apply DecisionInput.staged_of_allow
  rw [verdict] at allow
  unfold DecisionEngine.resolve at resolved
  cases staged : call.input.stages with
  | returned early =>
      rw [staged] at resolved
      rw [Except.ok.inj resolved]
      exact allow
  | defaultAllow allowed =>
      exact DecisionInput.default_verdict staged

/-- Without a last verdict a default ALLOW stands. -/
theorem Evaluation.freshAllows_of_staged {call : Evaluation} {outcome : Outcome}
    (staged : call.input.stages = .defaultAllow outcome) : call.FreshAllows := by
  have resolved : (DecisionEngine.construct .first).resolve call.input call.now = .ok outcome := by
    unfold DecisionEngine.resolve
    rw [staged]
    apply DecisionEngine.hold_of_released
    intro last found
    cases found
  unfold FreshAllows DecisionEngine.evaluate
  rw [resolved]
  exact ⟨_, _, _, rfl, DecisionInput.default_verdict staged⟩

namespace EngineRun

variable {run : EngineRun}

/-- The gap before evaluation `n` fits in a `Duration`. -/
def GapFits (run : EngineRun) (n : Nat) : Prop := run.time n - run.time (n - 1) ≤ kMaxNs

/-- Some later evaluation up to `n` was granted as a burst, or came at least
`min_stable_duration` after the one before it with no gap before it, its own
included, longer than a `Duration` can hold. -/
def Released (run : EngineRun) (n : Nat) : Prop :=
  ∃ j, 1 ≤ j ∧ j ≤ n ∧ ((run.calls j).input.BurstGrants ∨
    run.minStable ≤ run.time j - run.time (j - 1) ∧ ∀ m, 1 ≤ m → m ≤ j → run.GapFits m)

theorem Released.mono {n k : Nat} (released : run.Released n) (later : n ≤ k) :
    run.Released k := by
  obtain ⟨j, positive, before, reason⟩ := released
  exact ⟨j, positive, before.trans later, reason⟩

/-- A hold survives an evaluation that releases it in neither way. -/
theorem not_released_succ {n : Nat} (before : ¬ run.Released n)
    (noBurst : ¬ (run.calls (n + 1)).input.BurstGrants)
    (noGap : ¬ (run.minStable ≤ run.time (n + 1) - run.time n ∧
      ∀ m, 1 ≤ m → m ≤ n + 1 → run.GapFits m)) : ¬ run.Released (n + 1) := by
  rintro ⟨j, positive, bounded, reason⟩
  rcases Nat.lt_or_ge n j with last | earlier
  · obtain rfl : j = n + 1 := by omega
    rcases reason with burst | gap
    · exact noBurst burst
    · exact noGap gap
  · exact before ⟨j, positive, earlier, reason⟩

/-- The recorded verdict after evaluation `n` of a run whose first verdict is
restrictive and whose later inputs a fresh engine would allow. -/
structure Tracks (run : EngineRun) (n : Nat) : Prop where
  released : run.Released n → ∃ decidedAt, (run.state (n + 1)).1.last = some ⟨.allow, decidedAt⟩
  held : ¬ run.Released n → ∃ last, (run.state (n + 1)).1.last = some last ∧
    last.verdict ≠ .allow ∧
    ((∀ m, 1 ≤ m → m ≤ n → run.GapFits m) → last.decidedAt = (run.calls n).now) ∧
    (¬ (∀ m, 1 ≤ m → m ≤ n → run.GapFits m) → kMaxNs < run.time n - last.decidedAt.ns)

/-- An evaluation that resolves to ALLOW comes after a release, and ends the hold. -/
theorem tracks_of_allow {n : Nat} {outcome : Outcome} (resolved : run.resolved n = .ok outcome)
    (allow : outcome.verdict = .allow) (released : run.Released n) :
    run.Tracks n ∧ (run.Allows n ↔ run.Released n) := by
  obtain ⟨⟨d, returned, verdict⟩, recorded⟩ := step_of_resolved resolved
  rw [allow] at verdict recorded
  refine ⟨⟨fun _ => ⟨_, recorded⟩, fun notReleased => absurd released notReleased⟩, ?_⟩
  exact ⟨fun _ => released, fun _ => ⟨d, returned, verdict⟩⟩

/-- An evaluation that resolves to a held verdict records it with its own time. -/
theorem tracks_of_held {n : Nat} {outcome : Outcome} (resolved : run.resolved n = .ok outcome)
    (restrictive : outcome.verdict ≠ .allow) (notReleased : ¬ run.Released n)
    (fits : ∀ m, 1 ≤ m → m ≤ n → run.GapFits m) :
    run.Tracks n ∧ (run.Allows n ↔ run.Released n) := by
  obtain ⟨⟨d, decided, verdict⟩, after⟩ := step_of_resolved resolved
  have restricts : run.Restricts n := ⟨d, decided, by rw [verdict]; exact restrictive⟩
  refine ⟨⟨fun released => absurd released notReleased, fun _ => ?_⟩, ?_⟩
  · exact ⟨_, after, restrictive, fun _ => rfl, fun notFits => absurd fits notFits⟩
  · exact ⟨fun allows => absurd allows (not_allows_of_restricts restricts),
      fun released => absurd released notReleased⟩

/-- An evaluation that throws leaves the last verdict, which is too long ago. -/
theorem tracks_of_fault {n : Nat} {fault : Fault} {last : LastVerdict}
    (resolved : run.resolved n = .error fault) (recorded : (run.state n).1.last = some last)
    (restrictive : last.verdict ≠ .allow) (notReleased : ¬ run.Released n)
    (notFits : ¬ ∀ m, 1 ≤ m → m ≤ n → run.GapFits m)
    (far : kMaxNs < run.time n - last.decidedAt.ns) :
    run.Tracks n ∧ (run.Allows n ↔ run.Released n) := by
  obtain ⟨decided, unchanged⟩ := step_of_fault resolved
  refine ⟨⟨fun released => absurd released notReleased, fun _ => ?_⟩, ?_⟩
  · rw [unchanged]
    exact ⟨last, recorded, restrictive, fun fits => absurd fits notFits, fun _ => far⟩
  · refine ⟨fun allows => ?_, fun released => absurd released notReleased⟩
    obtain ⟨d, returned, _⟩ := allows
    rw [decided] at returned
    cases returned

/-- Once a gap fits in no `Duration`, neither does the time since the last verdict. -/
theorem far_of_gap {n : Nat} {last : LastVerdict}
    (onTime : (∀ m, 1 ≤ m → m ≤ n → run.GapFits m) → last.decidedAt = (run.calls n).now)
    (far : ¬ (∀ m, 1 ≤ m → m ≤ n → run.GapFits m) → kMaxNs < run.time n - last.decidedAt.ns)
    (notFits : ¬ ∀ m, 1 ≤ m → m ≤ n + 1 → run.GapFits m) :
    kMaxNs < run.time (n + 1) - last.decidedAt.ns := by
  have next := run.ordered n
  by_cases earlier : ∀ m, 1 ≤ m → m ≤ n → run.GapFits m
  · have lastGap : ¬ run.GapFits (n + 1) := by
      intro gapFits
      refine notFits fun m positive bounded => ?_
      rcases Nat.lt_or_ge n m with isLast | isEarlier
      · obtain rfl : m = n + 1 := by omega
        exact gapFits
      · exact earlier m positive isEarlier
    rw [onTime earlier]
    unfold GapFits at lastGap
    exact not_le.mp lastGap
  · have already := far earlier
    unfold time at *
    omega

/-- Evaluation `n + 1` keeps the tracking, and returns ALLOW exactly when the
hold has been released. -/
theorem Tracks.step {n : Nat} (tracks : run.Tracks n)
    (fresh : (run.calls (n + 1)).FreshAllows) :
    run.Tracks (n + 1) ∧ (run.Allows (n + 1) ↔ run.Released (n + 1)) := by
  rcases fresh.staged with burst | ⟨noBurst, outcome, staged⟩
  · obtain ⟨early, returned, allow⟩ := DecisionInput.burstGrants_iff.mp burst
    exact tracks_of_allow (resolved_of_returned returned) allow
      ⟨n + 1, by omega, le_refl _, .inl burst⟩
  have resolved := resolved_of_default staged
  have allow := DecisionInput.default_verdict staged
  by_cases before : run.Released n
  · -- The hold is over: ALLOW is the last verdict.
    obtain ⟨decidedAt, recorded⟩ := tracks.released before
    have stands : (run.state (n + 1)).1.hold (run.calls (n + 1)).input (run.calls (n + 1)).now
        outcome = .ok outcome := by
      apply DecisionEngine.hold_of_released
      intro last found
      rw [recorded] at found
      rw [← Option.some.inj found]
    exact tracks_of_allow (resolved.trans stands) allow (before.mono (Nat.le_succ n))
  obtain ⟨last, recorded, restrictive, onTime, far⟩ := tracks.held before
  by_cases fits : ∀ m, 1 ≤ m → m ≤ n + 1 → run.GapFits m
  · -- The last verdict was recorded at evaluation `n`.
    have decidedAt : last.decidedAt = (run.calls n).now :=
      onTime fun m positive bounded => fits m positive (by omega)
    have gapFits : Timestamp.ElapsedFits (run.calls (n + 1)).now last.decidedAt := by
      rw [decidedAt]
      exact fits (n + 1) (by omega) (le_refl _)
    have ordered : last.decidedAt.ns ≤ (run.calls (n + 1)).now.ns := by
      rw [decidedAt]
      exact run.ordered n
    obtain ⟨dt, elapsed, value⟩ := Timestamp.elapsedSince_of_fits ordered gapFits
    have gap : dt.ns = run.time (n + 1) - run.time n := by
      rw [value, decidedAt]
      rfl
    by_cases longer : run.minStable ≤ run.time (n + 1) - run.time n
    · have stands := DecisionEngine.hold_of_over (run.calls (n + 1)).input outcome recorded
        restrictive elapsed (by
          rw [run.onePolicy, gap]
          exact longer)
      exact tracks_of_allow (resolved.trans stands) allow
        ⟨n + 1, by omega, le_refl _, .inr ⟨longer, fits⟩⟩
    · obtain ⟨held, returned, verdict⟩ := DecisionEngine.hold_of_within
        (run.calls (n + 1)).input outcome recorded restrictive elapsed (by
          rw [run.onePolicy, gap]
          exact not_le.mp longer)
      exact tracks_of_held (resolved.trans returned) (verdict ▸ restrictive)
        (not_released_succ before noBurst fun gap => longer gap.1) fits
  · -- The elapsed time fits in no `Duration`, so the evaluation throws.
    have tooFar := far_of_gap onTime far fits
    obtain ⟨fault, elapsed⟩ : ∃ fault,
        (run.calls (n + 1)).now.elapsedSince last.decidedAt = .error fault :=
      Timestamp.elapsedSince_faults (not_le.mpr tooFar)
    have faulted := DecisionEngine.hold_of_fault (run.calls (n + 1)).input outcome recorded
      restrictive elapsed
    exact tracks_of_fault (resolved.trans faulted) recorded restrictive
      (not_released_succ before noBurst fun gap => fits gap.2) fits tooFar

theorem tracks_of_restricts (restricts : run.Restricts 0)
    (fresh : ∀ n, 1 ≤ n → (run.calls n).FreshAllows) (n : Nat) : run.Tracks n := by
  induction n with
  | zero =>
      have notReleased : ¬ run.Released 0 := by
        rintro ⟨j, positive, bounded, _⟩
        omega
      obtain ⟨verdict, restrictive, recorded⟩ := recorded_of_restricts restricts
      refine ⟨fun released => absurd released notReleased, fun _ => ?_⟩
      refine ⟨_, recorded, restrictive, fun _ => rfl, fun notFits => ?_⟩
      exact absurd (fun m positive bounded => absurd positive (by omega)) notFits
  | succ n inductionHypothesis =>
      exact (inductionHypothesis.step (fresh (n + 1) (by omega))).1

/-- After a verdict other than ALLOW and under inputs a fresh engine would allow,
every evaluation `min_stable_duration` later returns ALLOW exactly when each of
them comes after a release: a granted burst, or an evaluation that is itself
`min_stable_duration` away from the one before it. -/
theorem hysteresis_ends_iff (run : EngineRun) (restricts : run.Restricts 0)
    (fresh : ∀ n, 1 ≤ n → (run.calls n).FreshAllows) :
    (∀ n, 1 ≤ n → run.time 0 + run.minStable ≤ run.time n → run.Allows n) ↔
      ∀ n, 1 ≤ n → run.time 0 + run.minStable ≤ run.time n → run.Released n := by
  have each : ∀ n, 1 ≤ n → (run.Allows n ↔ run.Released n) := by
    intro n positive
    obtain ⟨k, rfl⟩ : ∃ k, n = k + 1 := ⟨n - 1, by omega⟩
    exact ((tracks_of_restricts restricts fresh k).step (fresh (k + 1) positive)).2
  constructor
  · intro allows n positive late
    exact (each n positive).mp (allows n positive late)
  · intro released n positive late
    exact (each n positive).mpr (released n positive late)

theorem freshAllows_idle (pace : Fin 501) {n : Nat} (later : 1 ≤ n) :
    ((pacedRun idleInput pace rfl).calls n).FreshAllows := by
  cases n with
  | zero => omega
  | succ n =>
      exact Evaluation.freshAllows_of_staged (show idleInput.stages = .defaultAllow _ from rfl)

/-- Two idle evaluations 300 ms apart: the hold ends with the first one. -/
theorem hysteresis_ends_iff_paced :
    (pacedRun idleInput 300 rfl).Restricts 0 ∧
      ∀ n, 1 ≤ n →
        (pacedRun idleInput 300 rfl).time 0 + (pacedRun idleInput 300 rfl).minStable ≤
          (pacedRun idleInput 300 rfl).time n → (pacedRun idleInput 300 rfl).Allows n := by
  have restricts : (pacedRun idleInput 300 rfl).Restricts 0 := by decide +kernel
  refine ⟨restricts, ?_⟩
  apply (hysteresis_ends_iff _ restricts fun n later => freshAllows_idle 300 later).mpr
  intro n later _
  refine ⟨1, le_refl _, later, .inr ⟨by decide +kernel, fun m positive bounded => ?_⟩⟩
  obtain rfl : m = 1 := by omega
  show _ ≤ _
  decide +kernel

/-- At a pace of 100 ms the evaluation 200 ms after the refusal is still held. -/
theorem hold_outlasts_min_stable :
    ¬ ∀ run : EngineRun, run.Restricts 0 → (∀ n, 1 ≤ n → (run.calls n).FreshAllows) →
      ∀ n, 1 ≤ n → run.time 0 + run.minStable ≤ run.time n → run.Allows n := by
  intro claimed
  have held : ¬ (pacedRun idleInput 100 rfl).Allows 2 := by decide +kernel
  apply held
  apply claimed _ _ (fun n later => freshAllows_idle 100 later) 2 (by decide)
  · decide +kernel
  · decide +kernel

end EngineRun

end PowerGovernor
