import Mathlib.Tactic.Linarith
import PowerGovernor.Decision.Engine

/-!
Hard limits bind every decision.

Owns the facts about the stages of `evaluate` that survive every early return,
the soft-target overwrite of the limit and the hysteresis overwrite of the
verdict: a recommended limit under every cap, an ALLOW only on current evidence
and under every cap, and no ALLOW on a constrained device.
-/

set_option autoImplicit false

namespace PowerGovernor

/-- One of the three hard caps of an input. -/
def DecisionInput.IsCap (input : DecisionInput) (cap : Watts) : Prop :=
  input.hardwareCap = some cap ∨ input.budgetAvailable = some cap ∨
    input.thermalCeiling = some cap

/-! ## The ceiling -/

namespace HardCeiling

variable {best : HardCeiling} {kind : BindingKind}

/-- The ceiling after one more cap is at most that cap. -/
theorem consider_le_cap {cap : Watts} :
    ∃ limit, (best.consider (some cap) kind).limit = some limit ∧ limit.value ≤ cap.value := by
  unfold consider
  cases found : best.limit with
  | none => exact ⟨cap, rfl, le_refl _⟩
  | some limit =>
      simp only
      split
      · exact ⟨cap, rfl, le_refl _⟩
      · rename_i notLess
        exact ⟨limit, found, not_lt.mp notLess⟩

/-- Considering a cap only lowers the ceiling. -/
theorem consider_le_best {cap : Option Watts} {bound : ℚ}
    (before : ∃ limit, best.limit = some limit ∧ limit.value ≤ bound) :
    ∃ limit, (best.consider cap kind).limit = some limit ∧ limit.value ≤ bound := by
  obtain ⟨limit, found, under⟩ := before
  cases cap with
  | none => exact ⟨limit, found, under⟩
  | some cap =>
      unfold consider
      simp only [found]
      split
      · rename_i less
        exact ⟨cap, rfl, (le_of_lt less).trans under⟩
      · exact ⟨limit, found, under⟩

/-- An amount the ceiling does not lie under is at most the ceiling. -/
theorem le_of_not_under {amount : ℚ} (notUnder : best.under amount = false) {limit : Watts}
    (found : best.limit = some limit) : amount ≤ limit.value := by
  unfold under at notUnder
  rw [found, Option.any_some] at notUnder
  exact not_lt.mp (of_decide_eq_false notUnder)

end HardCeiling

namespace DecisionInput

variable {input : DecisionInput}

theorem hardCeiling_le {cap : Watts} (isCap : input.IsCap cap) :
    ∃ limit, input.hardCeiling.limit = some limit ∧ limit.value ≤ cap.value := by
  unfold hardCeiling
  rcases isCap with hardware | budget | thermal
  · apply HardCeiling.consider_le_best
    apply HardCeiling.consider_le_best
    rw [hardware]
    exact HardCeiling.consider_le_cap
  · apply HardCeiling.consider_le_best
    rw [budget]
    exact HardCeiling.consider_le_cap
  · rw [thermal]
    exact HardCeiling.consider_le_cap

/-- A request that passed stage 4 is under every cap, up to the tolerance. -/
theorem requested_le_cap
    (passed : input.hardCeiling.under (input.requestedPower.value - slack) = false)
    {cap : Watts} (isCap : input.IsCap cap) : input.requestedPower.value ≤ cap.value + slack := by
  obtain ⟨limit, found, under⟩ := hardCeiling_le isCap
  have reached := HardCeiling.le_of_not_under passed found
  linarith

/-! ## The stages -/

/-- What stages 5 to 8 may rely on. -/
structure Passed (input : DecisionInput) : Prop where
  policyCurrent : input.policyCurrent = true
  notStale : input.stale = false
  underCeiling : input.hardCeiling.under (input.requestedPower.value - slack) = false

/-- The stage that decides, with the conditions that led to it. -/
inductive DecidedBy (input : DecisionInput) : Staged → Prop where
  | revalidation (notCurrent : input.policyCurrent = false ∨ input.stale = true) :
      DecidedBy input (.returned input.revalidation)
  | noCapacity (below : input.hardCeiling.under input.requestedPower.value = true)
      (exhausted : input.hardCeiling.atMost slack = true) :
      DecidedBy input (.returned (input.noCapacity input.hardCeiling))
  | overCeiling (below : input.hardCeiling.under (input.requestedPower.value - slack) = true) :
      DecidedBy input (.returned (input.overCeiling input.hardCeiling))
  | constrained (passed : input.Passed) (constrained : input.constrained = true) :
      DecidedBy input (.returned ⟨.throttle, ["device thermally constrained"],
        input.hardCeiling.limit, input.hardCeiling.bindingKind⟩)
  | recovering (passed : input.Passed) (notConstrained : input.constrained = false)
      (recovering : input.recovering = true) :
      DecidedBy input (.returned ⟨.allowWithLimit,
        ["thermal recovery in progress; limited to ceiling"], input.hardCeiling.limit,
        input.hardCeiling.bindingKind⟩)
  | softTarget (passed : input.Passed) (notConstrained : input.constrained = false)
      (notRecovering : input.recovering = false) (exceeds : input.exceedsSoftTarget = true) :
      DecidedBy input (.returned (input.overSoftTarget input.hardCeiling))
  | energyWindow (passed : input.Passed) (notConstrained : input.constrained = false)
      (exceeds : input.exceedsEnergyWindow = true) :
      DecidedBy input (.returned ⟨.throttle, ["energy window would be exceeded"],
        input.hardCeiling.limit, input.hardCeiling.bindingKind⟩)
  | allowed (passed : input.Passed) (notConstrained : input.constrained = false)
      (notRecovering : input.recovering = false)
      (underSoftTarget : input.exceedsSoftTarget = false) :
      DecidedBy input (.defaultAllow (input.allowed input.hardCeiling))

theorem decidedBy (input : DecisionInput) : input.DecidedBy input.stages := by
  unfold stages
  dsimp only
  cases current : input.policyCurrent with
  | false => exact .revalidation (.inl current)
  | true =>
  cases stale : input.stale with
  | true => exact .revalidation (.inr stale)
  | false =>
  cases exhausted : (input.hardCeiling.under input.requestedPower.value &&
      input.hardCeiling.atMost slack) with
  | true =>
      obtain ⟨below, atMost⟩ := Bool.and_eq_true_iff.mp exhausted
      exact .noCapacity below atMost
  | false =>
  cases exceeded : input.hardCeiling.under (input.requestedPower.value - slack) with
  | true => exact .overCeiling exceeded
  | false =>
  have passed : input.Passed := ⟨current, stale, exceeded⟩
  cases constrained : input.constrained with
  | true => exact .constrained passed constrained
  | false =>
  cases recovering : input.recovering with
  | true => exact .recovering passed constrained recovering
  | false =>
  cases exceeds : input.exceedsSoftTarget with
  | true => exact .softTarget passed constrained recovering exceeds
  | false =>
  cases window : input.exceedsEnergyWindow with
  | true => exact .energyWindow passed constrained window
  | false => exact .allowed passed constrained recovering exceeds

/-- What an outcome respects. -/
structure Respects (input : DecisionInput) (outcome : Outcome) : Prop where
  limit : ∀ limit cap, outcome.limit = some limit → input.IsCap cap →
    limit.value ≤ cap.value + slack
  allow : outcome.verdict = .allow →
    input.Passed ∧ input.constrained = false ∧ input.recovering = false
  constrained : input.constrained = true →
    outcome.verdict ≠ .allow ∧ outcome.verdict ≠ .allowWithLimit

/-- The ceiling itself is a limit under every cap. -/
theorem ceiling_le_cap {limit cap : Watts} (found : input.hardCeiling.limit = some limit)
    (isCap : input.IsCap cap) : limit.value ≤ cap.value + slack := by
  obtain ⟨least, leastFound, under⟩ := hardCeiling_le isCap
  rw [found] at leastFound
  obtain rfl := Option.some.inj leastFound
  exact le_add_of_le_of_nonneg under slack_nonneg

/-- The soft target only replaces the limit where the request exceeds it, and
the request has passed the ceiling. -/
theorem softTarget_le_cap (passed : input.Passed) (exceeds : input.exceedsSoftTarget = true)
    {target cap : Watts} (found : input.softTarget = some target) (isCap : input.IsCap cap) :
    target.value ≤ cap.value + slack := by
  have under := requested_le_cap passed.underCeiling isCap
  unfold exceedsSoftTarget at exceeds
  rw [found, Option.any_some] at exceeds
  have less := of_decide_eq_true exceeds
  linarith

/-- Every outcome of the stages, returned early or not. -/
theorem respects_stages (input : DecisionInput) : input.Respects input.stages.outcome := by
  have ceiling : ∀ limit cap, input.hardCeiling.limit = some limit → input.IsCap cap →
      limit.value ≤ cap.value + slack := fun _ _ found isCap => ceiling_le_cap found isCap
  generalize staged : input.stages = stages
  have decided : input.DecidedBy stages := staged ▸ input.decidedBy
  cases decided with
  | revalidation _ => exact ⟨nofun, nofun, fun _ => ⟨nofun, nofun⟩⟩
  | noCapacity _ _ =>
      refine ⟨ceiling, ?_, fun constrained => ?_⟩
      · simp only [Staged.outcome, noCapacity]
        split <;> exact nofun
      · simp [Staged.outcome, noCapacity, constrained]
  | overCeiling _ =>
      refine ⟨ceiling, ?_, fun constrained => ?_⟩
      · simp only [Staged.outcome, overCeiling]
        cases input.constrained <;> cases input.recovering <;> split <;> simp
      · simp only [Staged.outcome, overCeiling, constrained]
        split <;> simp
  | constrained _ _ => exact ⟨ceiling, nofun, fun _ => ⟨nofun, nofun⟩⟩
  | recovering _ notConstrained _ =>
      refine ⟨ceiling, nofun, fun constrained => ?_⟩
      rw [notConstrained] at constrained
      cases constrained
  | softTarget passed notConstrained notRecovering exceeds =>
      refine ⟨?_, fun _ => ⟨passed, notConstrained, notRecovering⟩, fun constrained => ?_⟩
      · simp only [Staged.outcome, overSoftTarget]
        split
        · exact ceiling
        · intro limit cap found isCap
          exact softTarget_le_cap passed exceeds found isCap
      · rw [notConstrained] at constrained
        cases constrained
  | energyWindow _ _ _ => exact ⟨ceiling, nofun, fun _ => ⟨nofun, nofun⟩⟩
  | allowed passed notConstrained notRecovering _ =>
      refine ⟨ceiling, fun _ => ⟨passed, notConstrained, notRecovering⟩, fun constrained => ?_⟩
      rw [notConstrained] at constrained
      cases constrained

end DecisionInput

/-! ## The decision -/

namespace DecisionEngine

variable {engine : DecisionEngine} {input : DecisionInput} {now : Timestamp}

/-- A held verdict is never ALLOW, and a held limit is new only where there is
no cap at all. -/
theorem hold_cases {outcome held : Outcome} (returned : engine.hold input now outcome = .ok held) :
    held = outcome ∨ held.verdict ≠ .allow ∧
      (held.limit = outcome.limit ∨ outcome.limit = none ∧ held.limit = input.softTarget) := by
  unfold hold at returned
  cases found : engine.last with
  | none =>
      rw [found] at returned
      exact .inl (Except.ok.inj returned).symm
  | some last =>
      rw [found] at returned
      simp only at returned
      split at returned
      · exact .inl (Except.ok.inj returned).symm
      · rename_i restrictive
        obtain ⟨dt, _, body⟩ := bind_eq_ok.mp returned
        split at body
        · split at body
          · rename_i noLimit
            cases body
            exact .inr ⟨restrictive, .inr ⟨noLimit.2, rfl⟩⟩
          · cases body
            exact .inr ⟨restrictive, .inl rfl⟩
        · exact .inl (Except.ok.inj body).symm

theorem respects_resolve {outcome : Outcome} (resolved : engine.resolve input now = .ok outcome) :
    input.Respects outcome := by
  have respects := input.respects_stages
  unfold resolve at resolved
  have decided := input.decidedBy
  cases staged : input.stages with
  | returned early =>
      rw [staged] at resolved respects
      obtain rfl := Except.ok.inj resolved
      exact respects
  | defaultAllow allowed =>
      rw [staged] at resolved respects decided
      cases decided with
      | allowed passed notConstrained notRecovering _ =>
      rcases hold_cases resolved with same | ⟨restrictive, limit⟩
      · rw [same]
        exact respects
      · refine ⟨fun found cap limitFound isCap => ?_, fun allow => absurd allow restrictive,
          fun constrained => ?_⟩
        · rcases limit with kept | ⟨noLimit, _⟩
          · rw [kept] at limitFound
            exact respects.limit found cap limitFound isCap
          · -- Without a limit there is no cap, so no cap is overwritten.
            obtain ⟨least, leastFound, _⟩ := DecisionInput.hardCeiling_le isCap
            change input.hardCeiling.limit = none at noLimit
            rw [noLimit] at leastFound
            cases leastFound
        · rw [notConstrained] at constrained
          cases constrained

/-- Hard limits bind every decision, whatever the hysteresis state. -/
theorem evaluate_respects_limits {engine engine' : DecisionEngine} {ids ids' : Allocators}
    {input : DecisionInput} {now : Timestamp} {d : Decision}
    (returned : engine.evaluate ids input now = .ok (d, engine', ids')) :
    (∀ limit cap, d.recommendedLimit = some limit → input.IsCap cap →
      limit.value ≤ cap.value + 1 / 1000000000) ∧
    (d.verdict = .allow → input.policyCurrent = true ∧
      (input.powerFreshness = .current ∨ input.powerFreshness = .aging) ∧
      (input.thermalKnown = true → input.thermalState ≠ .thermallyConstrained ∧
        input.thermalState ≠ .recovering) ∧
      ∀ cap, input.IsCap cap → input.requestedPower.value ≤ cap.value + 1 / 1000000000) ∧
    (input.thermalKnown = true → input.thermalState = .thermallyConstrained →
      d.verdict ≠ .allow ∧ d.verdict ≠ .allowWithLimit) := by
  obtain ⟨outcome, resolved, verdict, limit, _⟩ := evaluate_eq_ok returned
  have respects := respects_resolve resolved
  rw [verdict, limit]
  refine ⟨respects.limit, fun allow => ?_, fun known state => ?_⟩
  · obtain ⟨passed, notConstrained, notRecovering⟩ := respects.allow allow
    refine ⟨passed.policyCurrent, ?_, fun known => ⟨fun state => ?_, fun state => ?_⟩, ?_⟩
    · have notStale := passed.notStale
      unfold DecisionInput.stale at notStale
      cases freshness : input.powerFreshness <;> simp [freshness] at notStale ⊢
    · simp [DecisionInput.constrained, known, state] at notConstrained
    · simp [DecisionInput.recovering, known, state] at notRecovering
    · intro cap isCap
      exact DecisionInput.requested_le_cap passed.underCeiling isCap
  · apply respects.constrained
    simp [DecisionInput.constrained, known, state]

/-- Fresh evidence under the default policy, a request of 250 W, a device cap of
300 W and a soft target of 200 W. -/
def softLimited : DecisionInput :=
  { DecisionInput.blank (.defaults ⟨1⟩ []) with
    policyCurrent := true
    powerFreshness := .current
    requestedPower := Watts.clamped 250
    hardwareCap := some (Watts.clamped 300)
    softTarget := some (Watts.clamped 200) }

/-- The engine limits that request to the soft target, which the device cap
bounds. -/
theorem evaluate_respects_limits_softLimited :
    ∃ d engine ids, (construct .first).evaluate .start softLimited Timestamp.zero =
        .ok (d, engine, ids) ∧
      d.recommendedLimit = some (Watts.clamped 200) ∧
      (Watts.clamped 200).value ≤ (Watts.clamped 300).value + 1 / 1000000000 := by
  cases returned : (construct .first).evaluate .start softLimited Timestamp.zero with
  | error fault =>
      have ok : ((construct .first).evaluate .start softLimited Timestamp.zero).isOk = true := by
        decide +kernel
      rw [returned] at ok
      cases ok
  | ok result =>
      obtain ⟨d, engine, ids⟩ := result
      have limit : d.recommendedLimit = some (Watts.clamped 200) := by
        have resolved : ((construct .first).resolve softLimited Timestamp.zero).toOption.map
            Outcome.limit = some (some (Watts.clamped 200)) := by decide +kernel
        obtain ⟨outcome, found, _, carried, _⟩ := evaluate_eq_ok returned
        rw [found] at resolved
        rw [carried]
        exact Option.some.inj resolved
      exact ⟨d, engine, ids, rfl, limit,
        (evaluate_respects_limits returned).1 _ (Watts.clamped 300) limit (.inl rfl)⟩

end DecisionEngine

end PowerGovernor
