import PowerGovernor.Decision.Hysteresis
import PowerGovernor.Governor.Agreement

/-!
Decisions that ask for revalidation.

Owns the exact condition under which a decision asks for revalidation, where no
observation has been made and where the decision is dated at the time of the one
before. The stages ask for it on stale evidence only; after that only the hysteresis
can repeat an earlier request.
-/

set_option autoImplicit false

namespace PowerGovernor

namespace Governor

variable {g : Governor}

/-- A decision asks for revalidation. -/
def Revalidates (g : Governor) (budget : BudgetId) (workload : WorkloadId)
    (cls : WorkloadPowerClass) (requested : Watts) (requestedEnergy : Joules) (duration : ℚ)
    (now : Timestamp) : Prop :=
  ∃ d g', (decideFor budget workload cls requested requestedEnergy duration now).exec g =
    (.ok d, g') ∧ d.verdict = .revalidationRequired

/-- It is filled in, and the engine resolves it so. -/
theorem revalidates_iff_resolve (stock : g.live.Stock) (budget : BudgetId) (workload : WorkloadId)
    (cls : WorkloadPowerClass) (requested : Watts) (requestedEnergy : Joules) (duration : ℚ)
    (now : Timestamp) :
    g.Revalidates budget workload cls requested requestedEnergy duration now ↔
      ∃ input, g.filledInput budget cls requested requestedEnergy now = .ok input ∧
        ∃ outcome, g.engine.resolve input now = .ok outcome ∧
          outcome.verdict = .revalidationRequired :=
  decides_iff_resolve (P := (· = .revalidationRequired)) stock.burst budget workload cls requested
    requestedEnergy duration now

/-- Without an observation every decision that returns asks for revalidation, and
it returns exactly when the window spans no more than a `Duration`. -/
theorem revalidates_iff (stock : g.live.Stock) (ordered : g.live.powerWindow.Ordered)
    (never : g.live.lastObserved.isZero = true) (budget : BudgetId) (workload : WorkloadId)
    (cls : WorkloadPowerClass) (requested : Watts) (requestedEnergy : Joules) (duration : ℚ)
    (now : Timestamp) :
    g.Revalidates budget workload cls requested requestedEnergy duration now ↔
      g.live.powerWindow.Spans := by
  have decided : g.Revalidates budget workload cls requested requestedEnergy duration now ↔
      ∃ input, g.filledInput budget cls requested requestedEnergy now = .ok input := by
    rw [revalidates_iff_resolve stock]
    constructor
    · rintro ⟨input, filled, _⟩
      exact ⟨input, filled⟩
    · rintro ⟨input, filled⟩
      obtain ⟨_, current, stale⟩ := facts_of_filledInput filled
      obtain ⟨outcome, staged, asks⟩ :=
        (DecisionInput.stale_iff current).mp (stale.mpr (.inl never))
      refine ⟨input, filled, outcome, ?_, asks⟩
      unfold DecisionEngine.resolve
      rw [staged]
  rw [decided]
  unfold filledInput
  cases present : g.device with
  | none =>
      have empty : g.live.powerWindow.Spans := by
        rw [live_of_none present]
        exact fun _ member => nomatch member
      exact ⟨fun _ => empty, fun _ => ⟨_, rfl⟩⟩
  | some ds =>
      rw [if_pos Option.isSome_some, DeviceState.filled_returns_iff stock ordered]
      exact ⟨fun fits => fits.1, fun spans => ⟨spans, .inl never⟩⟩

/-- A decision at the time of the one before asks for revalidation on stale evidence,
and where every stage lets it pass and the hysteresis repeats an earlier request. -/
theorem revalidates_iff_of_instant (stock : g.live.Stock) {now : Timestamp}
    (instant : ∀ last ∈ g.engine.last, last.decidedAt = now) (budget : BudgetId)
    (workload : WorkloadId) (cls : WorkloadPowerClass) (requested : Watts)
    (requestedEnergy : Joules) (duration : ℚ) :
    g.Revalidates budget workload cls requested requestedEnergy duration now ↔
      ∃ input, g.filledInput budget cls requested requestedEnergy now = .ok input ∧
        (g.live.lastObserved.isZero = true ∨
            max g.policy.observationFreshness.ns g.policy.observationStale.ns ≤
              max 0 (now.ns - g.live.lastObserved.ns) ∨
          (∃ outcome, input.stages = .defaultAllow outcome) ∧ g.engine.Recalls g.policy) := by
  rw [revalidates_iff_resolve stock]
  refine exists_congr fun input => and_congr_right fun filled => ?_
  obtain ⟨policy, current, stale⟩ := facts_of_filledInput filled
  rw [DecisionEngine.resolve_revalidation_iff current instant, stale, policy, or_assoc]

end Governor

end PowerGovernor
