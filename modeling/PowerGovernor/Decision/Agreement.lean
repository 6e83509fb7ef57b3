import PowerGovernor.Decision.Engine

/-!
Which inputs decide alike.

Owns the part of a decision input that the verdict and the recommended limit
depend on, the verdict that the hysteresis holds, and the proof that engines with
the same last verdict answer alike on inputs that agree on that part. The workload
rule, the binding kinds and the reasons are not in it: they only reach the
explanation.
-/

set_option autoImplicit false

namespace PowerGovernor

/-- The energy an enforced window allows; a window without a budget allows any. -/
def EnergyWindow.bound (window : EnergyWindow) : Option Joules :=
  if window.enforce && decide (0 < window.budget.value) then some window.budget else none

/-- The verdict and the recommended limit. -/
abbrev Answer := DecisionVerdict × Option Watts

def Outcome.answer (outcome : Outcome) : Answer := (outcome.verdict, outcome.limit)

def Decision.answer (d : Decision) : Answer := (d.verdict, d.recommendedLimit)

namespace DecisionInput

/-- Two inputs agree on everything the answer depends on. -/
structure Alike (left right : DecisionInput) : Prop where
  requestedPower : left.requestedPower = right.requestedPower
  requestedEnergy : left.requestedEnergy = right.requestedEnergy
  energyWindowUsed : left.energyWindowUsed = right.energyWindowUsed
  policyCurrent : left.policyCurrent = right.policyCurrent
  stale : left.stale = right.stale
  ceiling : left.hardCeiling.limit = right.hardCeiling.limit
  constrained : left.constrained = right.constrained
  recovering : left.recovering = right.recovering
  softTarget : left.softTarget = right.softTarget
  burstAvailable : left.burstAvailable = right.burstAvailable
  window : left.policy.energyWindow.bound = right.policy.energyWindow.bound
  minStableDuration : left.policy.minStableDuration = right.policy.minStableDuration

theorem exceedsEnergyWindow_eq (input : DecisionInput) :
    input.exceedsEnergyWindow = input.policy.energyWindow.bound.any fun budget =>
      decide (budget.value - input.energyWindowUsed.value + slack <
        input.requestedEnergy.value) := by
  unfold exceedsEnergyWindow EnergyWindow.bound
  dsimp only
  split
  · rename_i enforced
    rw [enforced, Option.any_some, Bool.true_and]
  · rename_i free
    rw [Bool.not_eq_true] at free
    rw [free, Option.any_none, Bool.false_and]

variable {left right : DecisionInput}

/-- Two results of the stages return early together, with the same answer. -/
inductive SameStage : Staged → Staged → Prop where
  | returned {left right : Outcome} (same : left.answer = right.answer) :
      SameStage (.returned left) (.returned right)
  | defaultAllow {left right : Outcome} (same : left.answer = right.answer) :
      SameStage (.defaultAllow left) (.defaultAllow right)

theorem overCeiling_answer (input : DecisionInput) (best : HardCeiling) :
    (input.overCeiling best).answer =
      (if input.constrained then .throttle else .allowWithLimit, best.limit) := by
  unfold overCeiling Outcome.answer
  cases input.constrained with
  | true => by_cases low : input.rule.priority < 40 <;> simp [low]
  | false => cases input.recovering <;> simp

theorem sameStage_stages (alike : left.Alike right) : SameStage left.stages right.stages := by
  have under : ∀ amount, left.hardCeiling.under amount = right.hardCeiling.under amount := by
    intro amount
    unfold HardCeiling.under
    rw [alike.ceiling]
  have atMost : ∀ amount, left.hardCeiling.atMost amount = right.hardCeiling.atMost amount := by
    intro amount
    unfold HardCeiling.atMost
    rw [alike.ceiling]
  have exceedsSoft : left.exceedsSoftTarget = right.exceedsSoftTarget := by
    unfold exceedsSoftTarget
    rw [alike.softTarget, alike.requestedPower]
  have exceedsWindow : left.exceedsEnergyWindow = right.exceedsEnergyWindow := by
    rw [exceedsEnergyWindow_eq, exceedsEnergyWindow_eq, alike.window, alike.energyWindowUsed,
      alike.requestedEnergy]
  unfold stages
  dsimp only
  rw [alike.policyCurrent, alike.stale, alike.requestedPower, under, under, atMost,
    alike.constrained, alike.recovering, exceedsSoft, exceedsWindow]
  split
  · exact .returned rfl
  split
  · apply SameStage.returned
    unfold noCapacity Outcome.answer
    rw [alike.constrained, alike.ceiling]
  split
  · apply SameStage.returned
    rw [overCeiling_answer, overCeiling_answer, alike.constrained, alike.ceiling]
  split
  · apply SameStage.returned
    unfold Outcome.answer
    rw [alike.ceiling]
  split
  · apply SameStage.returned
    unfold Outcome.answer
    rw [alike.ceiling]
  split
  · apply SameStage.returned
    unfold overSoftTarget
    rw [alike.burstAvailable, alike.requestedPower, under]
    split
    · unfold Outcome.answer
      rw [alike.ceiling]
    · unfold Outcome.answer
      rw [alike.softTarget]
  split
  · apply SameStage.returned
    unfold Outcome.answer
    rw [alike.ceiling]
  · apply SameStage.defaultAllow
    unfold allowed Outcome.answer
    rw [alike.ceiling]

end DecisionInput

/-! ## The ceiling -/

namespace HardCeiling

/-- The limit `consider` leaves. -/
def lower (limit cap : Option Watts) : Option Watts :=
  match cap, limit with
  | some cap, some limit => if cap.value < limit.value then some cap else some limit
  | some cap, none => some cap
  | none, limit => limit

theorem limit_consider (best : HardCeiling) (cap : Option Watts) (kind : BindingKind) :
    (best.consider cap kind).limit = lower best.limit cap := by
  obtain ⟨limit, bindingKind⟩ := best
  unfold consider lower
  cases cap with
  | none => cases limit <;> rfl
  | some cap =>
      cases limit with
      | none => rfl
      | some limit =>
          dsimp only
          split <;> rfl

/-- Considering a cap again that was considered before changes nothing. -/
theorem lower_again (cap : Watts) (other : Option Watts) :
    lower (lower (lower none (some cap)) other) (some cap) =
      lower (lower none (some cap)) other := by
  cases other with
  | none => exact if_neg (lt_irrefl cap.value)
  | some other =>
      show lower (if other.value < cap.value then some other else some cap) (some cap) = _
      by_cases less : other.value < cap.value
      · rw [if_pos less]
        show (if cap.value < other.value then some cap else some other) = if _ then _ else _
        rw [if_neg (not_lt.mpr (le_of_lt less)), if_pos less]
      · rw [if_neg less]
        show (if cap.value < cap.value then some cap else some cap) = if _ then _ else _
        rw [if_neg (lt_irrefl cap.value), if_neg less]

end HardCeiling

namespace DecisionInput

theorem limit_hardCeiling (input : DecisionInput) : input.hardCeiling.limit =
    HardCeiling.lower (HardCeiling.lower (HardCeiling.lower none input.hardwareCap)
      input.budgetAvailable) input.thermalCeiling := by
  unfold hardCeiling
  rw [HardCeiling.limit_consider, HardCeiling.limit_consider, HardCeiling.limit_consider]

/-- Thermal ceilings that are equal, or of which one is missing and the other is
the hardware cap again. -/
def SameCeiling (cap left right : Option Watts) : Prop :=
  left = right ∨ left = none ∧ right = cap ∨ left = cap ∧ right = none

theorem limit_of_sameCeiling {left right : DecisionInput}
    (cap : left.hardwareCap = right.hardwareCap)
    (budget : left.budgetAvailable = right.budgetAvailable)
    (thermal : SameCeiling right.hardwareCap left.thermalCeiling right.thermalCeiling) :
    left.hardCeiling.limit = right.hardCeiling.limit := by
  have again : ∀ (cap other : Option Watts),
      HardCeiling.lower (HardCeiling.lower (HardCeiling.lower none cap) other) cap =
        HardCeiling.lower (HardCeiling.lower (HardCeiling.lower none cap) other) none := by
    intro cap other
    cases cap with
    | none => rfl
    | some cap =>
        rw [HardCeiling.lower_again]
        generalize HardCeiling.lower (HardCeiling.lower none (some cap)) other = limit
        cases limit <;> rfl
  rw [limit_hardCeiling, limit_hardCeiling, cap, budget]
  rcases thermal with same | ⟨missing, given⟩ | ⟨given, missing⟩
  · rw [same]
  · rw [missing, given, again]
  · rw [missing, given, again]

end DecisionInput

/-! ## The held verdict -/

namespace DecisionEngine

/-- The verdict that the hysteresis repeats in place of a default ALLOW, if any. The
comparison throws as in `hold`. -/
def held (engine : DecisionEngine) (minStable : Duration) (now : Timestamp) :
    Except Fault (Option DecisionVerdict) :=
  match engine.last with
  | none => .ok none
  | some last =>
    if last.verdict = .allow then .ok none
    else do
      let dt ← now.elapsedSince last.decidedAt
      return if dt.ns < minStable.ns then some last.verdict else none

/-- What a default outcome is answered with, given the held verdict. -/
def heldAnswer (input : DecisionInput) (outcome : Outcome) : Option DecisionVerdict → Answer
  | none => outcome.answer
  | some verdict =>
    (verdict,
      if verdict = .allowWithLimit ∧ outcome.limit = none then input.softTarget
      else outcome.limit)

variable {engine : DecisionEngine} {now : Timestamp}

/-- The hysteresis reads the engine through the held verdict only. -/
theorem hold_eq_held (engine : DecisionEngine) (input : DecisionInput) (now : Timestamp)
    (outcome : Outcome) : (engine.hold input now outcome).map Outcome.answer =
      (engine.held input.policy.minStableDuration now).map (heldAnswer input outcome) := by
  unfold hold held
  cases engine.last with
  | none => rfl
  | some last =>
      dsimp only
      split
      · rfl
      · cases now.elapsedSince last.decidedAt with
        | error fault => rfl
        | ok dt =>
            show Except.map _ (if _ then _ else _) = .ok (heldAnswer input outcome _)
            by_cases within : dt.ns < input.policy.minStableDuration.ns
            · rw [if_pos within, if_pos within]
              unfold heldAnswer
              dsimp only
              split <;> rfl
            · rw [if_neg within, if_neg within]
              rfl

/-- ALLOW is never held. -/
theorem ne_allow_of_held {minStable : Duration} {kept : Option DecisionVerdict}
    (holds : engine.held minStable now = .ok kept) : kept ≠ some .allow := by
  rintro rfl
  unfold held at holds
  cases found : engine.last with
  | none =>
      rw [found] at holds
      cases holds
  | some last =>
      rw [found] at holds
      dsimp only at holds
      by_cases released : last.verdict = .allow
      · rw [if_pos released] at holds
        cases holds
      · rw [if_neg released] at holds
        obtain ⟨dt, _, repeated⟩ := bind_eq_ok.mp holds
        have repeated := Except.ok.inj repeated
        split at repeated
        · exact released (Option.some.inj repeated)
        · cases repeated

/-- The answer to a default ALLOW tells which verdict was held. -/
theorem heldAnswer_inj {input : DecisionInput} {outcome : Outcome}
    (allow : outcome.verdict = .allow) {left right : Option DecisionVerdict}
    (notLeft : left ≠ some .allow) (notRight : right ≠ some .allow)
    (same : heldAnswer input outcome left = heldAnswer input outcome right) : left = right := by
  have verdicts := congrArg Prod.fst same
  cases left with
  | none =>
      cases right with
      | none => rfl
      | some verdict => exact absurd (congrArg some (verdicts.symm.trans allow)) notRight
  | some verdict =>
      cases right with
      | none => exact absurd (congrArg some (verdicts.trans allow)) notLeft
      | some other => exact congrArg some verdicts

/-- Two engines answer a default ALLOW alike exactly when they hold the same verdict. -/
theorem hold_answer_iff {engine' : DecisionEngine} {input : DecisionInput} {outcome : Outcome}
    (allow : outcome.verdict = .allow) :
    (engine.hold input now outcome).map Outcome.answer =
        (engine'.hold input now outcome).map Outcome.answer ↔
      engine.held input.policy.minStableDuration now =
        engine'.held input.policy.minStableDuration now := by
  rw [hold_eq_held, hold_eq_held]
  refine ⟨fun same => ?_, congrArg _⟩
  cases left : engine.held input.policy.minStableDuration now with
  | error fault =>
      cases right : engine'.held input.policy.minStableDuration now with
      | error fault' =>
          rw [left, right] at same
          exact congrArg Except.error (Except.error.inj same)
      | ok kept =>
          rw [left, right] at same
          cases same
  | ok kept =>
      cases right : engine'.held input.policy.minStableDuration now with
      | error fault =>
          rw [left, right] at same
          cases same
      | ok kept' =>
          rw [left, right] at same
          exact congrArg Except.ok (heldAnswer_inj allow (ne_allow_of_held left)
            (ne_allow_of_held right) (Except.ok.inj same))

end DecisionEngine

/-! ## Evaluations -/

namespace DecisionEngine

variable {left right : DecisionInput} {engine engine' : DecisionEngine}

theorem hold_answer (alike : left.Alike right) (last : engine.last = engine'.last)
    (now : Timestamp) {outcome outcome' : Outcome} (same : outcome.answer = outcome'.answer) :
    (engine.hold left now outcome).map Outcome.answer =
      (engine'.hold right now outcome').map Outcome.answer := by
  have kept : engine.held left.policy.minStableDuration now =
      engine'.held right.policy.minStableDuration now := by
    unfold held
    rw [last, alike.minStableDuration]
  have answered : heldAnswer left outcome = heldAnswer right outcome' := by
    obtain ⟨_, limit⟩ := Prod.mk.inj same
    funext verdict
    cases verdict with
    | none => exact same
    | some verdict =>
        unfold heldAnswer
        rw [limit, alike.softTarget]
  rw [hold_eq_held, hold_eq_held, kept, answered]

theorem resolve_answer (alike : left.Alike right) (last : engine.last = engine'.last)
    (now : Timestamp) : (engine.resolve left now).map Outcome.answer =
      (engine'.resolve right now).map Outcome.answer := by
  have together := DecisionInput.sameStage_stages alike
  unfold resolve
  generalize left.stages = stagedLeft at together
  generalize right.stages = stagedRight at together
  cases together with
  | returned same => exact congrArg Except.ok same
  | defaultAllow same => exact hold_answer alike last now same

/-- The answer of an evaluation and the verdict it records. -/
theorem evaluate_answer (alike : left.Alike right) (last : engine.last = engine'.last)
    (ids ids' : Allocators) (now : Timestamp) :
    (engine.evaluate ids left now).map (fun done => (done.1.answer, done.2.1.last)) =
      (engine'.evaluate ids' right now).map fun done => (done.1.answer, done.2.1.last) := by
  have resolved := resolve_answer alike last now
  have recorded : ∀ (engine : DecisionEngine) (ids : Allocators) (input : DecisionInput),
      (engine.evaluate ids input now).map (fun done => (done.1.answer, done.2.1.last)) =
        ((engine.resolve input now).map Outcome.answer).map fun answer =>
          (answer, some ⟨answer.1, now⟩) := by
    intro engine ids input
    unfold evaluate
    cases engine.resolve input now <;> rfl
  rw [recorded, recorded, resolved]

/-- On stale evidence every engine asks for revalidation. -/
theorem evaluate_stale {input : DecisionInput} (stale : input.stale = true)
    (engine : DecisionEngine) (ids : Allocators) (now : Timestamp) :
    (engine.evaluate ids input now).map (fun done => (done.1.answer, done.2.1.last)) =
      .ok ((.revalidationRequired, none), some ⟨.revalidationRequired, now⟩) := by
  have returned : input.stages = .returned input.revalidation := by
    unfold DecisionInput.stages
    rw [stale, Bool.or_true]
    rfl
  unfold evaluate resolve
  rw [returned]
  rfl

end DecisionEngine

end PowerGovernor
