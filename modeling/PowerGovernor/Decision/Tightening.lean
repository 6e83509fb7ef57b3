import PowerGovernor.Decision.Explanation

/-!
What the early returns of `evaluate` skip.

Owns the order of the verdicts by restriction, inputs with tighter caps, and the two
rules that an early return can bypass: an enforced energy window, and the monotonicity
of the decision in the caps. Both fail where stage 4 answers before the soft target
and the energy window have been looked at.
-/

set_option autoImplicit false

namespace PowerGovernor

/-! ## The energy window -/

namespace DecisionEngine

variable {engine : DecisionEngine} {input : DecisionInput} {now : Timestamp}

theorem forall_decision_of_returned {ids : Allocators} {P : Decision → Prop} {outcome : Outcome}
    (staged : input.stages = .returned outcome) :
    (∀ d engine' ids', engine.evaluate ids input now = .ok (d, engine', ids') → P d) ↔
      P (engine.makeVerdict ids input now outcome).1 := by
  rw [forall_decision_iff, resolve_of_returned staged]
  simp only [Except.ok.injEq, forall_eq']

/-- A window of 10 J with 9 J used, a request of 5 J for 250 W, and the given hardware cap. -/
def windowInput (cap : Option Watts) : DecisionInput :=
  let policy := PowerPolicy.defaults ⟨1⟩ []
  { DecisionInput.blank
      { policy with
        energyWindow := { policy.energyWindow with
          enforce := true, budget := Joules.clamped 10 } } with
    policyCurrent := true
    powerFreshness := .current
    energyWindowUsed := Joules.clamped 9
    requestedEnergy := Joules.clamped 5
    requestedPower := Watts.clamped 250
    hardwareCap := cap }

end DecisionEngine

/-! ## Tighter caps -/

/-- The order of the verdicts by restriction, as far as there is one. -/
def DecisionVerdict.restriction : DecisionVerdict → Option Nat
  | .allow => some 0
  | .allowWithLimit => some 1
  | .throttle => some 2
  | .defer => some 3
  | .reject => some 4
  | .drainRecommended | .revalidationRequired | .unknown => none

/-- A verdict is at least as restrictive as another one. -/
def DecisionVerdict.AtLeast (verdict least : DecisionVerdict) : Prop :=
  verdict = least ∨ (least.restriction.any fun i =>
    verdict.restriction.any fun j => decide (i ≤ j)) = true

instance (verdict least : DecisionVerdict) : Decidable (verdict.AtLeast least) := by
  unfold DecisionVerdict.AtLeast
  infer_instance

/-- An answer is no looser than another one: its verdict is at least as restrictive, and
its limit, where both have one, is not larger. -/
def NoLooser (answer before : Answer) : Prop :=
  answer.1.AtLeast before.1 ∧ ∀ limit limit', before.2 = some limit → answer.2 = some limit' →
    limit'.value ≤ limit.value

/-- A cap that is as large, smaller or newly present. -/
def TighterCap (cap before : Option Watts) : Prop :=
  ∀ bound, before = some bound → ∃ lower, cap = some lower ∧ lower.value ≤ bound.value

namespace DecisionInput

/-- The input with other caps. -/
def withCaps (input : DecisionInput) (hardware budget thermal : Option Watts) : DecisionInput :=
  { input with
    hardwareCap := hardware
    budgetAvailable := budget
    thermalCeiling := thermal }

/-- `tighter` differs from the input in its caps alone, and each is tighter. -/
structure TightenedTo (input tighter : DecisionInput) : Prop where
  only : tighter = input.withCaps tighter.hardwareCap tighter.budgetAvailable
    tighter.thermalCeiling
  hardware : TighterCap tighter.hardwareCap input.hardwareCap
  budget : TighterCap tighter.budgetAvailable input.budgetAvailable
  thermal : TighterCap tighter.thermalCeiling input.thermalCeiling

variable {input tighter : DecisionInput}

theorem TightenedTo.isCap (tightened : input.TightenedTo tighter) {cap : Watts}
    (isCap : input.IsCap cap) : ∃ lower, tighter.IsCap lower ∧ lower.value ≤ cap.value := by
  rcases isCap with hardware | budget | thermal
  · obtain ⟨lower, found, below⟩ := tightened.hardware cap hardware
    exact ⟨lower, .inl found, below⟩
  · obtain ⟨lower, found, below⟩ := tightened.budget cap budget
    exact ⟨lower, .inr (.inl found), below⟩
  · obtain ⟨lower, found, below⟩ := tightened.thermal cap thermal
    exact ⟨lower, .inr (.inr found), below⟩

/-- What does not depend on the caps. -/
structure SameBesideCaps (input tighter : DecisionInput) : Prop where
  requestedPower : tighter.requestedPower = input.requestedPower
  current : tighter.Current ↔ input.Current
  constrained : tighter.constrained = input.constrained
  recovering : tighter.recovering = input.recovering
  softTarget : tighter.softTarget = input.softTarget
  burstAvailable : tighter.burstAvailable = input.burstAvailable
  exceedsSoftTarget : tighter.exceedsSoftTarget = input.exceedsSoftTarget
  exceedsEnergyWindow : tighter.exceedsEnergyWindow = input.exceedsEnergyWindow

theorem TightenedTo.same (tightened : input.TightenedTo tighter) :
    input.SameBesideCaps tighter := by
  rw [tightened.only]
  exact ⟨rfl, ⟨fun current => ⟨current.1, current.2⟩, fun current => ⟨current.1, current.2⟩⟩, rfl,
    rfl, rfl, rfl, rfl, rfl⟩

theorem TightenedTo.exhausted (tightened : input.TightenedTo tighter)
    (exhausted : input.exhausted = true) : tighter.exhausted = true := by
  obtain ⟨cap, isCap, below, spent⟩ := exhausted_iff.mp exhausted
  obtain ⟨lower, isLower, lowered⟩ := tightened.isCap isCap
  rw [exhausted_iff, tightened.same.requestedPower]
  exact ⟨lower, isLower, lowered.trans_lt below, lowered.trans spent⟩

theorem TightenedTo.exceedsCeiling (tightened : input.TightenedTo tighter)
    (exceeds : input.exceedsCeiling = true) : tighter.exceedsCeiling = true := by
  obtain ⟨cap, isCap, below⟩ := exceedsCeiling_iff.mp exceeds
  obtain ⟨lower, isLower, lowered⟩ := tightened.isCap isCap
  rw [exceedsCeiling_iff, tightened.same.requestedPower]
  exact ⟨lower, isLower, (add_le_add_left lowered slack).trans_lt below⟩

theorem TightenedTo.limit_le (tightened : input.TightenedTo tighter) {limit limit' : Watts}
    (found : input.hardCeiling.limit = some limit)
    (found' : tighter.hardCeiling.limit = some limit') : limit'.value ≤ limit.value := by
  obtain ⟨lower, isLower, lowered⟩ := tightened.isCap (isCap_of_hardCeiling found)
  obtain ⟨least, leastFound, below⟩ := hardCeiling_le isLower
  obtain rfl := Option.some.inj (found'.symm.trans leastFound)
  exact below.trans lowered

/-- The answer of the stages on current evidence. -/
theorem answer_of_current (current : input.Current) : input.stages.outcome.answer =
    if input.exhausted then
      (if input.constrained then .defer else .reject, input.hardCeiling.limit)
    else if input.exceedsCeiling then
      (if input.constrained then .throttle else .allowWithLimit, input.hardCeiling.limit)
    else if input.constrained then (.throttle, input.hardCeiling.limit)
    else if input.recovering then (.allowWithLimit, input.hardCeiling.limit)
    else if input.exceedsSoftTarget then
      if input.burstCovers then (.allow, input.hardCeiling.limit)
      else (.allowWithLimit, input.softTarget)
    else if input.exceedsEnergyWindow then (.throttle, input.hardCeiling.limit)
    else (.allow, input.hardCeiling.limit) := by
  rw [stages_of_current current]
  split
  · rfl
  split
  · exact input.overCeiling_answer input.hardCeiling
  split
  · rfl
  split
  · rfl
  split
  · cases covers : input.burstCovers with
    | true =>
        rw [overSoftTarget_of_covered covers]
        rfl
    | false =>
        rw [overSoftTarget_of_uncovered covers]
        rfl
  split
  · rfl
  · rfl

/-- The tighter caps stop a request at stage 3 or 4 that passes both under the looser caps,
and skip what the looser caps had led to: a soft target below the ceiling, or the refusal
of the energy window. -/
structure LoosenedBy (input tighter : DecisionInput) : Prop where
  current : input.Current
  capacity : input.exhausted = false
  within : input.exceedsCeiling = false
  free : input.constrained = false
  recovered : input.recovering = false
  stopped : tighter.exhausted = true ∨ tighter.exceedsCeiling = true
  skipped :
    (input.exceedsSoftTarget = true ∧ input.burstCovers = false ∧
      ∃ target, input.softTarget = some target ∧
        ∀ cap, tighter.IsCap cap → target.value < cap.value) ∨
    (input.exceedsSoftTarget = false ∧ input.exceedsEnergyWindow = true ∧
      tighter.exhausted = false)

/-- A tighter request within the caps was within the looser ones, so a burst that covers
it covered it before. -/
theorem TightenedTo.burstCovers (tightened : input.TightenedTo tighter)
    (covers : tighter.burstCovers = true) : input.burstCovers = true := by
  have same := tightened.same
  obtain ⟨burst, within⟩ := Bool.and_eq_true_iff.mp covers
  refine Bool.and_eq_true_iff.mpr ⟨same.burstAvailable.symm.trans burst, ?_⟩
  rw [Bool.not_eq_true', Bool.eq_false_iff, ne_eq, under_iff] at within ⊢
  rintro ⟨cap, isCap, below⟩
  obtain ⟨lower, isLower, lowered⟩ := tightened.isCap isCap
  exact within ⟨lower, isLower, same.requestedPower ▸ lowered.trans_lt below⟩

/-- A covered request exceeds the soft target and lies within the ceiling. -/
theorem target_le_ceiling (exceeds : input.exceedsSoftTarget = true)
    (covers : input.burstCovers = true) {target limit : Watts}
    (targeted : input.softTarget = some target) (found : input.hardCeiling.limit = some limit) :
    target.value ≤ limit.value := by
  obtain ⟨other, same, below⟩ := exceedsSoftTarget_iff.mp exceeds
  obtain rfl := Option.some.inj (targeted.symm.trans same)
  have within := (Bool.and_eq_true_iff.mp covers).2
  rw [Bool.not_eq_true'] at within
  exact below.le.trans (HardCeiling.le_of_not_under within found)

/-- The limit of a stopped request is larger than the soft target exactly where every
cap is. -/
theorem ceiling_le_target_iff (exceeds : input.exceedsSoftTarget = true)
    (capped : ∃ cap, tighter.IsCap cap) :
    (∀ target limit, input.softTarget = some target → tighter.hardCeiling.limit = some limit →
      limit.value ≤ target.value) ↔
    ¬ ∃ target, input.softTarget = some target ∧
      ∀ cap, tighter.IsCap cap → target.value < cap.value := by
  obtain ⟨target, targeted, _⟩ := exceedsSoftTarget_iff.mp exceeds
  obtain ⟨some', isCap⟩ := capped
  obtain ⟨limit, found, _⟩ := hardCeiling_le isCap
  constructor
  · rintro below ⟨target, targeted, above⟩
    exact absurd (above limit (isCap_of_hardCeiling found)) (not_lt.mpr (below _ _ targeted found))
  · intro refuted target' limit' targeted' found'
    by_contra above
    refine refuted ⟨target', targeted', fun cap isCap => ?_⟩
    obtain ⟨least, leastFound, below⟩ := hardCeiling_le isCap
    obtain rfl := Option.some.inj (found'.symm.trans leastFound)
    exact (not_le.mp above).trans_le below

/-- Where both answers carry the ceiling only the verdicts are compared. -/
theorem TightenedTo.ceilings (tightened : input.TightenedTo tighter)
    {verdict verdict' : DecisionVerdict} (restrictive : verdict'.AtLeast verdict) :
    NoLooser (verdict', tighter.hardCeiling.limit) (verdict, input.hardCeiling.limit) :=
  ⟨restrictive, fun _ _ found found' => tightened.limit_le found found'⟩

section Passing

variable (tightened : input.TightenedTo tighter) (current : input.Current)
  (capacity : input.exhausted = false) (within : input.exceedsCeiling = false)
  (free : input.constrained = false) (recovered : input.recovering = false)

include tightened current free recovered

/-- The answer under the tighter caps to a request that reached the soft target. -/
theorem answer_of_passing : tighter.stages.outcome.answer =
    if tighter.exhausted then (.reject, tighter.hardCeiling.limit)
    else if tighter.exceedsCeiling then (.allowWithLimit, tighter.hardCeiling.limit)
    else if input.exceedsSoftTarget then
      if tighter.burstCovers then (.allow, tighter.hardCeiling.limit)
      else (.allowWithLimit, input.softTarget)
    else if input.exceedsEnergyWindow then (.throttle, tighter.hardCeiling.limit)
    else (.allow, tighter.hardCeiling.limit) := by
  have same := tightened.same
  rw [answer_of_current (same.current.mpr current), same.constrained, same.recovering,
    same.softTarget, same.exceedsSoftTarget, same.exceedsEnergyWindow, free, recovered]
  rfl

include capacity within

/-- Tighter caps and a request over the soft target that no burst covered. -/
theorem noLooser_target_iff (exceeds : input.exceedsSoftTarget = true)
    (uncovered : input.burstCovers = false) :
    NoLooser tighter.stages.outcome.answer (.allowWithLimit, input.softTarget) ↔
      ¬ input.LoosenedBy tighter := by
  have loosened_iff : input.LoosenedBy tighter ↔
      (tighter.exhausted = true ∨ tighter.exceedsCeiling = true) ∧
        ∃ target, input.softTarget = some target ∧
          ∀ cap, tighter.IsCap cap → target.value < cap.value := by
    constructor
    · rintro ⟨_, _, _, _, _, stopped, ⟨_, _, above⟩ | ⟨modest, _⟩⟩
      · exact ⟨stopped, above⟩
      · cases modest.symm.trans exceeds
    · rintro ⟨stopped, above⟩
      exact ⟨current, capacity, within, free, recovered, stopped, .inl ⟨exceeds, uncovered, above⟩⟩
  rw [answer_of_passing tightened current free recovered, loosened_iff, exceeds]
  cases exhausted : tighter.exhausted with
  | true =>
      obtain ⟨cap, isCap, _⟩ := exhausted_iff.mp exhausted
      have limits := ceiling_le_target_iff exceeds ⟨cap, isCap⟩
      rw [and_iff_right (.inl rfl), ← limits]
      have rejects : DecisionVerdict.reject.AtLeast .allowWithLimit := by decide
      exact ⟨fun no => no.2, fun below => ⟨rejects, below⟩⟩
  | false =>
  cases stopped : tighter.exceedsCeiling with
  | true =>
      obtain ⟨cap, isCap, _⟩ := exceedsCeiling_iff.mp stopped
      have limits := ceiling_le_target_iff exceeds ⟨cap, isCap⟩
      rw [and_iff_right (.inr rfl), ← limits]
      exact ⟨fun no => no.2, fun below => ⟨.inl rfl, below⟩⟩
  | false =>
      have uncovered' : tighter.burstCovers = false := by
        cases covers : tighter.burstCovers with
        | false => rfl
        | true => cases uncovered.symm.trans (tightened.burstCovers covers)
      rw [uncovered']
      refine iff_of_true ⟨.inl rfl, fun limit limit' found found' => ?_⟩ ?_
      · obtain rfl := Option.some.inj (found.symm.trans found')
        exact le_rfl
      · rintro ⟨stopped | stopped, _⟩ <;> cases stopped

/-- Tighter caps and a request that the energy window refused. -/
theorem noLooser_window_iff (modest : input.exceedsSoftTarget = false)
    (window : input.exceedsEnergyWindow = true) :
    NoLooser tighter.stages.outcome.answer (.throttle, input.hardCeiling.limit) ↔
      ¬ input.LoosenedBy tighter := by
  have loosened_iff : input.LoosenedBy tighter ↔
      tighter.exhausted = false ∧ tighter.exceedsCeiling = true := by
    constructor
    · rintro ⟨_, _, _, _, _, stopped, ⟨exceeds, _⟩ | ⟨_, _, capacity'⟩⟩
      · cases modest.symm.trans exceeds
      · exact ⟨capacity', stopped.resolve_left (Bool.eq_false_iff.mp capacity')⟩
    · rintro ⟨capacity', stopped⟩
      exact ⟨current, capacity, within, free, recovered, .inr stopped,
        .inr ⟨modest, window, capacity'⟩⟩
  rw [answer_of_passing tightened current free recovered, loosened_iff, modest, window]
  cases tighter.exhausted with
  | true => exact iff_of_true (tightened.ceilings (by decide)) (fun both => nomatch both.1)
  | false =>
  cases tighter.exceedsCeiling with
  | true =>
      have looser : ¬ DecisionVerdict.allowWithLimit.AtLeast .throttle := by decide
      exact iff_of_false (fun no => looser no.1) (not_not.mpr ⟨rfl, rfl⟩)
  | false => exact iff_of_true (tightened.ceilings (.inl rfl)) (fun both => nomatch both.2)

omit capacity within

/-- Nothing is looser than an ALLOW: not under a burst that covered the request. -/
theorem noLooser_covered (exceeds : input.exceedsSoftTarget = true)
    (covers : input.burstCovers = true) :
    NoLooser tighter.stages.outcome.answer (.allow, input.hardCeiling.limit) := by
  rw [answer_of_passing tightened current free recovered, exceeds]
  cases tighter.exhausted with
  | true => exact tightened.ceilings (by decide)
  | false =>
  cases tighter.exceedsCeiling with
  | true => exact tightened.ceilings (by decide)
  | false =>
  cases tighter.burstCovers with
  | true => exact tightened.ceilings (.inl rfl)
  | false =>
      have limits : DecisionVerdict.allowWithLimit.AtLeast .allow := by decide
      refine ⟨limits, fun limit target found targeted => ?_⟩
      exact target_le_ceiling exceeds covers targeted found

/-- And not by default. -/
theorem noLooser_allowed (modest : input.exceedsSoftTarget = false)
    (inWindow : input.exceedsEnergyWindow = false) :
    NoLooser tighter.stages.outcome.answer (.allow, input.hardCeiling.limit) := by
  rw [answer_of_passing tightened current free recovered, modest, inWindow]
  cases tighter.exhausted <;> cases tighter.exceedsCeiling <;>
    exact tightened.ceilings (by decide)

end Passing

theorem noLooser_iff (tightened : input.TightenedTo tighter) :
    NoLooser tighter.stages.outcome.answer input.stages.outcome.answer ↔
      ¬ input.LoosenedBy tighter := by
  have same := tightened.same
  by_cases current : input.Current
  · have after := answer_of_current (same.current.mpr current)
    rw [same.constrained, same.recovering] at after
    rw [answer_of_current current]
    cases exhausted : input.exhausted with
    | true =>
        rw [after, tightened.exhausted exhausted]
        refine iff_of_true (tightened.ceilings (.inl rfl)) fun loosened => ?_
        cases loosened.capacity.symm.trans exhausted
    | false =>
    cases exceeds : input.exceedsCeiling with
    | true =>
        rw [after, tightened.exceedsCeiling exceeds]
        refine iff_of_true ?_ fun loosened => ?_
        · cases tighter.exhausted <;> cases input.constrained <;>
            exact tightened.ceilings (by decide)
        · cases loosened.within.symm.trans exceeds
    | false =>
    cases constrained : input.constrained with
    | true =>
        rw [after, constrained]
        refine iff_of_true ?_ fun loosened => ?_
        · cases tighter.exhausted <;> cases tighter.exceedsCeiling <;>
            exact tightened.ceilings (by decide)
        · cases loosened.free.symm.trans constrained
    | false =>
    cases recovering : input.recovering with
    | true =>
        rw [after, constrained, recovering]
        refine iff_of_true ?_ fun loosened => ?_
        · cases tighter.exhausted <;> cases tighter.exceedsCeiling <;>
            exact tightened.ceilings (by decide)
        · cases loosened.recovered.symm.trans recovering
    | false =>
    cases exceedsSoft : input.exceedsSoftTarget with
    | true =>
        cases covers : input.burstCovers with
        | true =>
            refine iff_of_true (noLooser_covered tightened current constrained recovering
              exceedsSoft covers) fun loosened => ?_
            rcases loosened.skipped with ⟨_, uncovered, _⟩ | ⟨modest, _⟩
            · cases uncovered.symm.trans covers
            · cases modest.symm.trans exceedsSoft
        | false =>
            exact noLooser_target_iff tightened current exhausted exceeds constrained recovering
              exceedsSoft covers
    | false =>
    cases window : input.exceedsEnergyWindow with
    | true =>
        exact noLooser_window_iff tightened current exhausted exceeds constrained recovering
          exceedsSoft window
    | false =>
        refine iff_of_true (noLooser_allowed tightened current constrained recovering exceedsSoft
          window) fun loosened => ?_
        rcases loosened.skipped with ⟨beyond, _⟩ | ⟨_, beyond, _⟩
        · cases exceedsSoft.symm.trans beyond
        · cases window.symm.trans beyond
  · have stale := stages_of_not_current current
    have stale' := stages_of_not_current (same.current.not.mpr current)
    rw [stale, stale']
    exact iff_of_true ⟨.inl rfl, nofun⟩ fun loosened => current loosened.current

end DecisionInput

namespace DecisionEngine

/-- Tighter caps loosen no decision, except where they stop the request before the soft
target or the energy window is looked at. -/
theorem tightening_loosens_nothing_iff (engine engine' : DecisionEngine) (ids ids' : Allocators)
    (input tighter : DecisionInput) (now now' : Timestamp)
    (tightened : input.TightenedTo tighter) :
    (∀ d after allocators, engine.resetHysteresis.evaluate ids input now =
        .ok (d, after, allocators) →
      ∀ d' after' allocators', engine'.resetHysteresis.evaluate ids' tighter now' =
          .ok (d', after', allocators') → NoLooser d'.answer d.answer) ↔
      ¬ input.LoosenedBy tighter := by
  rw [forall_reset_decision_iff, forall_reset_decision_iff]
  exact DecisionInput.noLooser_iff tightened

/-- A request of 250 W over a soft target of 200 W, with a device cap of 300 W and of 150 W:
the limit falls with the cap. -/
theorem tightening_loosens_nothing_soft :
    ∃ d after allocators, (construct .first).resetHysteresis.evaluate .start softLimited
        Timestamp.zero = .ok (d, after, allocators) ∧
      ∃ d' after' allocators', (construct .first).resetHysteresis.evaluate .start
          { softLimited with hardwareCap := some (Watts.clamped 150) } Timestamp.zero =
          .ok (d', after', allocators') ∧ NoLooser d'.answer d.answer := by
  have lowered : TighterCap (some (Watts.clamped 150)) softLimited.hardwareCap := by
    intro bound found
    obtain rfl := Option.some.inj found
    exact ⟨_, rfl, by decide +kernel⟩
  have kept : ¬ softLimited.LoosenedBy
      { softLimited with hardwareCap := some (Watts.clamped 150) } := by
    intro loosened
    rcases loosened.skipped with ⟨_, _, target, targeted, above⟩ | ⟨modest, _⟩
    · obtain rfl := Option.some.inj targeted
      exact absurd (above _ (.inl rfl)) (by decide +kernel)
    · exact absurd modest (by decide +kernel)
  have noLooser := (tightening_loosens_nothing_iff (construct .first) (construct .first) .start
    .start softLimited { softLimited with hardwareCap := some (Watts.clamped 150) } Timestamp.zero
    Timestamp.zero ⟨rfl, lowered, nofun, nofun⟩).mpr kept
  have evaluated := evaluate_resetHysteresis (construct .first) .start softLimited Timestamp.zero
  have evaluated' := evaluate_resetHysteresis (construct .first) .start
    { softLimited with hardwareCap := some (Watts.clamped 150) } Timestamp.zero
  exact ⟨_, _, _, evaluated, _, _, _, evaluated', noLooser _ _ _ evaluated _ _ _ evaluated'⟩

/-- A new cap of 100 W turns the refusal of the energy window into a limit verdict. -/
theorem tightening_loosens :
    ¬ ∀ (engine engine' : DecisionEngine) (ids ids' : Allocators) (input tighter : DecisionInput)
      (now now' : Timestamp), input.TightenedTo tighter →
      ∀ d after allocators, engine.resetHysteresis.evaluate ids input now =
          .ok (d, after, allocators) →
        ∀ d' after' allocators', engine'.resetHysteresis.evaluate ids' tighter now' =
            .ok (d', after', allocators') → NoLooser d'.answer d.answer := by
  intro claimed
  have tightened : (windowInput none).TightenedTo (windowInput (some (Watts.clamped 100))) :=
    ⟨rfl, nofun, nofun, nofun⟩
  have answers : (windowInput none).stages.outcome.verdict = .throttle ∧
      (windowInput (some (Watts.clamped 100))).stages.outcome.verdict = .allowWithLimit := by
    decide +kernel
  have noLooser := forall_reset_decision_iff.mp (forall_reset_decision_iff.mp
    (claimed (construct .first) (construct .first) .start .start _ _ Timestamp.zero
      Timestamp.zero tightened))
  have verdicts : (windowInput (some (Watts.clamped 100))).stages.outcome.verdict.AtLeast
      (windowInput none).stages.outcome.verdict := noLooser.1
  rw [answers.1, answers.2] at verdicts
  exact absurd verdicts (by decide)

end DecisionEngine

end PowerGovernor
