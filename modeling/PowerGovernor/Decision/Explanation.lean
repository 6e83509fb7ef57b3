import PowerGovernor.Decision.Agreement
import PowerGovernor.Decision.Hysteresis

/-!
What a decision names as its limit.

Owns the stages as one equation on current evidence, the input that a binding kind
names, the fields the hysteresis leaves in an outcome, and when the explanation tells
the truth: when a limit verdict carries the limit it names, and when the constraint it
names is one the request exceeds.
-/

set_option autoImplicit false

namespace PowerGovernor

namespace DecisionInput

variable {input : DecisionInput}

/-! ## The stages on current evidence -/

/-- The first stage lets the request pass. -/
structure Current (input : DecisionInput) : Prop where
  policyCurrent : input.policyCurrent = true
  notStale : input.stale = false

/-- Stage 3 refuses the request. -/
def exhausted (input : DecisionInput) : Bool :=
  input.hardCeiling.under input.requestedPower.value && input.hardCeiling.atMost slack

/-- Stage 4 answers the request. -/
def exceedsCeiling (input : DecisionInput) : Bool :=
  input.hardCeiling.under (input.requestedPower.value - slack)

/-- A burst covers a request over the soft target. -/
def burstCovers (input : DecisionInput) : Bool :=
  input.burstAvailable && !input.hardCeiling.under input.requestedPower.value

theorem overSoftTarget_of_covered (covers : input.burstCovers = true) :
    input.overSoftTarget input.hardCeiling =
      ⟨.allow, ["burst budget covers temporary over-soft-target demand"],
        input.hardCeiling.limit, input.hardCeiling.bindingKind⟩ :=
  if_pos covers

theorem overSoftTarget_of_uncovered (uncovered : input.burstCovers = false) :
    input.overSoftTarget input.hardCeiling =
      ⟨.allowWithLimit, ["requested power exceeds soft target; limited (no burst capacity)"],
        input.softTarget, .softTarget⟩ :=
  if_neg (Bool.eq_false_iff.mp uncovered)

theorem stages_of_current (current : input.Current) : input.stages =
    if input.exhausted then .returned (input.noCapacity input.hardCeiling)
    else if input.exceedsCeiling then .returned (input.overCeiling input.hardCeiling)
    else if input.constrained then
      .returned ⟨.throttle, ["device thermally constrained"], input.hardCeiling.limit,
        input.hardCeiling.bindingKind⟩
    else if input.recovering then
      .returned ⟨.allowWithLimit, ["thermal recovery in progress; limited to ceiling"],
        input.hardCeiling.limit, input.hardCeiling.bindingKind⟩
    else if input.exceedsSoftTarget then .returned (input.overSoftTarget input.hardCeiling)
    else if input.exceedsEnergyWindow then
      .returned ⟨.throttle, ["energy window would be exceeded"], input.hardCeiling.limit,
        input.hardCeiling.bindingKind⟩
    else .defaultAllow (input.allowed input.hardCeiling) := by
  unfold stages exhausted exceedsCeiling
  rw [current.policyCurrent, current.notStale]
  rfl

/-- The stage that decides on current evidence, with the conditions of the stages before
it: unlike `DecidedBy` one case excludes the others. -/
inductive SettledBy (input : DecisionInput) : Staged → Prop where
  | exhausted (exhausted : input.exhausted = true) :
      SettledBy input (.returned (input.noCapacity input.hardCeiling))
  | ceiling (capacity : input.exhausted = false) (exceeds : input.exceedsCeiling = true) :
      SettledBy input (.returned (input.overCeiling input.hardCeiling))
  | constrained (capacity : input.exhausted = false) (within : input.exceedsCeiling = false)
      (constrained : input.constrained = true) :
      SettledBy input (.returned ⟨.throttle, ["device thermally constrained"],
        input.hardCeiling.limit, input.hardCeiling.bindingKind⟩)
  | recovering (capacity : input.exhausted = false) (within : input.exceedsCeiling = false)
      (free : input.constrained = false) (recovering : input.recovering = true) :
      SettledBy input (.returned ⟨.allowWithLimit,
        ["thermal recovery in progress; limited to ceiling"], input.hardCeiling.limit,
        input.hardCeiling.bindingKind⟩)
  | softTarget (capacity : input.exhausted = false) (within : input.exceedsCeiling = false)
      (free : input.constrained = false) (recovered : input.recovering = false)
      (exceeds : input.exceedsSoftTarget = true) :
      SettledBy input (.returned (input.overSoftTarget input.hardCeiling))
  | energyWindow (capacity : input.exhausted = false) (within : input.exceedsCeiling = false)
      (free : input.constrained = false) (recovered : input.recovering = false)
      (modest : input.exceedsSoftTarget = false) (exceeds : input.exceedsEnergyWindow = true) :
      SettledBy input (.returned ⟨.throttle, ["energy window would be exceeded"],
        input.hardCeiling.limit, input.hardCeiling.bindingKind⟩)
  | allowed (capacity : input.exhausted = false) (within : input.exceedsCeiling = false)
      (free : input.constrained = false) (recovered : input.recovering = false)
      (modest : input.exceedsSoftTarget = false) (inWindow : input.exceedsEnergyWindow = false) :
      SettledBy input (.defaultAllow (input.allowed input.hardCeiling))

theorem settledBy (current : input.Current) : input.SettledBy input.stages := by
  rw [stages_of_current current]
  cases exhausted : input.exhausted with
  | true => exact .exhausted exhausted
  | false =>
  cases exceeded : input.exceedsCeiling with
  | true => exact .ceiling exhausted exceeded
  | false =>
  cases constrained : input.constrained with
  | true => exact .constrained exhausted exceeded constrained
  | false =>
  cases recovering : input.recovering with
  | true => exact .recovering exhausted exceeded constrained recovering
  | false =>
  cases target : input.exceedsSoftTarget with
  | true => exact .softTarget exhausted exceeded constrained recovering target
  | false =>
  cases window : input.exceedsEnergyWindow with
  | true => exact .energyWindow exhausted exceeded constrained recovering target window
  | false => exact .allowed exhausted exceeded constrained recovering target window

theorem stages_of_not_current (notCurrent : ¬ input.Current) :
    input.stages = .returned input.revalidation := by
  unfold stages
  cases policy : input.policyCurrent with
  | false => rfl
  | true =>
      cases stale : input.stale with
      | true => rfl
      | false => exact absurd ⟨policy, stale⟩ notCurrent

/-! ## The constraint a kind names -/

/-- The cap or target of the input that a binding kind names. -/
def named (input : DecisionInput) : BindingKind → Option Watts
  | .deviceHardCap => input.hardwareCap
  | .budget => input.budgetAvailable
  | .thermal => input.thermalCeiling
  | .softTarget => input.softTarget
  | .none | .freshness => none

theorem named_consider {best : HardCeiling} (before : input.named best.bindingKind = best.limit)
    (kind : BindingKind) :
    input.named (best.consider (input.named kind) kind).bindingKind =
      (best.consider (input.named kind) kind).limit := by
  unfold HardCeiling.consider
  cases cap : input.named kind with
  | none => exact before
  | some cap' =>
      cases limit : best.limit with
      | none => exact cap
      | some limit' =>
          dsimp only
          by_cases less : cap'.value < limit'.value
          · rw [if_pos less]
            exact cap
          · rw [if_neg less]
            exact before

/-- The kind of the ceiling names the cap that is the ceiling, or nothing without one. -/
theorem named_hardCeiling (input : DecisionInput) :
    input.named input.hardCeiling.bindingKind = input.hardCeiling.limit := by
  have start : input.named .none = none := rfl
  exact named_consider (named_consider (named_consider start .deviceHardCap) .budget) .thermal

/-- The ceiling is one of the caps. -/
theorem isCap_of_hardCeiling {limit : Watts} (found : input.hardCeiling.limit = some limit) :
    input.IsCap limit := by
  have either : ∀ {before cap : Option Watts}, HardCeiling.lower before cap = some limit →
      before = some limit ∨ cap = some limit := by
    intro before cap lowered
    unfold HardCeiling.lower at lowered
    cases cap with
    | none => cases before <;> exact .inl lowered
    | some cap =>
        cases before with
        | none => exact .inr lowered
        | some before =>
            dsimp only at lowered
            split at lowered
            · exact .inr lowered
            · exact .inl lowered
  rw [limit_hardCeiling] at found
  rcases either found with found | thermal
  · rcases either found with found | budget
    · rcases either found with missing | hardware
      · cases missing
      · exact .inl hardware
    · exact .inr (.inl budget)
  · exact .inr (.inr thermal)

theorem exists_isCap_iff {P : ℚ → Prop} (downward : ∀ low high, low ≤ high → P high → P low) :
    (∃ limit, input.hardCeiling.limit = some limit ∧ P limit.value) ↔
      ∃ cap, input.IsCap cap ∧ P cap.value := by
  constructor
  · rintro ⟨limit, found, holds⟩
    exact ⟨limit, isCap_of_hardCeiling found, holds⟩
  · rintro ⟨cap, isCap, holds⟩
    obtain ⟨limit, found, least⟩ := hardCeiling_le isCap
    exact ⟨limit, found, downward _ _ least holds⟩

theorem under_iff {amount : ℚ} : input.hardCeiling.under amount = true ↔
    ∃ cap, input.IsCap cap ∧ cap.value < amount := by
  rw [← exists_isCap_iff fun _ _ => lt_of_le_of_lt]
  unfold HardCeiling.under
  simp [Option.any_eq_true]

theorem exhausted_iff : input.exhausted = true ↔
    ∃ cap, input.IsCap cap ∧ cap.value < input.requestedPower.value ∧ cap.value ≤ slack := by
  rw [← exists_isCap_iff (P := fun value => value < input.requestedPower.value ∧ value ≤ slack)]
  · unfold exhausted HardCeiling.under HardCeiling.atMost
    cases input.hardCeiling.limit <;> simp
  · exact fun _ _ below both => ⟨below.trans_lt both.1, below.trans both.2⟩

theorem exceedsCeiling_iff : input.exceedsCeiling = true ↔
    ∃ cap, input.IsCap cap ∧ cap.value + slack < input.requestedPower.value := by
  simp only [← lt_sub_iff_add_lt]
  exact under_iff

theorem hardCeiling_eq_none_iff :
    input.hardCeiling.limit = none ↔ ∀ cap, ¬ input.IsCap cap := by
  constructor
  · intro missing cap isCap
    obtain ⟨limit, found, _⟩ := hardCeiling_le isCap
    cases missing.symm.trans found
  · intro uncapped
    cases found : input.hardCeiling.limit with
    | none => rfl
    | some limit => exact absurd (isCap_of_hardCeiling found) (uncapped limit)

theorem exceedsSoftTarget_iff : input.exceedsSoftTarget = true ↔
    ∃ target, input.softTarget = some target ∧ target.value < input.requestedPower.value := by
  unfold exceedsSoftTarget
  simp [Option.any_eq_true]

end DecisionInput

namespace DecisionEngine

variable {engine : DecisionEngine} {input : DecisionInput} {now : Timestamp}

/-! ## What the hysteresis leaves -/

/-- The outcome the hysteresis leaves has the verdict it holds, if any, and for a held
limit verdict without a cap the soft target. -/
theorem fields_of_hold {outcome final : Outcome}
    (returned : engine.hold input now outcome = .ok final) :
    ∃ kept, engine.held input.policy.minStableDuration now = .ok kept ∧
      final.verdict = kept.getD outcome.verdict ∧
      (final.limit, final.bindingKind) =
        if kept = some .allowWithLimit ∧ outcome.limit = none then (input.softTarget, .softTarget)
        else (outcome.limit, outcome.bindingKind) := by
  unfold hold at returned
  unfold held
  cases found : engine.last with
  | none =>
      rw [found] at returned
      obtain rfl := Except.ok.inj returned
      exact ⟨none, rfl, rfl, rfl⟩
  | some last =>
      rw [found] at returned
      dsimp only at returned ⊢
      by_cases released : last.verdict = .allow
      · rw [if_pos released] at returned ⊢
        obtain rfl := Except.ok.inj returned
        exact ⟨none, rfl, rfl, rfl⟩
      · rw [if_neg released] at returned ⊢
        obtain ⟨dt, elapsed, body⟩ := bind_eq_ok.mp returned
        rw [elapsed]
        by_cases within : dt.ns < input.policy.minStableDuration.ns
        · rw [if_pos within] at body
          refine ⟨some last.verdict, congrArg Except.ok (if_pos within), ?_⟩
          simp only [Option.some.injEq]
          by_cases unlimited : last.verdict = .allowWithLimit ∧ outcome.limit = none
          · rw [if_pos unlimited] at body ⊢
            obtain rfl := Except.ok.inj body
            exact ⟨rfl, rfl⟩
          · rw [if_neg unlimited] at body ⊢
            obtain rfl := Except.ok.inj body
            exact ⟨rfl, rfl⟩
        · rw [if_neg within] at body
          obtain rfl := Except.ok.inj body
          exact ⟨none, congrArg Except.ok (if_neg within), rfl, rfl⟩

/-- The hysteresis throws exactly where the held verdict does. -/
theorem hold_of_held {kept : Option DecisionVerdict}
    (holds : engine.held input.policy.minStableDuration now = .ok kept) (outcome : Outcome) :
    ∃ final, engine.hold input now outcome = .ok final := by
  have mapped := hold_eq_held engine input now outcome
  rw [holds] at mapped
  cases returned : engine.hold input now outcome with
  | ok final => exact ⟨final, rfl⟩
  | error fault =>
      rw [returned] at mapped
      cases mapped

/-- What holds of every decision an evaluation returns holds of what it resolves to. -/
theorem forall_decision_iff {ids : Allocators} {P : Decision → Prop} :
    (∀ d engine' ids', engine.evaluate ids input now = .ok (d, engine', ids') → P d) ↔
      ∀ outcome, engine.resolve input now = .ok outcome →
        P (engine.makeVerdict ids input now outcome).1 := by
  unfold evaluate
  cases engine.resolve input now with
  | error fault => exact iff_of_true (fun _ _ _ returned => nomatch returned) nofun
  | ok outcome =>
      constructor
      · rintro each _ same
        obtain rfl := Except.ok.inj same
        exact each _ _ _ rfl
      · intro each d engine' ids' returned
        have made := each outcome rfl
        cases returned
        exact made

theorem resolve_of_returned {outcome : Outcome} (staged : input.stages = .returned outcome) :
    engine.resolve input now = .ok outcome := by
  unfold resolve
  rw [staged]

/-- An ALLOW passes the hysteresis exactly where no verdict is held. -/
theorem hold_allow_iff {outcome : Outcome} (allow : outcome.verdict = .allow) :
    (∃ final, engine.hold input now outcome = .ok final ∧ final.verdict = .allow) ↔
      engine.held input.policy.minStableDuration now = .ok none := by
  constructor
  · rintro ⟨final, returned, allowed⟩
    obtain ⟨kept, holds, verdict, _⟩ := fields_of_hold returned
    cases kept with
    | none => exact holds
    | some kept =>
        obtain rfl : kept = .allow := verdict.symm.trans allowed
        exact absurd rfl (ne_allow_of_held holds)
  · intro holds
    obtain ⟨final, returned⟩ := hold_of_held holds outcome
    obtain ⟨kept, same, verdict, _⟩ := fields_of_hold returned
    obtain rfl := Except.ok.inj (holds.symm.trans same)
    exact ⟨final, returned, verdict.trans allow⟩

/-- Apart from its thermal state and its soft target a request is allowed where it is within
the ceiling and the energy window and no verdict is held. -/
theorem resolve_allow_iff (current : input.Current) (free : input.constrained = false)
    (recovered : input.recovering = false) (modest : input.exceedsSoftTarget = false) :
    (∃ outcome, engine.resolve input now = .ok outcome ∧ outcome.verdict = .allow) ↔
      input.exhausted = false ∧ input.exceedsCeiling = false ∧
        input.exceedsEnergyWindow = false ∧
          engine.held input.policy.minStableDuration now = .ok none := by
  have settled := input.settledBy current
  -- An early return with ALLOW is a burst over the soft target.
  have restricts : ∀ outcome, input.stages = .returned outcome →
      ¬ ∃ final, engine.resolve input now = .ok final ∧ final.verdict = .allow := by
    rintro outcome staged ⟨final, resolved, allow⟩
    obtain rfl := Except.ok.inj ((resolve_of_returned staged).symm.trans resolved)
    have grants := DecisionInput.burstGrants_iff.mpr ⟨outcome, staged, allow⟩
    cases modest.symm.trans grants.exceeds
  generalize staged : input.stages = stages at settled
  cases settled with
  | exhausted exhausted =>
      refine iff_of_false (restricts _ staged) ?_
      rintro ⟨capacity, _⟩
      cases capacity.symm.trans exhausted
  | ceiling _ exceeds =>
      refine iff_of_false (restricts _ staged) ?_
      rintro ⟨_, within, _⟩
      cases within.symm.trans exceeds
  | constrained _ _ constrained => cases free.symm.trans constrained
  | recovering _ _ _ recovering => cases recovered.symm.trans recovering
  | softTarget _ _ _ _ exceeds => cases modest.symm.trans exceeds
  | energyWindow _ _ _ _ _ exceeds =>
      refine iff_of_false (restricts _ staged) ?_
      rintro ⟨_, _, inWindow, _⟩
      cases inWindow.symm.trans exceeds
  | allowed capacity within _ _ _ inWindow =>
      have held : engine.resolve input now = engine.hold input now
          (input.allowed input.hardCeiling) := by
        unfold resolve
        rw [staged]
      rw [held, hold_allow_iff rfl]
      exact ⟨fun holds => ⟨capacity, within, inWindow, holds⟩, fun all => all.2.2.2⟩

end DecisionEngine

/-! ## Limit verdicts -/

/-- A limit verdict recommends a limit, and the constraint it names has that value. -/
def Decision.CarriesLimit (d : Decision) (input : DecisionInput) : Prop :=
  d.verdict = .allowWithLimit → ∃ limit, d.recommendedLimit = some limit ∧
    d.explanation.bindingLimit = some limit ∧ input.named d.explanation.bindingKind = some limit

/-- A request on current evidence and without a cap that is answered with a limit verdict:
on a recovering device, or, without a soft target as well, where the last verdict was one
and is held. -/
structure DecisionEngine.Unlimited (engine : DecisionEngine) (input : DecisionInput)
    (now : Timestamp) : Prop where
  current : input.Current
  uncapped : ∀ cap, ¬ input.IsCap cap
  notConstrained : input.constrained = false
  limited : input.recovering = true ∨ input.softTarget = none ∧
    input.exceedsEnergyWindow = false ∧
    engine.held input.policy.minStableDuration now = .ok (some .allowWithLimit)

namespace DecisionEngine

variable {engine : DecisionEngine} {input : DecisionInput} {now : Timestamp}

/-- The constraint an outcome names has the outcome's limit as its value, on every path. -/
theorem named_of_resolve {outcome : Outcome} (resolved : engine.resolve input now = .ok outcome) :
    input.named outcome.bindingKind = outcome.limit := by
  have capped := input.named_hardCeiling
  unfold resolve at resolved
  by_cases current : input.Current
  · have settled := input.settledBy current
    generalize input.stages = stages at settled resolved
    cases settled with
    | softTarget =>
        obtain rfl := Except.ok.inj resolved
        cases covers : input.burstCovers with
        | true =>
            rw [DecisionInput.overSoftTarget_of_covered covers]
            exact capped
        | false =>
            rw [DecisionInput.overSoftTarget_of_uncovered covers]
            rfl
    | allowed =>
        obtain ⟨kept, _, _, fields⟩ := fields_of_hold resolved
        by_cases replaced : kept = some .allowWithLimit ∧ input.hardCeiling.limit = none
        · obtain ⟨limit, kind⟩ := Prod.mk.inj (fields.trans (if_pos replaced))
          rw [limit, kind]
          rfl
        · obtain ⟨limit, kind⟩ := Prod.mk.inj (fields.trans (if_neg replaced))
          rw [limit, kind]
          exact capped
    | _ =>
        obtain rfl := Except.ok.inj resolved
        exact capped
  · rw [DecisionInput.stages_of_not_current current] at resolved
    obtain rfl := Except.ok.inj resolved
    rfl

theorem unlimited_of_limitless {outcome : Outcome}
    (resolved : engine.resolve input now = .ok outcome) (limits : outcome.verdict = .allowWithLimit)
    (missing : outcome.limit = none) : engine.Unlimited input now := by
  unfold resolve at resolved
  by_cases current : input.Current
  · have settled := input.settledBy current
    generalize input.stages = stages at settled resolved
    cases settled with
    | exhausted exhausted =>
        obtain rfl := Except.ok.inj resolved
        obtain ⟨cap, isCap, _⟩ := DecisionInput.exhausted_iff.mp exhausted
        exact absurd isCap (DecisionInput.hardCeiling_eq_none_iff.mp missing cap)
    | ceiling _ exceeds =>
        obtain rfl := Except.ok.inj resolved
        obtain ⟨cap, isCap, _⟩ := DecisionInput.exceedsCeiling_iff.mp exceeds
        exact absurd isCap (DecisionInput.hardCeiling_eq_none_iff.mp missing cap)
    | constrained =>
        obtain rfl := Except.ok.inj resolved
        cases limits
    | recovering _ _ free recovering =>
        obtain rfl := Except.ok.inj resolved
        have uncapped := DecisionInput.hardCeiling_eq_none_iff.mp missing
        exact ⟨current, uncapped, free, .inl recovering⟩
    | softTarget _ _ _ _ exceeds =>
        obtain rfl := Except.ok.inj resolved
        obtain ⟨target, found, _⟩ := DecisionInput.exceedsSoftTarget_iff.mp exceeds
        cases covers : input.burstCovers with
        | true =>
            rw [DecisionInput.overSoftTarget_of_covered covers] at limits
            cases limits
        | false =>
            rw [DecisionInput.overSoftTarget_of_uncovered covers] at missing
            cases missing.symm.trans found
    | energyWindow =>
        obtain rfl := Except.ok.inj resolved
        cases limits
    | allowed _ _ free _ _ inWindow =>
        obtain ⟨kept, holds, verdict, fields⟩ := fields_of_hold resolved
        obtain rfl : kept = some .allowWithLimit := by
          cases kept with
          | none => cases verdict.symm.trans limits
          | some kept => exact congrArg some (verdict.symm.trans limits)
        by_cases uncapped : input.hardCeiling.limit = none
        · obtain ⟨limit, _⟩ := Prod.mk.inj (fields.trans (if_pos ⟨rfl, uncapped⟩))
          exact ⟨current, DecisionInput.hardCeiling_eq_none_iff.mp uncapped, free,
            .inr ⟨limit.symm.trans missing, inWindow, holds⟩⟩
        · obtain ⟨limit, _⟩ := Prod.mk.inj (fields.trans (if_neg fun both => uncapped both.2))
          exact absurd (limit.symm.trans missing) uncapped
  · rw [DecisionInput.stages_of_not_current current] at resolved
    obtain rfl := Except.ok.inj resolved
    cases limits

theorem limitless_of_unlimited (unlimited : engine.Unlimited input now) :
    ∃ outcome, engine.resolve input now = .ok outcome ∧ outcome.verdict = .allowWithLimit ∧
      outcome.limit = none := by
  obtain ⟨current, uncapped, notConstrained, limited⟩ := unlimited
  have noLimit := DecisionInput.hardCeiling_eq_none_iff.mpr uncapped
  have settled := input.settledBy current
  unfold resolve
  generalize input.stages = stages at settled
  cases settled with
  | exhausted exhausted =>
      obtain ⟨cap, isCap, _⟩ := DecisionInput.exhausted_iff.mp exhausted
      exact absurd isCap (uncapped cap)
  | ceiling _ exceeds =>
      obtain ⟨cap, isCap, _⟩ := DecisionInput.exceedsCeiling_iff.mp exceeds
      exact absurd isCap (uncapped cap)
  | constrained _ _ constrained => cases notConstrained.symm.trans constrained
  | recovering => exact ⟨_, rfl, rfl, noLimit⟩
  | softTarget _ _ _ recovered exceeds =>
      rcases limited with recovering | ⟨noTarget, _⟩
      · cases recovered.symm.trans recovering
      · obtain ⟨target, found, _⟩ := DecisionInput.exceedsSoftTarget_iff.mp exceeds
        cases noTarget.symm.trans found
  | energyWindow _ _ _ recovered _ exceeds =>
      rcases limited with recovering | ⟨_, inWindow, _⟩
      · cases recovered.symm.trans recovering
      · cases inWindow.symm.trans exceeds
  | allowed _ _ _ recovered =>
      rcases limited with recovering | ⟨noTarget, _, holds⟩
      · cases recovered.symm.trans recovering
      obtain ⟨final, held⟩ := hold_of_held holds (input.allowed input.hardCeiling)
      obtain ⟨kept, same, verdict, fields⟩ := fields_of_hold held
      obtain rfl := Except.ok.inj (holds.symm.trans same)
      obtain ⟨limit, _⟩ := Prod.mk.inj (fields.trans (if_pos ⟨rfl, noLimit⟩))
      exact ⟨final, held, verdict, limit.trans noTarget⟩

/-- The only limit verdicts without a limit. -/
theorem limitless_iff : (∃ outcome, engine.resolve input now = .ok outcome ∧
      outcome.verdict = .allowWithLimit ∧ outcome.limit = none) ↔ engine.Unlimited input now :=
  ⟨fun ⟨_, resolved, limits, missing⟩ => unlimited_of_limitless resolved limits missing,
    limitless_of_unlimited⟩

/-- A limit verdict carries the limit it names, except on the two paths without a cap. -/
theorem carries_limit_iff (engine : DecisionEngine) (ids : Allocators) (input : DecisionInput)
    (now : Timestamp) :
    (∀ d engine' ids', engine.evaluate ids input now = .ok (d, engine', ids') →
      d.CarriesLimit input) ↔ ¬ engine.Unlimited input now := by
  rw [forall_decision_iff, ← limitless_iff]
  constructor
  · rintro carries ⟨outcome, resolved, limits, missing⟩
    obtain ⟨limit, found, _⟩ := carries outcome resolved limits
    cases missing.symm.trans found
  · intro limited outcome resolved limits
    cases found : outcome.limit with
    | none => exact absurd ⟨outcome, resolved, limits, found⟩ limited
    | some limit => exact ⟨limit, found, found, (named_of_resolve resolved).trans found⟩

/-- Current evidence on a recovering device, without a cap and without a target. -/
def recoveringInput : DecisionInput :=
  { DecisionInput.blank (.defaults ⟨1⟩ []) with
    policyCurrent := true
    powerFreshness := .current
    requestedPower := Watts.clamped 250
    thermalKnown := true
    thermalState := .recovering }

/-- The recovering device is limited to no limit. -/
theorem unlimited_verdict :
    ¬ ∀ (engine : DecisionEngine) (ids : Allocators) (input : DecisionInput) (now : Timestamp)
      (d : Decision) (engine' : DecisionEngine) (ids' : Allocators),
      engine.evaluate ids input now = .ok (d, engine', ids') → d.CarriesLimit input := by
  intro claimed
  have carries := claimed (construct .first) .start recoveringInput Timestamp.zero _ _ _ rfl
  obtain ⟨limit, found, _⟩ := carries rfl
  cases found

end DecisionEngine

/-! ## Constraints that bind -/

/-- The constraints of the input that an explanation can name. -/
def BindingKind.constraints : List BindingKind := [.deviceHardCap, .budget, .thermal, .softTarget]

/-- The constraint that a restrictive decision names is one that the request exceeds. -/
def Decision.BindsRequest (d : Decision) (input : DecisionInput) : Prop :=
  d.verdict ≠ .allow → d.explanation.bindingKind ∈ BindingKind.constraints →
    ∃ value, input.named d.explanation.bindingKind = some value ∧
      value.value < input.requestedPower.value

namespace DecisionInput

variable {input : DecisionInput}

theorem bindingKind_of_uncapped (uncapped : ∀ cap, ¬ input.IsCap cap) :
    input.hardCeiling.bindingKind = .none := by
  have hardware : input.hardwareCap = none := by
    cases cap : input.hardwareCap with
    | none => rfl
    | some cap' => exact absurd (.inl cap) (uncapped cap')
  have budget : input.budgetAvailable = none := by
    cases cap : input.budgetAvailable with
    | none => rfl
    | some cap' => exact absurd (.inr (.inl cap)) (uncapped cap')
  have thermal : input.thermalCeiling = none := by
    cases cap : input.thermalCeiling with
    | none => rfl
    | some cap' => exact absurd (.inr (.inr cap)) (uncapped cap')
  unfold hardCeiling
  rw [hardware, budget, thermal]
  rfl

/-- The kind of the ceiling names a constraint that binds unless every cap admits the
request. -/
theorem ceiling_binds_iff :
    (input.hardCeiling.bindingKind ∈ BindingKind.constraints →
      ∃ value, input.named input.hardCeiling.bindingKind = some value ∧
        value.value < input.requestedPower.value) ↔
      (∀ cap, ¬ input.IsCap cap) ∨
        ∃ cap, input.IsCap cap ∧ cap.value < input.requestedPower.value := by
  rw [← exists_isCap_iff fun _ _ => lt_of_le_of_lt, named_hardCeiling,
    ← hardCeiling_eq_none_iff]
  constructor
  · intro binds
    cases found : input.hardCeiling.limit with
    | none => exact .inl rfl
    | some limit =>
        have named := input.named_hardCeiling.trans found
        refine .inr (found ▸ binds ?_)
        cases kind : input.hardCeiling.bindingKind <;> rw [kind] at named <;>
          first | cases named | decide
  · rintro (missing | binds) among
    · rw [bindingKind_of_uncapped (hardCeiling_eq_none_iff.mp missing)] at among
      exact absurd among (by decide)
    · exact binds

end DecisionInput

namespace DecisionEngine

variable {engine : DecisionEngine} {input : DecisionInput} {now : Timestamp}

/-- Without a last verdict the stages decide alone. -/
theorem resolve_resetHysteresis (engine : DecisionEngine) (input : DecisionInput)
    (now : Timestamp) : engine.resetHysteresis.resolve input now = .ok input.stages.outcome := by
  unfold resolve
  cases input.stages <;> rfl

theorem evaluate_resetHysteresis (engine : DecisionEngine) (ids : Allocators)
    (input : DecisionInput) (now : Timestamp) : engine.resetHysteresis.evaluate ids input now =
      .ok (engine.resetHysteresis.makeVerdict ids input now input.stages.outcome) :=
  evaluate_of_resolved (engine.resolve_resetHysteresis input now) ids

theorem forall_reset_decision_iff {ids : Allocators} {P : Decision → Prop} :
    (∀ d engine' ids', engine.resetHysteresis.evaluate ids input now = .ok (d, engine', ids') →
      P d) ↔ P (engine.resetHysteresis.makeVerdict ids input now input.stages.outcome).1 := by
  rw [forall_decision_iff, resolve_resetHysteresis]
  simp only [Except.ok.injEq, forall_eq']

/-- The constraint a restrictive decision names binds exactly where no cap is given, a cap
lies under the request, or neither the thermal state nor the energy window is the cause. -/
theorem named_constraint_binds_iff (engine : DecisionEngine) (ids : Allocators)
    (input : DecisionInput) (now : Timestamp) (current : input.Current) :
    (∀ d engine' ids', engine.resetHysteresis.evaluate ids input now = .ok (d, engine', ids') →
      d.BindsRequest input) ↔
    (∀ cap, ¬ input.IsCap cap) ∨
      (∃ cap, input.IsCap cap ∧ cap.value < input.requestedPower.value) ∨
      input.constrained = false ∧ input.recovering = false ∧
        (input.exceedsSoftTarget = true ∨ input.exceedsEnergyWindow = false) := by
  rw [forall_reset_decision_iff]
  change (input.stages.outcome.verdict ≠ .allow →
    input.stages.outcome.bindingKind ∈ BindingKind.constraints →
      ∃ value, input.named input.stages.outcome.bindingKind = some value ∧
        value.value < input.requestedPower.value) ↔ _
  have settled := input.settledBy current
  generalize input.stages = stages at settled
  rw [← or_assoc, ← DecisionInput.ceiling_binds_iff]
  cases settled with
  | exhausted exhausted =>
      obtain ⟨cap, isCap, below, _⟩ := DecisionInput.exhausted_iff.mp exhausted
      have binds := DecisionInput.ceiling_binds_iff.mpr (.inr ⟨cap, isCap, below⟩)
      exact iff_of_true (fun _ => binds) (.inl binds)
  | ceiling _ exceeds =>
      obtain ⟨cap, isCap, below⟩ := DecisionInput.exceedsCeiling_iff.mp exceeds
      have less := (le_add_of_nonneg_right slack_nonneg).trans_lt below
      have binds := DecisionInput.ceiling_binds_iff.mpr (.inr ⟨cap, isCap, less⟩)
      exact iff_of_true (fun _ => binds) (.inl binds)
  | constrained _ _ constrained =>
      constructor
      · exact fun binds => .inl (binds nofun)
      · rintro (binds | ⟨free, _⟩)
        · exact fun _ => binds
        · cases free.symm.trans constrained
  | recovering _ _ _ recovering =>
      constructor
      · exact fun binds => .inl (binds nofun)
      · rintro (binds | ⟨_, recovered, _⟩)
        · exact fun _ => binds
        · cases recovered.symm.trans recovering
  | softTarget _ _ free recovered exceeds =>
      refine iff_of_true ?_ (.inr ⟨free, recovered, .inl exceeds⟩)
      cases covers : input.burstCovers with
      | true =>
          rw [DecisionInput.overSoftTarget_of_covered covers]
          exact fun restrictive => absurd rfl restrictive
      | false =>
          rw [DecisionInput.overSoftTarget_of_uncovered covers]
          exact fun _ _ => DecisionInput.exceedsSoftTarget_iff.mp exceeds
  | energyWindow _ _ _ _ modest exceeds =>
      constructor
      · exact fun binds => .inl (binds nofun)
      · rintro (binds | ⟨_, _, beyond | inWindow⟩)
        · exact fun _ => binds
        · cases modest.symm.trans beyond
        · cases inWindow.symm.trans exceeds
  | allowed _ _ free recovered _ inWindow =>
      refine iff_of_true ?_ (.inr ⟨free, recovered, .inr inWindow⟩)
      exact fun restrictive => absurd rfl restrictive

/-- A cap of 300 W, which the request of 250 W satisfies, on a device that is thermally
constrained. -/
def constrainedInput : DecisionInput :=
  { recoveringInput with
    hardwareCap := some (Watts.clamped 300)
    thermalState := .thermallyConstrained }

/-- The soft target that limits the request lies under it. -/
theorem named_constraint_binds_soft :
    ∃ d engine' ids', (construct .first).resetHysteresis.evaluate .start softLimited
      Timestamp.zero = .ok (d, engine', ids') ∧ d.BindsRequest softLimited := by
  have binds := (named_constraint_binds_iff (construct .first) .start softLimited Timestamp.zero
    ⟨rfl, rfl⟩).mpr (.inr (.inr ⟨rfl, rfl, .inl (by decide +kernel)⟩))
  have evaluated := evaluate_resetHysteresis (construct .first) .start softLimited Timestamp.zero
  exact ⟨_, _, _, evaluated, binds _ _ _ evaluated⟩

/-- The thermal state throttles the request, and the cap is named. -/
theorem unbinding_constraint :
    ¬ ∀ (engine : DecisionEngine) (ids : Allocators) (input : DecisionInput) (now : Timestamp),
      input.Current → ∀ d engine' ids',
      engine.resetHysteresis.evaluate ids input now = .ok (d, engine', ids') →
        d.BindsRequest input := by
  intro claimed
  have binds := forall_reset_decision_iff.mp
    (claimed (construct .first) .start constrainedInput Timestamp.zero ⟨rfl, rfl⟩)
  obtain ⟨value, named, below⟩ := binds (by decide +kernel) (by decide +kernel)
  have cap : constrainedInput.named constrainedInput.stages.outcome.bindingKind =
      some (Watts.clamped 300) := by decide +kernel
  obtain rfl := Option.some.inj (cap.symm.trans named)
  exact absurd below (by decide +kernel)

end DecisionEngine

end PowerGovernor
