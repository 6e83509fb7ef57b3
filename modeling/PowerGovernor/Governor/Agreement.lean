import Mathlib.Tactic.Linarith
import PowerGovernor.Decision.Agreement
import PowerGovernor.Governor.Run
import PowerGovernor.PowerWindow
import PowerGovernor.Thermal.PermittedPower

/-!
Governors that decide alike.

Owns the relation between two Governors under which no sequence of observations
and decisions tells them apart by verdict or recommended limit, with its step
lemma. The relation leaves out what never reaches an answer: class rules,
meters, generations and ids, and the thermal memory of a device that has been
neither constrained nor hot enough to lower its ceiling.
-/

set_option autoImplicit false

namespace PowerGovernor

/-! ## Thermal memory -/

namespace ThermalGovernor

/-- Neither constrained nor recovering: the state has no memory. -/
def Calm (th : ThermalGovernor) : Prop :=
  th.state ≠ .thermallyConstrained ∧ th.state ≠ .recovering

/-- Two thermal states that classify every further sample alike and permit the
same power meanwhile. -/
structure Alike (left right : ThermalGovernor) : Prop where
  leftThresholds : left.thresholds = .standard
  rightThresholds : right.thresholds = .standard
  state : left.state = right.state ∨ left.Calm ∧ right.Calm
  needConfirm : left.needConfirm = right.needConfirm
  headroom : left.headroomFraction left.lastTemp = right.headroomFraction right.lastTemp

variable {left right : ThermalGovernor}

/-- The condition of `DecisionInput.constrained`. -/
theorem Alike.constrained (alike : Alike left right) :
    decide (decide (left.state ≠ .unknown) = true ∧ left.state = .thermallyConstrained) =
      decide (decide (right.state ≠ .unknown) = true ∧ right.state = .thermallyConstrained) := by
  rcases alike.state with same | ⟨⟨leftHeld, _⟩, ⟨rightHeld, _⟩⟩
  · rw [same]
  · simp only [leftHeld, rightHeld, and_false]

/-- The condition of `DecisionInput.recovering`. -/
theorem Alike.recovering (alike : Alike left right) :
    decide (decide (left.state ≠ .unknown) = true ∧ left.state = .recovering) =
      decide (decide (right.state ≠ .unknown) = true ∧ right.state = .recovering) := by
  rcases alike.state with same | ⟨⟨_, leftRecovering⟩, ⟨_, rightRecovering⟩⟩
  · rw [same]
  · simp only [leftRecovering, rightRecovering, and_false]

theorem headroomFraction_congr (same : left.thresholds = right.thresholds)
    (temp : Option Celsius) : left.headroomFraction temp = right.headroomFraction temp := by
  unfold headroomFraction
  rw [same]

theorem alike_observe (alike : Alike left right) (temp : Celsius) (now : Timestamp) :
    Alike (left.observe (some temp) now) (right.observe (some temp) now) := by
  have thresholds : left.thresholds = right.thresholds :=
    alike.leftThresholds.trans alike.rightThresholds.symm
  have raw : left.classifyRaw temp.value = right.classifyRaw temp.value := by
    unfold classifyRaw
    rw [thresholds]
  rw [observe_some, observe_some]
  have advanced : ((left.advance temp.value).1 = (right.advance temp.value).1 ∨
      ((left.advance temp.value).1 ≠ .thermallyConstrained ∧
        (left.advance temp.value).1 ≠ .recovering) ∧
      ((right.advance temp.value).1 ≠ .thermallyConstrained ∧
        (right.advance temp.value).1 ≠ .recovering)) ∧
      (left.advance temp.value).2 = (right.advance temp.value).2 := by
    unfold advance
    dsimp only
    rw [raw, thresholds, alike.needConfirm]
    rcases alike.state with same | ⟨⟨leftHeld, leftRecovering⟩, ⟨rightHeld, rightRecovering⟩⟩
    · rw [same]
      exact ⟨.inl rfl, rfl⟩
    · rw [if_pos leftHeld, if_pos rightHeld, if_neg leftHeld, if_neg rightHeld,
        if_neg leftRecovering, if_neg rightRecovering]
      split
      · split
        · exact ⟨.inl rfl, rfl⟩
        · exact ⟨.inr ⟨⟨leftHeld, leftRecovering⟩, rightHeld, rightRecovering⟩, rfl⟩
      · exact ⟨.inl rfl, rfl⟩
  refine ⟨alike.leftThresholds, alike.rightThresholds, advanced.1, advanced.2, ?_⟩
  apply headroomFraction_congr
  exact thresholds

end ThermalGovernor

/-! ## Policies -/

/-- Two policies agree on everything a verdict or a limit depends on. -/
structure PowerPolicy.Alike (left right : PowerPolicy) : Prop where
  fleetHardCap : left.fleetHardCap = right.fleetHardCap
  nodeHardCap : left.nodeHardCap = right.nodeHardCap
  deviceHardCap : left.deviceHardCap = right.deviceHardCap
  softTarget : left.softTarget = right.softTarget
  fresh : max left.observationFreshness.ns left.observationStale.ns =
    max right.observationFreshness.ns right.observationStale.ns
  window : left.energyWindow.bound = right.energyWindow.bound
  minStableDuration : left.minStableDuration = right.minStableDuration

def FreshnessState.isStale (state : FreshnessState) : Bool :=
  state = .stale ∨ state = .expired

theorem FreshnessThresholds.isStale_ageFromDuration (t : FreshnessThresholds) (age : Duration) :
    (t.ageFromDuration age).isStale = !decide (age.ns < max t.fresh.ns t.stale.ns) := by
  have fresh := @ageFromDuration_fresh_iff t age
  by_cases young : age.ns < max t.fresh.ns t.stale.ns
  · rcases fresh.mpr young with same | same <;> simp [same, young, FreshnessState.isStale]
  · have old := mt fresh.mp young
    cases state : t.ageFromDuration age <;> simp_all [FreshnessState.isStale]

/-- Policies with the same bound on the age call the same evidence stale. -/
theorem Governor.freshnessOf_isStale {left right : PowerPolicy}
    (same : max left.observationFreshness.ns left.observationStale.ns =
      max right.observationFreshness.ns right.observationStale.ns) (lastObserved now : Timestamp) :
    (freshnessOf left lastObserved now).map FreshnessState.isStale =
      (freshnessOf right lastObserved now).map FreshnessState.isStale := by
  unfold freshnessOf
  cases lastObserved.isZero with
  | true => rfl
  | false =>
      rw [if_neg Bool.false_ne_true, if_neg Bool.false_ne_true]
      unfold FreshnessThresholds.classify
      cases FreshnessThresholds.ageOf now lastObserved with
      | error fault => rfl
      | ok age =>
          show Except.map _ (if _ then _ else _) = Except.map _ (if _ then _ else _)
          split
          · rfl
          · show Except.ok _ = Except.ok _
            rw [FreshnessThresholds.isStale_ageFromDuration,
              FreshnessThresholds.isStale_ageFromDuration, same]

/-! ## Devices -/

theorem Governor.freshnessOf_returns_iff (policy : PowerPolicy) {observed now : Timestamp} :
    (∃ freshness, freshnessOf policy observed now = .ok freshness) ↔
      observed.isZero = true ∨ now.ElapsedFits observed := by
  unfold freshnessOf FreshnessThresholds.classify FreshnessThresholds.ageOf
  by_cases never : observed.isZero = true
  · rw [if_pos never]
    exact ⟨fun _ => .inl never, fun _ => ⟨.expired, rfl⟩⟩
  · rw [if_neg never, if_neg never, or_iff_right never, ← Timestamp.elapsedSince_returns_iff]
    constructor
    · rintro ⟨freshness, returned⟩
      obtain ⟨age, aged, _⟩ := bind_eq_ok.mp returned
      exact ⟨age, noexcept_eq_ok.mp aged⟩
    · rintro ⟨age, aged⟩
      rw [noexcept_eq_ok.mpr aged]
      dsimp only [bind, Except.bind]
      split <;> exact ⟨_, rfl⟩

/-- Evidence is stale if there is none or its age has reached the larger of the first
two thresholds. -/
theorem Governor.freshnessOf_isStale_iff {policy : PowerPolicy} {observed now : Timestamp}
    {freshness : FreshnessState} (returned : freshnessOf policy observed now = .ok freshness) :
    freshness.isStale = true ↔ observed.isZero = true ∨
      max policy.observationFreshness.ns policy.observationStale.ns ≤
        max 0 (now.ns - observed.ns) := by
  unfold freshnessOf FreshnessThresholds.classify FreshnessThresholds.ageOf at returned
  by_cases never : observed.isZero = true
  · rw [if_pos never] at returned
    obtain rfl := Except.ok.inj returned
    exact iff_of_true rfl (.inl never)
  · rw [if_neg never, if_neg never] at returned
    obtain ⟨age, aged, classified⟩ := bind_eq_ok.mp returned
    rw [if_neg fun both => never both.2] at classified
    obtain rfl := Except.ok.inj classified
    rw [or_iff_right never, FreshnessThresholds.isStale_ageFromDuration,
      ← Timestamp.elapsedSince_eq_ok.mp (noexcept_eq_ok.mp aged)]
    simp

namespace DeviceState

/-- Two devices that differ at most in calm thermal memory, meters and
generations. The burst bucket of a device is never enabled. -/
structure Alike (left right : DeviceState) : Prop where
  latest : left.latest = right.latest
  lastObserved : left.lastObserved = right.lastObserved
  powerWindow : left.powerWindow = right.powerWindow
  hardwareCap : left.hardwareCap = right.hardwareCap
  thermal : left.thermal.Alike right.thermal
  leftBurst : left.burst.limits.enabled = false
  rightBurst : right.burst.limits.enabled = false

variable {left right : DeviceState}

/-- The thermal part of an observation. -/
def heat (ds : DeviceState) (sample : BackendSample) (now : Timestamp) : DeviceState :=
  match sample.temperature with
  | some temp => { ds with thermal := ds.thermal.observe (some temp) now }
  | none => ds

theorem alike_heat (alike : Alike left right) (sample : BackendSample) (now : Timestamp) :
    Alike (left.heat sample now) (right.heat sample now) := by
  unfold heat
  cases sample.temperature with
  | none => exact alike
  | some temp =>
      exact ⟨alike.latest, alike.lastObserved, alike.powerWindow, alike.hardwareCap,
        ThermalGovernor.alike_observe alike.thermal temp now, alike.leftBurst, alike.rightBurst⟩

/-- What an observation leaves, and how it ends. -/
theorem exec_ingest (sample : BackendSample) (now : Timestamp) (ds : DeviceState) :
    (ingest sample now).exec ds =
      match sample.power with
      | none => (.ok (), { ds with obsGen := ds.obsGen.next }.heat sample now)
      | some power =>
        let seen : DeviceState :=
          { ds with
            obsGen := ds.obsGen.next, latest := some sample, lastObserved := now
            powerWindow := (ds.powerWindow.record now power).1 }
        match (ds.powerWindow.record now power).2 with
        | .error fault => (.error fault, seen)
        | .ok _ => (.ok (), { seen with hardwareCap := sample.powerLimit }.heat sample now) := by
  unfold ingest recordPower heat
  cases sample.power with
  | none =>
      cases sample.temperature <;> rfl
  | some power =>
      simp only [Stateful.exec_bind, Stateful.exec_modify, Stateful.exec_get,
        Stateful.exec_ofExcept]
      cases (ds.powerWindow.record now power).2 with
      | error fault => rfl
      | ok _ => cases sample.temperature <;> rfl

theorem alike_ingest (alike : Alike left right) (sample : BackendSample) (now : Timestamp) :
    Alike ((ingest sample now).exec left).2 ((ingest sample now).exec right).2 := by
  rw [exec_ingest, exec_ingest]
  cases sample.power with
  | none =>
      apply alike_heat
      exact ⟨alike.latest, alike.lastObserved, alike.powerWindow, alike.hardwareCap,
        alike.thermal, alike.leftBurst, alike.rightBurst⟩
  | some power =>
      dsimp only
      rw [alike.powerWindow]
      cases (right.powerWindow.record now power).2 with
      | error fault =>
          exact ⟨rfl, rfl, rfl, alike.hardwareCap, alike.thermal, alike.leftBurst,
            alike.rightBurst⟩
      | ok _ =>
          apply alike_heat
          exact ⟨rfl, rfl, rfl, rfl, alike.thermal, alike.leftBurst, alike.rightBurst⟩

/-! ## Filling in a decision -/

/-- What `fill` returns for a device whose burst bucket is not enabled. -/
def filled (ds : DeviceState) (input : DecisionInput) (now : Timestamp) :
    Except Fault DecisionInput := do
  let average ← ds.powerWindow.averagePower
  let _ : Watts ← Quantity.construct average
  let ceiling ← ds.thermalCeiling input.hardwareCap
  let freshness ← Governor.freshnessOf input.policy ds.lastObserved now
  return { input with
    thermalKnown := decide (ds.thermal.state ≠ .unknown)
    thermalState := ds.thermal.state
    thermalCeiling := ceiling
    hardwareThrottled := ds.latest.any BackendSample.throttled
    burstAvailable := false
    burstUtilization := 0
    powerFreshness := freshness
    evidence := (ds.latest.map BackendSample.provenance).getD .unknown
    softTarget := input.policy.softTarget }

theorem exec_fill_of_disabled {ds : DeviceState} (disabled : ds.burst.limits.enabled = false)
    (input : DecisionInput) (duration : ℚ) (now : Timestamp) :
    (fill input duration now).exec ds = (ds.filled input now, ds) := by
  have canBurst : ∀ j : Joules, (onBurst (BurstBudget.canBurst j now)).exec ds =
      (.ok false, ds) := by
    intro j
    unfold onBurst BurstBudget.canBurst
    rw [Stateful.exec_zoom, Stateful.exec_bind_of_ok (Stateful.exec_get _), disabled]
    rfl
  have utilization : (onBurst (BurstBudget.utilization now)).exec ds = (.ok 0, ds) := by
    unfold onBurst BurstBudget.utilization
    rw [Stateful.exec_zoom, Stateful.exec_bind_of_ok (Stateful.exec_get _), disabled]
    rfl
  unfold fill filled
  rw [Stateful.exec_bind_of_ok (Stateful.exec_get _)]
  apply Stateful.exec_ofExcept_bind
  intro average
  apply Stateful.exec_ofExcept_bind
  intro _
  apply Stateful.exec_ofExcept_bind
  intro ceiling
  rw [Stateful.exec_bind_of_ok (canBurst _), Stateful.exec_bind_of_ok utilization]
  apply Stateful.exec_ofExcept_bind
  intro freshness
  rfl

/-- No operation reconfigures a device: it keeps the standard thresholds, and its
burst bucket stays disabled. -/
structure Stock (ds : DeviceState) : Prop where
  thresholds : ds.thermal.thresholds = .standard
  burst : ds.burst.limits.enabled = false

theorem stock_heat {ds : DeviceState} (stock : ds.Stock) (sample : BackendSample)
    (now : Timestamp) : (ds.heat sample now).Stock := by
  unfold heat
  cases sample.temperature with
  | none => exact stock
  | some temp =>
      have thresholds : (ds.thermal.observe (some temp) now).thresholds =
          ds.thermal.thresholds := by
        rw [ThermalGovernor.observe_some]
      exact ⟨thresholds.trans stock.thresholds, stock.burst⟩

theorem stock_invariant : Invariant Stock where
  blank := ⟨rfl, rfl⟩
  ingest := by
    intro sample now ds stock
    rw [exec_ingest]
    cases sample.power with
    | none =>
        apply stock_heat
        exact ⟨stock.thresholds, stock.burst⟩
    | some power =>
        dsimp only
        cases (ds.powerWindow.record now power).2 with
        | error fault => exact ⟨stock.thresholds, stock.burst⟩
        | ok _ =>
            apply stock_heat
            exact ⟨stock.thresholds, stock.burst⟩
  fill := by
    intro input duration now ds stock
    rw [exec_fill_of_disabled stock.burst]
    exact stock
  meter := fun _ _ stock => ⟨stock.thresholds, stock.burst⟩
  invalidate := fun _ stock => ⟨stock.thresholds, stock.burst⟩

/-- What the input of a decision has before the device fills it in. -/
structure SameBase (left right : DecisionInput) : Prop where
  requestedPower : left.requestedPower = right.requestedPower
  requestedEnergy : left.requestedEnergy = right.requestedEnergy
  energyWindowUsed : left.energyWindowUsed = right.energyWindowUsed
  policyCurrent : left.policyCurrent = right.policyCurrent
  hardwareCap : left.hardwareCap = right.hardwareCap
  budgetAvailable : left.budgetAvailable = right.budgetAvailable
  policy : left.policy.Alike right.policy

/-- The ceiling a device permits: a share of a positive cap, once a temperature is
known. -/
theorem thermalCeiling_eq {ds : DeviceState} (standard : ds.thermal.thresholds = .standard)
    (cap : Option Watts) :
    ds.thermalCeiling cap = .ok (ds.ceilingTemperature.bind fun _ =>
      (cap.filter fun power => 0 < power.value).map fun power =>
        Watts.clamped (power.value * ds.thermal.headroomFraction ds.ceilingTemperature)) := by
  unfold thermalCeiling
  cases cap with
  | none => cases ds.ceilingTemperature <;> rfl
  | some power =>
      cases measured : ds.ceilingTemperature with
      | none => rfl
      | some temp =>
          show (if 0 < power.value then _ else _) = _
          rw [Option.bind_some]
          by_cases positive : 0 < power.value
          · obtain ⟨permitted, returned, value⟩ := ThermalGovernor.permittedPower_some
              (ThermalGovernor.fractional_of_standard standard) power temp
            have same : permitted =
                Watts.clamped (power.value * ds.thermal.headroomFraction (some temp)) := by
              apply Quantity.ext
              rw [← value, Watts.clamped_value, max_eq_right permitted.nonneg]
            rw [if_pos positive, Option.filter_some, if_pos (decide_eq_true positive), returned,
              same]
            rfl
          · rw [if_neg positive, Option.filter_some, if_neg (mt of_decide_eq_true positive)]
            rfl

/-- Alike devices permit the same, except that one of them may not name the full
cap as its ceiling. -/
theorem sameCeiling_thermalCeiling (alike : Alike left right) (cap : Option Watts) :
    ∃ ceiling ceiling', left.thermalCeiling cap = .ok ceiling ∧
      right.thermalCeiling cap = .ok ceiling' ∧
        DecisionInput.SameCeiling cap ceiling ceiling' := by
  have fraction : left.thermal.headroomFraction left.ceilingTemperature =
      right.thermal.headroomFraction right.ceilingTemperature := by
    unfold ceilingTemperature
    rw [alike.latest]
    cases right.latest.bind BackendSample.temperature with
    | some temp =>
        apply ThermalGovernor.headroomFraction_congr
        exact alike.thermal.leftThresholds.trans alike.thermal.rightThresholds.symm
    | none => exact alike.thermal.headroom
  refine ⟨_, _, thermalCeiling_eq alike.thermal.leftThresholds cap,
    thermalCeiling_eq alike.thermal.rightThresholds cap, ?_⟩
  rw [fraction]
  -- A device without a temperature permits the full cap.
  have full : ∀ power : Watts, Watts.clamped (power.value * 1) = power := by
    intro power
    apply Quantity.ext
    rw [mul_one, Watts.clamped_value]
    exact max_eq_right power.nonneg
  cases measuredLeft : left.ceilingTemperature with
  | none =>
      cases measuredRight : right.ceilingTemperature with
      | none => exact .inl rfl
      | some temp =>
          rw [measuredLeft, measuredRight] at fraction
          rw [← fraction]
          cases cap with
          | none => exact .inl rfl
          | some power =>
              rw [Option.bind_some, Option.filter_some]
              split
              · exact .inr (.inl ⟨rfl, congrArg some (full power)⟩)
              · exact .inl rfl
  | some temp =>
      cases measuredRight : right.ceilingTemperature with
      | some temp' => exact .inl rfl
      | none =>
          cases cap with
          | none => exact .inl rfl
          | some power =>
              rw [Option.bind_some, Option.filter_some]
              split
              · exact .inr (.inr ⟨congrArg some (full power), rfl⟩)
              · exact .inl rfl

/-- Alike devices fill in alike inputs, or fail alike. -/
theorem alike_filled (alike : Alike left right) {base base' : DecisionInput}
    (same : SameBase base base') (now : Timestamp) :
    (∃ fault, left.filled base now = .error fault ∧ right.filled base' now = .error fault) ∨
    ∃ input input', left.filled base now = .ok input ∧ right.filled base' now = .ok input' ∧
      input.Alike input' := by
  obtain ⟨ceiling, ceiling', leftCeiling, rightCeiling, sameCeiling⟩ :=
    sameCeiling_thermalCeiling alike base'.hardwareCap
  have stale := Governor.freshnessOf_isStale same.policy.fresh right.lastObserved now
  unfold filled
  rw [alike.powerWindow, alike.lastObserved, same.hardwareCap, leftCeiling, rightCeiling]
  cases right.powerWindow.averagePower with
  | error fault => exact .inl ⟨fault, rfl, rfl⟩
  | ok average =>
      dsimp only [bind, Except.bind]
      cases (Quantity.construct average : Except Fault Watts) with
      | error fault => exact .inl ⟨fault, rfl, rfl⟩
      | ok average =>
          dsimp only
          rcases cases_of_map_eq stale with
            ⟨fault, old, old'⟩ | ⟨state, state', young, young', same'⟩
          · rw [old, old']
            exact .inl ⟨fault, rfl, rfl⟩
          · rw [young, young']
            refine .inr ⟨_, _, rfl, rfl, ?_⟩
            exact {
              requestedPower := same.requestedPower
              requestedEnergy := same.requestedEnergy
              energyWindowUsed := same.energyWindowUsed
              policyCurrent := same.policyCurrent
              stale := same'
              ceiling := DecisionInput.limit_of_sameCeiling rfl same.budgetAvailable sameCeiling
              constrained := alike.thermal.constrained
              recovering := alike.thermal.recovering
              softTarget := same.policy.softTarget
              burstAvailable := rfl
              window := same.policy.window
              minStableDuration := same.policy.minStableDuration }

/-- The input takes over the policy, and its evidence is as fresh as the device's. -/
theorem facts_of_filled {ds : DeviceState} {base input : DecisionInput} {now : Timestamp}
    (returned : ds.filled base now = .ok input) :
    input.policy = base.policy ∧ input.policyCurrent = base.policyCurrent ∧
      Governor.freshnessOf base.policy ds.lastObserved now = .ok input.powerFreshness := by
  obtain ⟨average, _, returned⟩ := bind_eq_ok.mp returned
  obtain ⟨_, _, returned⟩ := bind_eq_ok.mp returned
  obtain ⟨ceiling, _, returned⟩ := bind_eq_ok.mp returned
  obtain ⟨freshness, classified, returned⟩ := bind_eq_ok.mp returned
  obtain rfl := Except.ok.inj returned
  exact ⟨rfl, rfl, classified⟩

theorem stale_filled_iff {ds : DeviceState} {base input : DecisionInput} {now : Timestamp}
    (returned : ds.filled base now = .ok input) :
    input.stale = true ↔ ds.lastObserved.isZero = true ∨
      max base.policy.observationFreshness.ns base.policy.observationStale.ns ≤
        max 0 (now.ns - ds.lastObserved.ns) :=
  Governor.freshnessOf_isStale_iff (facts_of_filled returned).2.2

/-- Every operation keeps the samples of the window in order. -/
theorem ordered_invariant : Invariant fun ds => ds.Stock ∧ ds.powerWindow.Ordered where
  blank := ⟨stock_invariant.blank, List.Pairwise.nil⟩
  ingest := by
    rintro sample now ds ⟨stock, ordered⟩
    refine ⟨stock_invariant.ingest sample now ds stock, ?_⟩
    have heated : ∀ ds : DeviceState, (ds.heat sample now).powerWindow = ds.powerWindow := by
      intro ds
      unfold heat
      cases sample.temperature <;> rfl
    rw [exec_ingest]
    cases sample.power with
    | none =>
        show (heat _ sample now).powerWindow.Ordered
        rw [heated]
        exact ordered
    | some power =>
        have recorded := ordered.record now power
        dsimp only
        cases (ds.powerWindow.record now power).2 with
        | error fault => exact recorded
        | ok _ =>
            show (heat _ sample now).powerWindow.Ordered
            rw [heated]
            exact recorded
  fill := by
    rintro input duration now ds ⟨stock, ordered⟩
    rw [exec_fill_of_disabled stock.burst]
    exact ⟨stock, ordered⟩
  meter := fun ds meter holds => ⟨stock_invariant.meter ds meter holds.1, holds.2⟩
  invalidate := fun ds holds => ⟨stock_invariant.invalidate ds holds.1, holds.2⟩

/-- A device fills in a decision exactly when its window spans no more than a
`Duration` and neither does the time since the last observation. -/
theorem filled_returns_iff {ds : DeviceState} (stock : ds.Stock) (ordered : ds.powerWindow.Ordered)
    (base : DecisionInput) (now : Timestamp) :
    (∃ input, ds.filled base now = .ok input) ↔
      ds.powerWindow.Spans ∧ (ds.lastObserved.isZero = true ∨ now.ElapsedFits ds.lastObserved) := by
  rw [← Governor.freshnessOf_returns_iff base.policy]
  constructor
  · rintro ⟨input, returned⟩
    obtain ⟨average, averaged, returned⟩ := bind_eq_ok.mp returned
    obtain ⟨_, _, returned⟩ := bind_eq_ok.mp returned
    obtain ⟨ceiling, _, returned⟩ := bind_eq_ok.mp returned
    obtain ⟨freshness, classified, _⟩ := bind_eq_ok.mp returned
    exact ⟨PowerWindow.spans_of_averagePower averaged, freshness, classified⟩
  · rintro ⟨spans, freshness, classified⟩
    obtain ⟨average, averaged, nonneg⟩ := PowerWindow.averagePower_of_spans ordered spans
    have power : (Quantity.construct average : Except Fault Watts) = .ok ⟨average, nonneg⟩ :=
      Quantity.construct_eq_ok.mpr rfl
    unfold filled
    rw [averaged, thermalCeiling_eq stock.thresholds]
    dsimp only [bind, Except.bind]
    rw [power, classified]
    exact ⟨_, rfl⟩

end DeviceState

/-! ## Governors -/

namespace Governor

/-- Two Governors that no observation and no decision tells apart. -/
structure Alike (left right : Governor) : Prop where
  policy : left.policy.Alike right.policy
  has : ∀ id, left.budgets.has id = right.budgets.has id
  available : ∀ id, left.budgets.available id = right.budgets.available id
  last : left.engine.last = right.engine.last
  device : left.live.Alike right.live

variable {left right : Governor}

/-- Without a device no observation has been made. -/
theorem live_of_none {g : Governor} (none : g.device = none) : g.live = .blank := by
  unfold live
  rw [none]
  rfl

theorem hardwareCap_live (g : Governor) :
    g.device.bind DeviceState.hardwareCap = g.live.hardwareCap := by
  unfold live
  cases g.device <;> rfl

theorem sameBase_baseInput (alike : Alike left right) (budget : BudgetId)
    (cls : WorkloadPowerClass) (requested : Watts) (requestedEnergy : Joules) :
    DeviceState.SameBase (left.baseInput budget cls requested requestedEnergy)
      (right.baseInput budget cls requested requestedEnergy) where
  requestedPower := rfl
  requestedEnergy := rfl
  energyWindowUsed := rfl
  policyCurrent := rfl
  hardwareCap := by
    show left.hardwareCeiling = right.hardwareCeiling
    unfold hardwareCeiling
    rw [hardwareCap_live, hardwareCap_live, alike.device.hardwareCap, alike.policy.fleetHardCap,
      alike.policy.nodeHardCap, alike.policy.deviceHardCap]
  budgetAvailable := by
    show (if _ then some (left.budgets.available budget) else none) =
      if _ then some (right.budgets.available budget) else none
    rw [alike.has, alike.available]
  policy := alike.policy

/-- The input of a decision, once no burst bucket can be touched. -/
def filledInput (g : Governor) (budget : BudgetId) (cls : WorkloadPowerClass)
    (requested : Watts) (requestedEnergy : Joules) (now : Timestamp) :
    Except Fault DecisionInput :=
  let input := g.baseInput budget cls requested requestedEnergy
  if g.device.isSome then g.live.filled input now
  else .ok { input with powerFreshness := .expired, evidence := .unknown }

/-- A decision is filled in under the policy of the Governor, and on evidence of the last
observation. -/
theorem facts_of_filledInput {g : Governor} {budget : BudgetId} {cls : WorkloadPowerClass}
    {requested : Watts} {requestedEnergy : Joules} {now : Timestamp} {input : DecisionInput}
    (returned : g.filledInput budget cls requested requestedEnergy now = .ok input) :
    input.policy = g.policy ∧ input.policyCurrent = true ∧
      (input.stale = true ↔ g.live.lastObserved.isZero = true ∨
        max g.policy.observationFreshness.ns g.policy.observationStale.ns ≤
          max 0 (now.ns - g.live.lastObserved.ns)) := by
  unfold filledInput at returned
  split at returned
  · obtain ⟨policy, current, _⟩ := DeviceState.facts_of_filled returned
    exact ⟨policy, current, DeviceState.stale_filled_iff returned⟩
  · rename_i absent
    obtain rfl := Except.ok.inj returned
    rw [live_of_none (Option.not_isSome_iff_eq_none.mp absent)]
    exact ⟨rfl, rfl, iff_of_true rfl (.inl rfl)⟩

theorem exec_fillInput_of_disabled {g : Governor} (disabled : g.live.burst.limits.enabled = false)
    (budget : BudgetId) (cls : WorkloadPowerClass) (requested : Watts) (requestedEnergy : Joules)
    (duration : ℚ) (now : Timestamp) :
    (fillInput budget cls requested requestedEnergy duration now).exec g =
      (g.filledInput budget cls requested requestedEnergy now, g) := by
  unfold fillInput filledInput
  rw [Stateful.exec_bind_of_ok (Stateful.exec_get g)]
  cases present : g.device with
  | none => rfl
  | some ds =>
      have live : g.live = ds := by
        unfold Governor.live
        rw [present]
        rfl
      rw [live] at disabled
      rw [live]
      show (onDevice (DeviceState.fill _ duration now)).exec g = _
      unfold onDevice
      rw [Stateful.exec_zoom, present, Option.getD_some,
        DeviceState.exec_fill_of_disabled disabled]
      obtain ⟨⟩ := g
      cases present
      rfl

/-- What a decision writes; one that throws writes nothing. -/
def commit (g : Governor) :
    Except Fault (Decision × DecisionEngine × Allocators) → Except Fault Decision × Governor
  | .error fault => (.error fault, g)
  | .ok (d, engine, ids) => (.ok d, { g with engine := engine, ids := ids })

/-- A decision once no burst bucket can be touched. -/
theorem exec_decideFor_of_disabled {g : Governor} (disabled : g.live.burst.limits.enabled = false)
    (budget : BudgetId) (workload : WorkloadId) (cls : WorkloadPowerClass) (requested : Watts)
    (requestedEnergy : Joules) (duration : ℚ) (now : Timestamp) :
    (decideFor budget workload cls requested requestedEnergy duration now).exec g =
      g.commit (g.filledInput budget cls requested requestedEnergy now >>=
        fun input => g.engine.evaluate g.ids input now) := by
  have filled := exec_fillInput_of_disabled disabled budget cls requested requestedEnergy duration
    now
  unfold decideFor
  rw [Stateful.exec_bind, filled]
  cases g.filledInput budget cls requested requestedEnergy now with
  | error fault => rfl
  | ok input =>
      show (Stateful.exec (get >>= _) g) = g.commit (g.engine.evaluate g.ids input now)
      rw [Stateful.exec_bind_of_ok (Stateful.exec_get g), Stateful.exec_bind,
        Stateful.exec_ofExcept]
      cases g.engine.evaluate g.ids input now <;> rfl

/-- A decision is returned exactly when its input is filled in and the engine resolves
it, and its verdict is the resolved one. -/
theorem decides_iff_resolve {g : Governor} (disabled : g.live.burst.limits.enabled = false)
    (budget : BudgetId) (workload : WorkloadId) (cls : WorkloadPowerClass) (requested : Watts)
    (requestedEnergy : Joules) (duration : ℚ) (now : Timestamp) {P : DecisionVerdict → Prop} :
    (∃ d g', (decideFor budget workload cls requested requestedEnergy duration now).exec g =
        (.ok d, g') ∧ P d.verdict) ↔
      ∃ input, g.filledInput budget cls requested requestedEnergy now = .ok input ∧
        ∃ outcome, g.engine.resolve input now = .ok outcome ∧ P outcome.verdict := by
  rw [exec_decideFor_of_disabled disabled]
  constructor
  · rintro ⟨d, g', decided, holds⟩
    cases filled : g.filledInput budget cls requested requestedEnergy now with
    | error fault =>
        rw [filled] at decided
        cases decided
    | ok input =>
        rw [filled] at decided
        change g.commit (g.engine.evaluate g.ids input now) = _ at decided
        cases evaluated : g.engine.evaluate g.ids input now with
        | error fault =>
            rw [evaluated] at decided
            cases decided
        | ok done =>
            obtain ⟨outcome, resolved, verdict, _⟩ := DecisionEngine.evaluate_eq_ok evaluated
            rw [evaluated] at decided
            obtain rfl := Except.ok.inj (congrArg Prod.fst decided)
            exact ⟨input, rfl, outcome, resolved, verdict ▸ holds⟩
  · rintro ⟨input, filled, outcome, resolved, holds⟩
    rw [filled]
    exact ⟨_, _, congrArg g.commit (DecisionEngine.evaluate_of_resolved resolved g.ids), holds⟩

/-- What a decision answers and the verdict the engine keeps. -/
theorem map_commit (g : Governor)
    (result : Except Fault (Decision × DecisionEngine × Allocators)) :
    ((g.commit result).1.map Decision.answer, (g.commit result).2.engine.last) =
      match result.map fun done => (done.1.answer, done.2.1.last) with
      | .error fault => (.error fault, g.engine.last)
      | .ok (answer, last) => (.ok answer, last) := by
  cases result <;> rfl

/-- The parts of a Governor that a decision does not write. -/
theorem commit_keeps (g : Governor)
    (result : Except Fault (Decision × DecisionEngine × Allocators)) :
    (g.commit result).2.policy = g.policy ∧ (g.commit result).2.budgets = g.budgets ∧
      (g.commit result).2.device = g.device := by
  cases result <;> exact ⟨rfl, rfl, rfl⟩

/-- Alike Governors fill in alike inputs; where only one of them has a device,
both decide on evidence that was never observed. -/
theorem alike_filledInput (alike : Alike left right) (budget : BudgetId)
    (cls : WorkloadPowerClass) (requested : Watts) (requestedEnergy : Joules) (now : Timestamp) :
    (∃ fault, left.filledInput budget cls requested requestedEnergy now = .error fault ∧
      right.filledInput budget cls requested requestedEnergy now = .error fault) ∨
    ∃ input input', left.filledInput budget cls requested requestedEnergy now = .ok input ∧
      right.filledInput budget cls requested requestedEnergy now = .ok input' ∧
        (input.Alike input' ∨ input.stale = true ∧ input'.stale = true) := by
  have base := sameBase_baseInput alike budget cls requested requestedEnergy
  by_cases both : left.device.isSome ∧ right.device.isSome
  · unfold filledInput
    rw [if_pos both.1, if_pos both.2]
    rcases DeviceState.alike_filled alike.device base now with
      failed | ⟨input, input', filled, filled', same⟩
    · exact .inl failed
    · exact .inr ⟨input, input', filled, filled', .inl same⟩
  · -- One of the two is blank, so both devices are unobserved and have no samples.
    have unobserved : left.live.lastObserved.isZero = true ∧
        left.live.powerWindow.samples = [] := by
      rcases not_and_or.mp both with absent | absent
      · rw [live_of_none (by simpa using absent)]
        exact ⟨rfl, rfl⟩
      · rw [alike.device.lastObserved, alike.device.powerWindow,
          live_of_none (by simpa using absent)]
        exact ⟨rfl, rfl⟩
    have each : ∀ g : Governor, g.live.Stock → g.live.lastObserved.isZero = true →
        g.live.powerWindow.samples = [] →
        ∃ input, g.filledInput budget cls requested requestedEnergy now = .ok input ∧
          input.stale = true := by
      intro g stock never empty
      unfold filledInput
      split
      · have ordered : g.live.powerWindow.Ordered := by
          unfold PowerWindow.Ordered
          rw [empty]
          exact List.Pairwise.nil
        have spans : g.live.powerWindow.Spans := by
          unfold PowerWindow.Spans
          rw [empty]
          exact fun _ member => nomatch member
        obtain ⟨input, filled⟩ := (DeviceState.filled_returns_iff stock ordered
          (g.baseInput budget cls requested requestedEnergy) now).mpr ⟨spans, .inl never⟩
        exact ⟨input, filled, (DeviceState.stale_filled_iff filled).mpr (.inl never)⟩
      · exact ⟨_, rfl, rfl⟩
    obtain ⟨input, filled, stale⟩ :=
      each left ⟨alike.device.thermal.leftThresholds, alike.device.leftBurst⟩ unobserved.1
        unobserved.2
    rw [alike.device.lastObserved, alike.device.powerWindow] at unobserved
    obtain ⟨input', filled', stale'⟩ :=
      each right ⟨alike.device.thermal.rightThresholds, alike.device.rightBurst⟩ unobserved.1
        unobserved.2
    exact .inr ⟨input, input', filled, filled', .inr ⟨stale, stale'⟩⟩

/-- Alike Governors answer a decision alike and stay alike. -/
theorem alike_decideFor (alike : Alike left right) (budget : BudgetId) (workload : WorkloadId)
    (cls : WorkloadPowerClass) (requested : Watts) (requestedEnergy : Joules) (duration : ℚ)
    (now : Timestamp) :
    (((decideFor budget workload cls requested requestedEnergy duration now).exec left).1.map
        Decision.answer =
      ((decideFor budget workload cls requested requestedEnergy duration now).exec right).1.map
        Decision.answer) ∧
      Alike ((decideFor budget workload cls requested requestedEnergy duration now).exec left).2
        ((decideFor budget workload cls requested requestedEnergy duration now).exec right).2 := by
  rw [exec_decideFor_of_disabled alike.device.leftBurst,
    exec_decideFor_of_disabled alike.device.rightBurst]
  have evaluated : (left.filledInput budget cls requested requestedEnergy now >>=
      fun input => left.engine.evaluate left.ids input now).map
        (fun done => (done.1.answer, done.2.1.last)) =
      (right.filledInput budget cls requested requestedEnergy now >>=
        fun input => right.engine.evaluate right.ids input now).map
          fun done => (done.1.answer, done.2.1.last) := by
    rcases alike_filledInput alike budget cls requested requestedEnergy now with
      ⟨fault, failed, failed'⟩ | ⟨input, input', filled, filled', same⟩
    · rw [failed, failed']
      rfl
    · rw [filled, filled']
      rcases same with same | ⟨stale, stale'⟩
      · exact DecisionEngine.evaluate_answer same alike.last left.ids right.ids now
      · exact (DecisionEngine.evaluate_stale stale _ _ _).trans
          (DecisionEngine.evaluate_stale stale' _ _ _).symm
  generalize left.filledInput budget cls requested requestedEnergy now >>=
    (fun input => left.engine.evaluate left.ids input now) = result at evaluated ⊢
  generalize right.filledInput budget cls requested requestedEnergy now >>=
    (fun input => right.engine.evaluate right.ids input now) = result' at evaluated ⊢
  have answered := left.map_commit result
  rw [evaluated, alike.last, ← right.map_commit result'] at answered
  obtain ⟨policy, budgets, device⟩ := left.commit_keeps result
  obtain ⟨policy', budgets', device'⟩ := right.commit_keeps result'
  refine ⟨(Prod.mk.inj answered).1, ?_⟩
  constructor
  · rw [policy, policy']
    exact alike.policy
  · rw [budgets, budgets']
    exact alike.has
  · rw [budgets, budgets']
    exact alike.available
  · exact (Prod.mk.inj answered).2
  · unfold live
    rw [device, device']
    exact alike.device

/-- What an observation does not write. -/
theorem keeps_observeBackend (sample : BackendSample) (now : Timestamp) :
    Stateful.Keeps (fun g : Governor => (g.policy, g.budgets, g.engine))
      (observeBackend sample now) := by
  apply Stateful.keeps_bind Stateful.keeps_get
  intro g
  cases g.ids.allocateObservation with
  | mk id ids =>
      apply Stateful.keeps_bind
      · exact Stateful.keeps_modify fun _ => rfl
      intro _
      apply Stateful.keeps_bind
      · exact Stateful.keeps_zoom _ fun _ _ => rfl
      intro _
      apply Stateful.keeps_bind
      · exact Stateful.keeps_modify fun _ => rfl
      exact fun _ => Stateful.keeps_pure _

/-- Alike Governors stay alike over an observation. -/
theorem alike_observeBackend (alike : Alike left right) (sample : BackendSample)
    (now : Timestamp) :
    Alike ((observeBackend sample now).exec left).2 ((observeBackend sample now).exec right).2 := by
  obtain ⟨policy, kept⟩ := Prod.mk.inj (keeps_observeBackend sample now left)
  obtain ⟨budgets, engine⟩ := Prod.mk.inj kept
  obtain ⟨policy', kept'⟩ := Prod.mk.inj (keeps_observeBackend sample now right)
  obtain ⟨budgets', engine'⟩ := Prod.mk.inj kept'
  have live := (exec_observeBackend sample now left).1
  have live' := (exec_observeBackend sample now right).1
  constructor
  · rw [policy, policy']
    exact alike.policy
  · rw [budgets, budgets']
    exact alike.has
  · rw [budgets, budgets']
    exact alike.available
  · rw [engine, engine']
    exact alike.last
  · rw [live, live']
    exact DeviceState.alike_ingest alike.device sample now

end Governor

end PowerGovernor
