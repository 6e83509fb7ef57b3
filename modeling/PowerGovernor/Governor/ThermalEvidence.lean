import PowerGovernor.Decision.Recall
import PowerGovernor.Governor.AllowSoundness
import PowerGovernor.Governor.Revalidation
import PowerGovernor.Thermal.PermittedPower

/-!
The temperature behind a decision.

Owns what the calls of a run told of the temperature: the last sample with a power, whose
temperature a decision prefers, and the newest temperature that was ingested. Owns also the
exact conditions under which the thermal ceiling follows the newest temperature and under
which an old one drives no decision. One timestamp, that of the power, dates both.
-/

set_option autoImplicit false

namespace PowerGovernor

namespace DeviceState

theorem latest_heat (ds : DeviceState) (sample : BackendSample) (now : Timestamp) :
    (ds.heat sample now).latest = ds.latest := by
  unfold heat
  cases sample.temperature <;> rfl

theorem lastTemp_heat (ds : DeviceState) (sample : BackendSample) (now : Timestamp) :
    (ds.heat sample now).thermal.lastTemp = match sample.temperature with
      | some temp => some temp
      | none => ds.thermal.lastTemp := by
  unfold heat
  cases sample.temperature with
  | none => rfl
  | some temp =>
      show (ds.thermal.observe (some temp) now).lastTemp = some temp
      rw [ThermalGovernor.observe_some]

theorem latest_ingest (sample : BackendSample) (now : Timestamp) (ds : DeviceState) :
    ((ingest sample now).exec ds).2.latest =
      if sample.power.isSome then some sample else ds.latest := by
  rw [exec_ingest]
  cases sample.power with
  | none => exact latest_heat _ sample now
  | some power =>
      dsimp only
      cases (ds.powerWindow.record now power).2 with
      | error fault => rfl
      | ok _ => exact latest_heat _ sample now

theorem lastTemp_ingest (sample : BackendSample) (now : Timestamp) (ds : DeviceState) :
    ((ingest sample now).exec ds).2.thermal.lastTemp = match sample.temperature with
      | some temp =>
        if ((ingest sample now).exec ds).1.isOk then some temp else ds.thermal.lastTemp
      | none => ds.thermal.lastTemp := by
  have left := exec_ingest sample now ds
  cases present : sample.power with
  | none =>
      rw [present] at left
      rw [left]
      exact lastTemp_heat _ sample now
  | some power =>
      rw [present] at left
      dsimp only at left
      cases recorded : (ds.powerWindow.record now power).2 with
      | error fault =>
          rw [recorded] at left
          rw [left]
          cases sample.temperature <;> rfl
      | ok _ =>
          rw [recorded] at left
          rw [left]
          exact lastTemp_heat _ sample now

end DeviceState

/-- The last sample with a power, and the newest ingested temperature with its time, since the
telemetry was last invalidated. -/
structure HeatLog where
  reading : Option BackendSample
  newest : Option (Celsius × Timestamp)

namespace HeatLog

def cleared : HeatLog := ⟨none, none⟩

/-- What is known after a call. A sample whose power is refused is the last one with a power,
and its temperature is not ingested. -/
def after (log : HeatLog) (g : Governor) : GovernorCall → HeatLog
  | .observeBackend sample now =>
    { reading := if sample.power.isSome then some sample else log.reading
      newest := match sample.temperature with
        | some temp =>
          if ((Governor.observeBackend sample now).exec g).1.isOk then some (temp, now)
          else log.newest
        | none => log.newest }
  | .load file now => if (g.load file now).1 = .ok true then cleared else log
  | .invalidateLiveTelemetry => cleared
  | _ => log

variable {log : HeatLog} {g : Governor} {call : GovernorCall}

theorem after_of_invalidates (invalidates : call.Invalidates g) : log.after g call = cleared := by
  cases call with
  | load file now => exact if_pos invalidates
  | invalidateLiveTelemetry => rfl
  | _ => exact invalidates.elim

theorem after_of_kept (leaves : ¬ call.Invalidates g) (other : call.isObservation = false) :
    log.after g call = log := by
  cases call with
  | load file now => exact if_neg leaves
  | invalidateLiveTelemetry => exact absurd trivial leaves
  | observeBackend sample now => cases other
  | _ => rfl

end HeatLog

/-- One call, with what it tells. -/
def heatStep (s : Governor × HeatLog) (call : GovernorCall) : Governor × HeatLog :=
  (call.after s.1, s.2.after s.1 call)

/-- The runs of a Governor from any configuration, with what their calls told. -/
def heatRuns : TransitionSystem (Governor × HeatLog) GovernorCall where
  init := fun s => ∃ cfg ids, s = (.construct cfg ids, .cleared)
  step := fun s call s' => s' = heatStep s call

/-- The device carries what the calls told. -/
structure HeatLog.Tracks (log : HeatLog) (g : Governor) : Prop where
  reading : g.live.latest = log.reading
  newest : g.live.thermal.lastTemp = log.newest.map Prod.fst

namespace HeatLog.Tracks

variable {log : HeatLog} {g : Governor}

/-- Every call keeps the device and the knowledge in step. -/
theorem after (tracks : log.Tracks g) (call : GovernorCall) :
    (log.after g call).Tracks (call.after g) := by
  have step := call.deviceStep g
  generalize left : (call.after g).live = ds at step
  cases step with
  | observed sample now =>
      constructor
      · rw [left, DeviceState.latest_ingest, tracks.reading]
        rfl
      · rw [left, DeviceState.lastTemp_ingest, tracks.newest,
          ← (Governor.exec_observeBackend sample now g).2]
        dsimp only [HeatLog.after]
        cases sample.temperature with
        | none => rfl
        | some temp =>
            dsimp only
            split
            · rfl
            · rfl
  | invalidated invalidates =>
      rw [HeatLog.after_of_invalidates invalidates]
      exact ⟨congrArg DeviceState.latest left, congrArg (fun ds => ds.thermal.lastTemp) left⟩
  | kept leaves other burst meter =>
      rw [HeatLog.after_of_kept leaves other]
      exact ⟨(congrArg DeviceState.latest left).trans tracks.reading,
        (congrArg (fun ds => ds.thermal.lastTemp) left).trans tracks.newest⟩

end HeatLog.Tracks

/-- Where a temperature is known, the ceiling is computed from one. -/
theorem HeatLog.Tracks.ceilingTemperature {log : HeatLog} {g : Governor} (tracks : log.Tracks g)
    {newest : Celsius × Timestamp} (known : newest ∈ log.newest) :
    ∃ temp, g.live.ceilingTemperature = some temp := by
  unfold DeviceState.ceilingTemperature
  cases g.live.latest.bind BackendSample.temperature with
  | some temp => exact ⟨temp, rfl⟩
  | none =>
      refine ⟨newest.1, ?_⟩
      rw [tracks.newest, Option.mem_def.mp known]
      rfl

/-- In every reachable state the device carries what the calls told, and is as it was made. -/
theorem heat_of_reachable {s : Governor × HeatLog} (reached : heatRuns.Reachable s) :
    s.1.live.Stock ∧ s.2.Tracks s.1 := by
  refine reached.invariant (fun s => s.1.live.Stock ∧ s.2.Tracks s.1) ?_ ?_
  · rintro s ⟨cfg, ids, rfl⟩
    exact ⟨DeviceState.stock_invariant.blank, rfl, rfl⟩
  · rintro s call s' ⟨stock, tracks⟩ rfl
    exact ⟨DeviceState.stock_invariant.after stock call, tracks.after call⟩

/-! ## The thermal facts of a decision -/

namespace DeviceState

variable {ds : DeviceState}

theorem thermal_of_filled {base input : DecisionInput} {now : Timestamp}
    (returned : ds.filled base now = .ok input) :
    ds.thermalCeiling base.hardwareCap = .ok input.thermalCeiling ∧
      input.thermalKnown = decide (ds.thermal.state ≠ .unknown) := by
  obtain ⟨average, _, returned⟩ := bind_eq_ok.mp returned
  obtain ⟨_, _, returned⟩ := bind_eq_ok.mp returned
  obtain ⟨ceiling, permitted, returned⟩ := bind_eq_ok.mp returned
  obtain ⟨freshness, _, returned⟩ := bind_eq_ok.mp returned
  obtain rfl := Except.ok.inj returned
  exact ⟨permitted, rfl⟩

/-- Under a positive cap the ceiling is what the preferred temperature permits. -/
theorem thermalCeiling_of_positive {cap : Watts} (positive : 0 < cap.value) :
    ds.thermalCeiling (some cap) = ds.thermal.permittedPower cap ds.ceilingTemperature := by
  unfold thermalCeiling
  cases ds.ceilingTemperature with
  | none => rfl
  | some temp => exact if_pos positive

end DeviceState

namespace ThermalGovernor

/-- Under a positive cap two temperatures permit the same exactly when their fractions agree. -/
theorem permittedPower_eq_iff {th : ThermalGovernor}
    (fractional : th.thresholds.FractionalReduction) {cap : Watts} (positive : 0 < cap.value)
    (left right : Celsius) :
    th.permittedPower cap (some left) = th.permittedPower cap (some right) ↔
      th.headroomFraction (some left) = th.headroomFraction (some right) := by
  obtain ⟨less, permitted, value⟩ := permittedPower_some fractional cap left
  obtain ⟨more, permitted', value'⟩ := permittedPower_some fractional cap right
  rw [permitted, permitted', Except.ok.injEq, Option.some.injEq, Quantity.ext_iff, value, value']
  exact mul_right_inj' positive.ne'

end ThermalGovernor

namespace Governor

variable {g : Governor} {budget : BudgetId} {cls : WorkloadPowerClass} {requested : Watts}
  {requestedEnergy : Joules} {duration : ℚ} {now : Timestamp} {input : DecisionInput}

theorem thermal_of_fillInput (stock : g.live.Stock)
    (returned : ((fillInput budget cls requested requestedEnergy duration now).exec g).1 =
      .ok input) :
    g.live.thermalCeiling g.hardwareCeiling = .ok input.thermalCeiling ∧
      input.thermalKnown = decide (g.live.thermal.state ≠ .unknown) := by
  rw [exec_fillInput_of_disabled stock.burst] at returned
  unfold filledInput at returned
  dsimp only at returned
  split at returned
  · exact DeviceState.thermal_of_filled returned
  · rename_i absent
    obtain rfl := Except.ok.inj returned
    rw [live_of_none (Option.not_isSome_iff_eq_none.mp absent)]
    cases g.hardwareCeiling <;> exact ⟨rfl, rfl⟩

/-- The temperature a decision prefers, that of the last sample with a power, permits what
the newest one does. -/
def PrefersNewest (s : Governor × HeatLog) : Prop :=
  ∀ temp, s.2.reading.bind BackendSample.temperature = some temp →
    ∃ newest ∈ s.2.newest, s.1.live.thermal.headroomFraction (some temp) =
      s.1.live.thermal.headroomFraction (some newest.1)

/-- In every run, a decision under a positive cap uses as thermal ceiling what the newest
ingested temperature permits, exactly when it prefers no temperature that permits
otherwise. -/
theorem ceiling_follows_newest_iff {s : Governor × HeatLog} (reached : heatRuns.Reachable s)
    {cap : Watts} (capped : s.1.hardwareCeiling = some cap) (positive : 0 < cap.value)
    (filled : ((fillInput budget cls requested requestedEnergy duration now).exec s.1).1 =
      .ok input) :
    s.1.live.thermal.permittedPower cap (s.2.newest.map Prod.fst) = .ok input.thermalCeiling ↔
      PrefersNewest s := by
  obtain ⟨stock, tracks⟩ := heat_of_reachable reached
  have fractional := ThermalGovernor.fractional_of_standard stock.thresholds
  obtain ⟨ceiling, _⟩ := thermal_of_fillInput stock filled
  rw [capped, DeviceState.thermalCeiling_of_positive positive] at ceiling
  rw [← ceiling]
  unfold PrefersNewest DeviceState.ceilingTemperature
  rw [tracks.reading, tracks.newest]
  cases preferred : s.2.reading.bind BackendSample.temperature with
  | none => exact iff_of_true rfl nofun
  | some temp =>
      obtain ⟨power, permitted, _⟩ := ThermalGovernor.permittedPower_some fractional cap temp
      cases s.2.newest with
      | none =>
          refine iff_of_false (fun none => ?_) fun prefers => ?_
          · cases none.trans permitted
          · obtain ⟨_, member, _⟩ := prefers temp rfl
            cases member
      | some newest =>
          rw [Option.map_some, ThermalGovernor.permittedPower_eq_iff fractional positive]
          constructor
          · rintro same _ ⟨⟩
            exact ⟨newest, rfl, same.symm⟩
          · intro prefers
            obtain ⟨_, ⟨⟩, same⟩ := prefers temp rfl
            exact same.symm

/-! ## Concrete runs -/

theorem seventy_admitted : UnitTag.celsius.dim.Admits 70 := by decide +kernel

/-- 100 W drawn, a limit of 300 W, and 70 degrees. -/
def warmSample : BackendSample :=
  { BackendSample.blank with
    power := some (Watts.clamped 100)
    temperature := some ⟨70, seventy_admitted⟩
    powerLimit := some (Watts.clamped 300) }

/-- 50 degrees, and no power. -/
def coolSample : BackendSample :=
  { BackendSample.blank with temperature := some ⟨50, by decide +kernel⟩ }

/-- A fresh Governor, the warm sample at one second, and then the given calls. -/
def warmRun (calls : List GovernorCall) : Governor × HeatLog :=
  (GovernorCall.observeBackend warmSample .fullSecond :: calls).foldl
    heatStep (.construct ⟨⟨1⟩, ⟨1⟩, .first⟩ .start, .cleared)

theorem reachable_warmRun (calls : List GovernorCall) : heatRuns.Reachable (warmRun calls) := by
  have start : heatRuns.Reachable (.construct ⟨⟨1⟩, ⟨1⟩, .first⟩ .start, .cleared) :=
    .start ⟨_, _, rfl⟩
  exact start.run (fun _ _ => rfl) _

/-- The input of a decision on 10 W, and the decision. -/
def tenWatts (g : Governor) (now : Timestamp) :
    Except Fault DecisionInput × Except Fault Decision :=
  (((fillInput ⟨0⟩ .throughput (Watts.clamped 10) Joules.zero 0 now).exec g).1,
    ((decideFor ⟨0⟩ ⟨1⟩ .throughput (Watts.clamped 10) Joules.zero 0 now).exec g).1)

/-- After the warm sample alone a decision is filled in, and it prefers the newest
temperature. -/
theorem ceiling_follows_newest_iff_warm : ∃ input, (tenWatts (warmRun []).1 decisionTime).1 =
    .ok input ∧ ((warmRun []).1.live.thermal.permittedPower (Watts.clamped 300)
        ((warmRun []).2.newest.map Prod.fst) = .ok input.thermalCeiling ↔
      PrefersNewest (warmRun [])) := by
  cases filled : (tenWatts (warmRun []).1 decisionTime).1 with
  | ok input =>
      refine ⟨input, rfl, ceiling_follows_newest_iff (reachable_warmRun []) ?_ ?_ filled⟩
      · decide +kernel
      · decide +kernel
  | error fault =>
      have returns : (tenWatts (warmRun []).1 decisionTime).1.isOk = true := by decide +kernel
      rw [filled] at returns
      cases returns

/-- Fifty milliseconds after the warm sample. -/
def coolTime : Timestamp := chargeTime

/-- A sample of 50 degrees without a power does not replace the one of 70 degrees that came
with it: the ceiling stays at 252 W, where 50 degrees permit 300 W. -/
theorem ceiling_of_replaced_temperature :
    heatRuns.Reachable (warmRun [.observeBackend coolSample coolTime]) ∧
    (warmRun [.observeBackend coolSample coolTime]).1.hardwareCeiling =
      some (Watts.clamped 300) ∧
    (tenWatts (warmRun [.observeBackend coolSample coolTime]).1 decisionTime).1.map
        DecisionInput.thermalCeiling = .ok (some (Watts.clamped 252)) ∧
    (warmRun [.observeBackend coolSample coolTime]).1.live.thermal.permittedPower
        (Watts.clamped 300)
        ((warmRun [.observeBackend coolSample coolTime]).2.newest.map Prod.fst) =
      .ok (some (Watts.clamped 300)) := by
  refine ⟨reachable_warmRun _, ?_, ?_, ?_⟩
  · decide +kernel
  · decide +kernel
  · decide +kernel

/-! ## Old temperatures -/

/-- The newest temperature is as old as the evidence of a decision must not be. -/
def HeatIsOld (s : Governor × HeatLog) (now : Timestamp) : Prop :=
  ∃ newest ∈ s.2.newest, newest.2.ns +
    max s.1.policy.observationFreshness.ns s.1.policy.observationStale.ns ≤ now.ns

/-- On an old temperature the decision takes the thermal state as unknown and uses no thermal
ceiling, or it asks for revalidation. -/
def IgnoresOldHeat (s : Governor × HeatLog) (now : Timestamp) (input : DecisionInput)
    (d : Decision) : Prop :=
  HeatIsOld s now →
    input.thermalKnown = false ∧ input.thermalCeiling = none ∨ d.verdict = .revalidationRequired

/-- An old temperature comes with power evidence that is not current either, or with a state
still unknown and no positive cap, or the hysteresis repeats a request for revalidation. -/
def OldHeatIsHarmless (s : Governor × HeatLog) (now : Timestamp) (input : DecisionInput) : Prop :=
  HeatIsOld s now →
    (s.1.live.lastObserved.isZero = true ∨
        max s.1.policy.observationFreshness.ns s.1.policy.observationStale.ns ≤
          max 0 (now.ns - s.1.live.lastObserved.ns)) ∨
      (s.1.live.thermal.state = .unknown ∧
        ∀ cap ∈ s.1.hardwareCeiling, cap.value ≤ 0) ∨
      (∃ outcome, input.stages = .defaultAllow outcome) ∧
        s.1.engine.held s.1.policy.minStableDuration now = .ok (some .revalidationRequired)

/-- What the decision answered and what it was made from. -/
theorem outcome_of_decideFor {workload : WorkloadId} {d : Decision} {g' : Governor}
    (stock : g.live.Stock)
    (filled : ((fillInput budget cls requested requestedEnergy duration now).exec g).1 = .ok input)
    (decided : (decideFor budget workload cls requested requestedEnergy duration now).exec g =
      (.ok d, g')) :
    ∃ outcome, g.engine.resolve input now = .ok outcome ∧ d.verdict = outcome.verdict := by
  have filled : g.filledInput budget cls requested requestedEnergy now = .ok input := by
    rw [exec_fillInput_of_disabled stock.burst] at filled
    exact filled
  rw [exec_decideFor_of_disabled stock.burst, filled] at decided
  change g.commit (g.engine.evaluate g.ids input now) = _ at decided
  cases evaluated : g.engine.evaluate g.ids input now with
  | error fault =>
      rw [evaluated] at decided
      cases decided
  | ok made =>
      obtain ⟨outcome, resolved, verdict, _⟩ := DecisionEngine.evaluate_eq_ok evaluated
      rw [evaluated] at decided
      obtain rfl := Except.ok.inj (congrArg Prod.fst decided)
      exact ⟨outcome, resolved, verdict⟩

/-- A decision asks for revalidation on old power evidence, and where the hysteresis repeats
such a request. -/
theorem verdict_asks_iff {workload : WorkloadId} {d : Decision} {g' : Governor}
    (stock : g.live.Stock)
    (filled : ((fillInput budget cls requested requestedEnergy duration now).exec g).1 = .ok input)
    (decided : (decideFor budget workload cls requested requestedEnergy duration now).exec g =
      (.ok d, g')) :
    d.verdict = .revalidationRequired ↔
      (g.live.lastObserved.isZero = true ∨
          max g.policy.observationFreshness.ns g.policy.observationStale.ns ≤
            max 0 (now.ns - g.live.lastObserved.ns)) ∨
        (∃ outcome, input.stages = .defaultAllow outcome) ∧
          g.engine.held g.policy.minStableDuration now = .ok (some .revalidationRequired) := by
  obtain ⟨outcome, resolved, verdict⟩ := outcome_of_decideFor stock filled decided
  rw [exec_fillInput_of_disabled stock.burst] at filled
  obtain ⟨policy, current, stale⟩ := facts_of_filledInput filled
  have asks : d.verdict = .revalidationRequired ↔ ∃ outcome,
      g.engine.resolve input now = .ok outcome ∧ outcome.verdict = .revalidationRequired := by
    rw [verdict]
    constructor
    · exact fun same => ⟨outcome, resolved, same⟩
    · rintro ⟨other, again, same⟩
      obtain rfl := Except.ok.inj (resolved.symm.trans again)
      exact same
  have notCurrent : ¬ input.Current ↔ input.stale = true := by
    rw [← Bool.not_eq_false, not_iff_not]
    exact ⟨fun holds => holds.notStale, fun notStale => ⟨current, notStale⟩⟩
  rw [asks, DecisionEngine.resolve_asks_iff, notCurrent, stale, policy]

/-- In every run, a decision is not driven by an old temperature exactly when that one is
harmless: the age of the evidence is that of the power alone. -/
theorem old_heat_ignored_iff {s : Governor × HeatLog} (reached : heatRuns.Reachable s)
    {workload : WorkloadId} {d : Decision} {g' : Governor}
    (filled : ((fillInput budget cls requested requestedEnergy duration now).exec s.1).1 =
      .ok input)
    (decided : (decideFor budget workload cls requested requestedEnergy duration now).exec s.1 =
      (.ok d, g')) :
    IgnoresOldHeat s now input d ↔ OldHeatIsHarmless s now input := by
  obtain ⟨stock, tracks⟩ := heat_of_reachable reached
  obtain ⟨ceiling, known⟩ := thermal_of_fillInput stock filled
  unfold IgnoresOldHeat OldHeatIsHarmless
  refine forall_congr' fun ⟨newest, member, _⟩ => ?_
  have unknown : input.thermalKnown = false ↔ s.1.live.thermal.state = .unknown := by
    rw [known, decide_eq_false_iff_not, not_not]
  have unlimited : input.thermalCeiling = none ↔ ∀ cap ∈ s.1.hardwareCeiling, cap.value ≤ 0 := by
    obtain ⟨temp, preferred⟩ := tracks.ceilingTemperature member
    rw [DeviceState.thermalCeiling_eq stock.thresholds, preferred] at ceiling
    rw [← Except.ok.inj ceiling, Option.bind_some, Option.map_eq_none_iff,
      Option.filter_eq_none_iff]
    simp
  rw [verdict_asks_iff stock filled decided, unknown, unlimited]
  exact or_left_comm

/-- A decision after the warm sample alone. -/
theorem old_heat_ignored_iff_warm : ∃ input d,
    tenWatts (warmRun []).1 decisionTime = (.ok input, .ok d) ∧
      (IgnoresOldHeat (warmRun []) decisionTime input d ↔
        OldHeatIsHarmless (warmRun []) decisionTime input) := by
  cases filled : (tenWatts (warmRun []).1 decisionTime).1 with
  | ok input =>
      cases decided : (tenWatts (warmRun []).1 decisionTime).2 with
      | ok d =>
          refine ⟨input, d, Prod.ext filled decided, ?_⟩
          exact old_heat_ignored_iff (reachable_warmRun []) filled (Prod.ext decided rfl)
      | error fault =>
          have returns : (tenWatts (warmRun []).1 decisionTime).2.isOk = true := by decide +kernel
          rw [decided] at returns
          cases returns
  | error fault =>
      have returns : (tenWatts (warmRun []).1 decisionTime).1.isOk = true := by decide +kernel
      rw [filled] at returns
      cases returns

/-- Two seconds after the warm sample, and 100 ms after that. -/
def powerTime : Timestamp := ⟨3000000000, by decide, by decide⟩

def lateTime : Timestamp := ⟨3100000000, by decide, by decide⟩

/-- A sample with power alone keeps a temperature of 2.1 s ago in force: the state counts as
known, the ceiling is computed from it, and the decision allows. -/
theorem old_heat_used :
    heatRuns.Reachable (warmRun [.observeBackend reportedSample powerTime]) ∧
    HeatIsOld (warmRun [.observeBackend reportedSample powerTime]) lateTime ∧
    (tenWatts (warmRun [.observeBackend reportedSample powerTime]).1 lateTime).1.map
        (fun input => (input.thermalKnown, input.thermalCeiling)) =
      .ok (true, some (Watts.clamped (336 / 5))) ∧
    (tenWatts (warmRun [.observeBackend reportedSample powerTime]).1 lateTime).2.map
        Decision.verdict = .ok .allow := by
  refine ⟨reachable_warmRun _, ⟨(⟨70, by decide +kernel⟩, _), rfl, ?_⟩, ?_, ?_⟩
  · decide +kernel
  · decide +kernel
  · decide +kernel

end Governor

end PowerGovernor
