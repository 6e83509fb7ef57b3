import PowerGovernor.Governor.PolicyInForce
import PowerGovernor.Governor.ThermalEvidence

/-!
What the policy in force asks of the device.

Owns the thermal governor and the burst budget built from the policy in force, fed
with what the device is fed, and the runs along which every decision uses them. The
device builds its own from the defaults when it is created, and no install rebuilds
them.
-/

set_option autoImplicit false

namespace PowerGovernor

/-- A thermal governor and a burst budget as a policy asks for them. -/
structure Enforced where
  thermal : ThermalGovernor
  burst : BurstBudget

namespace Enforced

def of (p : PowerPolicy) : Enforced := ⟨.construct p.thermalThresholds, .construct p.burstLimits⟩

/-- A device that uses them in place of its own. -/
def on (wanted : Enforced) (ds : DeviceState) : DeviceState :=
  { ds with thermal := wanted.thermal, burst := wanted.burst }

/-- The ceiling the thermal governor permits at the last temperature it was fed. -/
def ceiling (wanted : Enforced) (hardwareCap : Option Watts) : Except Fault (Option Watts) :=
  match hardwareCap, wanted.thermal.lastTemp with
  | some cap, some temp =>
    if 0 < cap.value then wanted.thermal.permittedPower cap (some temp) else .ok none
  | _, _ => .ok none

/-- They are built anew for every policy that comes into force. They see each observation and
each decision as the device does, and are reset where the telemetry is invalidated. -/
def after (wanted : Enforced) (g : Governor) (call : GovernorCall) : Enforced :=
  let wanted := ((call.installed? g).map of).getD wanted
  match call with
  | .observeBackend sample now =>
    { wanted with thermal := ((DeviceState.ingest sample now).exec (wanted.on g.live)).2.thermal }
  | .decideFor budget _ cls requested requestedEnergy duration now =>
    if g.device.isSome then
      { wanted with
        burst := ((DeviceState.fill (g.baseInput budget cls requested requestedEnergy) duration
          now).exec (wanted.on g.live)).2.burst }
    else wanted
  | .load file now =>
    if (g.load file now).1 = .ok true then { wanted with thermal := wanted.thermal.reset }
    else wanted
  | .invalidateLiveTelemetry => { wanted with thermal := wanted.thermal.reset }
  | _ => wanted

end Enforced

/-- One call, with what the policy in force asks for. -/
def enforcedStep (s : Governor × Enforced) (call : GovernorCall) : Governor × Enforced :=
  (call.after s.1, s.2.after s.1 call)

namespace Governor

/-- A Governor with what its first policy asks for. -/
def enforcedStart (cfg : GovernorConfig) (ids : Allocators) : Governor × Enforced :=
  (construct cfg ids, .of (construct cfg ids).policy)

/-- Under a positive ceiling the temperature of the last sample with a power permits what the
newest one does. -/
def CeilingIsCurrent (g : Governor) : Prop :=
  ∀ cap ∈ g.hardwareCeiling, 0 < cap.value →
    ∀ temp, g.live.latest.bind BackendSample.temperature = some temp →
      ∃ newest ∈ g.live.thermal.lastTemp, g.live.thermal.headroomFraction (some temp) =
        g.live.thermal.headroomFraction (some newest)

/-- The device has been fed no temperature since it was created or invalidated. -/
def Unheated (g : Governor) : Prop := g.live.thermal = .construct .standard

end Governor

namespace GovernorCall

/-- A decision uses the thermal state, the thermal ceiling and the burst availability that the
policy in force asks for. -/
def Enforces (s : Governor × Enforced) : GovernorCall → Prop
  | .decideFor budget _ cls requested requestedEnergy duration now =>
    ∀ input, ((Governor.fillInput budget cls requested requestedEnergy duration now).exec s.1).1 =
        .ok input →
      input.thermalState = s.2.thermal.state ∧
        s.2.ceiling s.1.hardwareCeiling = .ok input.thermalCeiling ∧
        ((BurstBudget.canBurst (Joules.clamped (requested.value * max duration 0)) now).exec
          s.2.burst).1 = .ok input.burstAvailable
  | _ => True

/-- An accepted install asks for the default thresholds and for no burst, before any
temperature; a load that writes a policy succeeds, or comes before any temperature; and a
decision finds no older temperature in the last sample with a power. -/
def Conforms (g : Governor) : GovernorCall → Prop
  | .installPolicy p => g.Installs p →
    p.thermalThresholds = .standard ∧ p.burstLimits.enabled = false ∧ g.Unheated
  | .load file now => (g.loadedPolicy? file).isSome →
    (g.load file now).1 = .ok true ∨ g.Unheated
  | .decideFor .. => g.CeilingIsCurrent
  | _ => True

end GovernorCall

/-- The device is what the policy in force asks for. -/
structure Enforced.Matches (wanted : Enforced) (g : Governor) : Prop where
  stock : g.live.Stock
  thermal : wanted.thermal = g.live.thermal
  burst : wanted.burst.limits.enabled = false

namespace Enforced

variable {wanted : Enforced} {g : Governor}

/-! ## One decision -/

/-- On the newest temperature the device permits what the policy in force asks for. -/
theorem Matches.ceiling (same : wanted.Matches g) (current : g.CeilingIsCurrent) :
    wanted.ceiling g.hardwareCeiling = g.live.thermalCeiling g.hardwareCeiling := by
  unfold Enforced.ceiling DeviceState.thermalCeiling DeviceState.ceilingTemperature
  rw [same.thermal]
  cases capped : g.hardwareCeiling with
  | none => rfl
  | some cap =>
      cases preferred : g.live.latest.bind BackendSample.temperature with
      | none => rfl
      | some temp =>
          by_cases positive : 0 < cap.value
          · obtain ⟨newest, known, agree⟩ := current cap capped positive temp preferred
            have fractional := ThermalGovernor.fractional_of_standard same.stock.thresholds
            rw [Option.mem_def.mp known]
            dsimp only
            rw [if_pos positive, if_pos positive,
              ThermalGovernor.permittedPower_eq_iff fractional positive]
            exact agree.symm
          · cases g.live.thermal.lastTemp with
            | none => exact (if_neg positive).symm
            | some newest =>
                dsimp only
                rw [if_neg positive, if_neg positive]

end Enforced

theorem DeviceState.heat_of_filled {ds : DeviceState} {base input : DecisionInput}
    {now : Timestamp} (returned : ds.filled base now = .ok input) :
    input.thermalState = ds.thermal.state ∧ input.burstAvailable = false := by
  obtain ⟨average, _, returned⟩ := bind_eq_ok.mp returned
  obtain ⟨_, _, returned⟩ := bind_eq_ok.mp returned
  obtain ⟨ceiling, _, returned⟩ := bind_eq_ok.mp returned
  obtain ⟨freshness, _, returned⟩ := bind_eq_ok.mp returned
  obtain rfl := Except.ok.inj returned
  exact ⟨rfl, rfl⟩

/-- A decision is filled in with the thermal state of the device and without a burst. -/
theorem Governor.heat_of_fillInput {g : Governor} {budget : BudgetId} {cls : WorkloadPowerClass}
    {requested : Watts} {requestedEnergy : Joules} {duration : ℚ} {now : Timestamp}
    {input : DecisionInput} (stock : g.live.Stock)
    (returned : ((fillInput budget cls requested requestedEnergy duration now).exec g).1 =
      .ok input) :
    input.thermalState = g.live.thermal.state ∧ input.burstAvailable = false := by
  rw [exec_fillInput_of_disabled stock.burst] at returned
  unfold filledInput at returned
  dsimp only at returned
  split at returned
  · exact DeviceState.heat_of_filled returned
  · rename_i absent
    obtain rfl := Except.ok.inj returned
    rw [live_of_none (Option.not_isSome_iff_eq_none.mp absent)]
    exact ⟨rfl, rfl⟩

theorem BurstBudget.canBurst_of_disabled {b : BurstBudget} (disabled : b.limits.enabled = false)
    (j : Joules) (now : Timestamp) : ((canBurst j now).exec b).1 = .ok false := by
  unfold canBurst
  rw [Stateful.exec_bind_of_ok (Stateful.exec_get b), disabled]
  rfl

namespace Enforced

variable {wanted : Enforced} {g : Governor} {call : GovernorCall}

/-- A device that is what the policy asks for enforces it. -/
theorem Matches.enforces (same : wanted.Matches g) (conforms : call.Conforms g) :
    call.Enforces (g, wanted) := by
  cases call with
  | decideFor budget workload cls requested requestedEnergy duration now =>
      intro input filled
      obtain ⟨state, noBurst⟩ := Governor.heat_of_fillInput same.stock filled
      obtain ⟨ceiling, _⟩ := Governor.thermal_of_fillInput same.stock filled
      refine ⟨?_, ?_, ?_⟩
      · rw [state, same.thermal]
      · exact (same.ceiling conforms).trans ceiling
      · rw [noBurst]
        exact BurstBudget.canBurst_of_disabled same.burst _ now
  | _ => trivial

/-! ## One call -/

theorem thermal_ingest_on (same : wanted.thermal = g.live.thermal) (sample : BackendSample)
    (now : Timestamp) :
    ((DeviceState.ingest sample now).exec (wanted.on g.live)).2.thermal =
      ((DeviceState.ingest sample now).exec g.live).2.thermal := by
  have heat : ∀ left right : DeviceState, left.thermal = right.thermal →
      (left.heat sample now).thermal = (right.heat sample now).thermal := by
    intro left right same
    unfold DeviceState.heat
    cases sample.temperature with
    | none => exact same
    | some temp => exact congrArg (fun th => th.observe (some temp) now) same
  rw [DeviceState.exec_ingest, DeviceState.exec_ingest]
  unfold Enforced.on
  cases sample.power with
  | none => exact heat _ _ same
  | some power =>
      dsimp only
      cases (g.live.powerWindow.record now power).2 with
      | error fault => exact same
      | ok _ => exact heat _ _ same

/-- A recovered policy asks for the default thresholds and for no burst. -/
theorem of_loaded {file : Option Bytes} {p : PowerPolicy} (loaded : g.loadedPolicy? file = some p) :
    of p = ⟨.construct .standard, .construct .blank⟩ := by
  obtain ⟨header, caps, rfl⟩ := Governor.eq_of_loadedPolicy? loaded
  unfold policyWithCaps
  split <;> rfl

/-- A bucket that is not enabled stays so. -/
theorem burst_fill_on (disabled : wanted.burst.limits.enabled = false) (input : DecisionInput)
    (duration : ℚ) (now : Timestamp) :
    ((DeviceState.fill input duration now).exec (wanted.on g.live)).2.burst = wanted.burst := by
  have unchanged : (wanted.on g.live).burst.limits.enabled = false := disabled
  rw [DeviceState.exec_fill_of_disabled unchanged]
  rfl

/-- A load that writes no policy, or one before any temperature, or one that succeeds. -/
theorem Matches.load (same : wanted.Matches g) {file : Option Bytes} {now : Timestamp}
    (conforms : (GovernorCall.load file now).Conforms g) :
    (wanted.after g (.load file now)).thermal = (g.load file now).2.live.thermal ∧
      (wanted.after g (.load file now)).burst.limits.enabled = false := by
  let renewed : Enforced := ((g.loadedPolicy? file).map of).getD wanted
  have standard : renewed.thermal.thresholds = .standard ∧
      renewed.burst.limits.enabled = false := by
    dsimp only [renewed]
    cases loaded : g.loadedPolicy? file with
    | none => exact ⟨same.thermal ▸ same.stock.thresholds, same.burst⟩
    | some p =>
        rw [Option.map_some, Option.getD_some, of_loaded loaded]
        exact ⟨rfl, rfl⟩
  have after : wanted.after g (.load file now) = if (g.load file now).1 = .ok true then
      { renewed with thermal := renewed.thermal.reset } else renewed := rfl
  rw [after]
  rcases g.device_load file now with ⟨accepted, device⟩ | ⟨refused, device⟩
  · rw [if_pos accepted, Governor.live_of_invalidated device]
    refine ⟨?_, standard.2⟩
    show ThermalGovernor.construct renewed.thermal.thresholds =
      .construct g.live.thermal.thresholds
    rw [standard.1, same.stock.thresholds]
  · rw [if_neg refused, Governor.live_of_same device]
    refine ⟨?_, standard.2⟩
    dsimp only [renewed]
    cases loaded : g.loadedPolicy? file with
    | none => exact same.thermal
    | some p =>
        have unheated : g.Unheated := (conforms (by rw [loaded]; rfl)).resolve_left refused
        rw [Option.map_some, Option.getD_some, of_loaded loaded]
        exact unheated.symm

/-- An installation that is refused, or one of the default thresholds and of no burst before
any temperature. -/
theorem Matches.installPolicy (same : wanted.Matches g) {p : PowerPolicy}
    (conforms : (GovernorCall.installPolicy p).Conforms g) :
    (wanted.after g (.installPolicy p)).thermal = g.live.thermal ∧
      (wanted.after g (.installPolicy p)).burst.limits.enabled = false := by
  have after : wanted.after g (.installPolicy p) =
      ((if g.Installs p then some p else none).map of).getD wanted := rfl
  rw [after]
  by_cases installs : g.Installs p
  · obtain ⟨standard, noBurst, unheated⟩ := conforms installs
    rw [if_pos installs]
    refine ⟨?_, noBurst⟩
    show ThermalGovernor.construct p.thermalThresholds = g.live.thermal
    rw [standard, unheated]
  · rw [if_neg installs]
    exact ⟨same.thermal, same.burst⟩

/-- A decision leaves the thermal state. -/
theorem thermal_after_decideFor (g : Governor) (budget : BudgetId) (workload : WorkloadId)
    (cls : WorkloadPowerClass) (requested : Watts) (requestedEnergy : Joules) (duration : ℚ)
    (now : Timestamp) :
    ((GovernorCall.decideFor budget workload cls requested requestedEnergy duration now).after
      g).live.thermal = g.live.thermal := by
  have step := (GovernorCall.decideFor budget workload cls requested requestedEnergy duration
    now).deviceStep g
  generalize ((GovernorCall.decideFor budget workload cls requested requestedEnergy duration
    now).after g).live = ds at step
  cases step with
  | invalidated invalidates => exact invalidates.elim
  | kept leaves other burst meter => rfl

/-- A conforming call leaves a device that is what the policy then asks for. -/
theorem Matches.after (same : wanted.Matches g) (conforms : call.Conforms g) :
    (wanted.after g call).Matches (call.after g) := by
  have stock : (call.after g).live.Stock := DeviceState.stock_invariant.after same.stock call
  have unchanged : ∀ {call : GovernorCall}, call.leavesDevice = true →
      wanted.thermal = (call.after g).live.thermal := by
    intro call leaves
    rw [Governor.live_of_same (GovernorCall.device_after leaves)]
    exact same.thermal
  cases call with
  | installPolicy p =>
      obtain ⟨thermal, burst⟩ := same.installPolicy conforms
      have live : ((GovernorCall.installPolicy p).after g).live = g.live :=
        Governor.live_of_same (GovernorCall.device_after rfl)
      refine ⟨stock, ?_, burst⟩
      rw [live]
      exact thermal
  | load file now =>
      obtain ⟨thermal, burst⟩ := same.load conforms
      exact ⟨stock, thermal, burst⟩
  | observeBackend sample now =>
      refine ⟨stock, ?_, same.burst⟩
      show _ = ((Governor.observeBackend sample now).exec g).2.live.thermal
      rw [(Governor.exec_observeBackend sample now g).1]
      exact thermal_ingest_on same.thermal sample now
  | decideFor budget workload cls requested requestedEnergy duration now =>
      have present : wanted.after g (.decideFor budget workload cls requested requestedEnergy
          duration now) = if g.device.isSome then { wanted with burst := ((DeviceState.fill
            (g.baseInput budget cls requested requestedEnergy) duration now).exec
              (wanted.on g.live)).2.burst } else wanted := rfl
      rw [burst_fill_on same.burst, ite_self] at present
      rw [present]
      exact ⟨stock, same.thermal.trans (thermal_after_decideFor ..).symm, same.burst⟩
  | accountEnergy workload energy provenance now =>
      refine ⟨stock, same.thermal.trans ?_, same.burst⟩
      show g.live.thermal = (g.accountEnergy workload energy provenance now).live.thermal
      unfold Governor.accountEnergy Governor.live
      cases g.device <;> rfl
  | invalidateLiveTelemetry =>
      refine ⟨stock, ?_, same.burst⟩
      show wanted.thermal.reset = g.invalidateLiveTelemetry.live.thermal
      rw [Governor.live_of_invalidated rfl, same.thermal]
      rfl
  | _ => exact ⟨stock, unchanged rfl, same.burst⟩

end Enforced

/-! ## Runs -/

namespace Governor

/-- In every run whose calls conform, every decision uses what the policy in force asks for. -/
theorem policy_enforced (cfg : GovernorConfig) (ids : Allocators) {calls : List GovernorCall}
    (conforming : Along enforcedStep (fun s call => call.Conforms s.1) (enforcedStart cfg ids)
      calls) :
    Along enforcedStep (fun s call => call.Enforces s) (enforcedStart cfg ids) calls := by
  have start : (enforcedStart cfg ids).2.Matches (enforcedStart cfg ids).1 :=
    ⟨DeviceState.stock_invariant.blank, rfl, rfl⟩
  refine conforming.of_invariant (fun s => s.2.Matches s.1) ?_ start
  exact fun s call same conforms => ⟨same.enforces conforms, same.after conforms⟩

theorem eighty_admitted : UnitTag.celsius.dim.Admits 80 := by decide +kernel

/-- A policy with the default thresholds and limits, and one that calls 70 degrees cool. -/
def secondPolicy : PowerPolicy := PowerPolicy.defaults ⟨9⟩ defaultName

def coolPolicy : PowerPolicy :=
  { secondPolicy with
    thermalThresholds := { ThermalThresholds.standard with coolMax := ⟨80, eighty_admitted⟩ } }

/-- A policy, the warm sample at one second, and a decision. -/
def warmUnder (p : PowerPolicy) : List GovernorCall :=
  [.installPolicy p, .observeBackend warmSample .fullSecond,
    .decideFor ⟨0⟩ ⟨1⟩ .throughput (Watts.clamped 10) Joules.zero 0 decisionTime]

/-- The Governor when the decision is made, and what its policy asks for. -/
def beforeDecision (p : PowerPolicy) : Governor × Enforced :=
  ((warmUnder p).take 2).foldl enforcedStep (enforcedStart ⟨⟨1⟩, ⟨1⟩, .first⟩ .start)

theorem policy_enforced_second :
    Along enforcedStep (fun s call => call.Enforces s) (enforcedStart ⟨⟨1⟩, ⟨1⟩, .first⟩ .start)
      (warmUnder secondPolicy) := by
  refine policy_enforced ⟨⟨1⟩, ⟨1⟩, .first⟩ .start ⟨fun _ => ⟨rfl, rfl, rfl⟩, trivial, ?_, trivial⟩
  intro _ _ _ temp preferred
  have newest : (beforeDecision secondPolicy).1.live.thermal.lastTemp =
      (beforeDecision secondPolicy).1.live.latest.bind BackendSample.temperature := by
    decide +kernel
  exact ⟨temp, newest.trans preferred, rfl⟩

/-- The device calls 70 degrees warm under a policy that asks to call them cool. -/
theorem thresholds_not_enforced :
    ¬ ∀ (cfg : GovernorConfig) (ids : Allocators) (calls : List GovernorCall),
      Along enforcedStep (fun s call => call.Enforces s) (enforcedStart cfg ids) calls := by
  intro always
  obtain ⟨_, _, enforces, _⟩ := always ⟨⟨1⟩, ⟨1⟩, .first⟩ .start (warmUnder coolPolicy)
  have filled : ((fillInput ⟨0⟩ .throughput (Watts.clamped 10) Joules.zero 0 decisionTime).exec
      (beforeDecision coolPolicy).1).1.map DecisionInput.thermalState = .ok .warm := by
    decide +kernel
  have wanted : (beforeDecision coolPolicy).2.thermal.state = .cool := by decide +kernel
  cases made : ((fillInput ⟨0⟩ .throughput (Watts.clamped 10) Joules.zero 0 decisionTime).exec
      (beforeDecision coolPolicy).1).1 with
  | error fault =>
      rw [made] at filled
      cases filled
  | ok input =>
      rw [made] at filled
      have warm : input.thermalState = .warm := Except.ok.inj filled
      have same := (enforces input made).1
      rw [warm] at same
      cases same.trans wanted

end Governor

end PowerGovernor
