import PowerGovernor.Governor.State

/-!
The operations of a Governor that run in memory.

Owns policy and budget installation, the reservation operations with their index
updates, the ingestion of a backend sample, decisions, energy accounting and the
two resets. An operation that can write before it throws is a `Stateful`
computation, so the state it leaves behind is kept.

Does not own saving and loading.
-/

set_option autoImplicit false

namespace PowerGovernor

/-! ## Observations -/

namespace DeviceState

/-- The part of `ingest_locked` for a sample that carries power. The sample and
its time are stored before the window can refuse it; the reported limit after. -/
def recordPower (sample : BackendSample) (power : Watts) (now : Timestamp) :
    Stateful Fault DeviceState Unit := do
  modify fun ds => { ds with latest := some sample, lastObserved := now }
  let (window, ended) := (← get).powerWindow.record now power
  modify fun ds => { ds with powerWindow := window }
  Stateful.ofExcept ended
  modify fun ds => { ds with hardwareCap := sample.powerLimit }

/-- The device side of `ingest_locked`. A sample without a temperature leaves the
thermal state alone. -/
def ingest (sample : BackendSample) (now : Timestamp) : Stateful Fault DeviceState Unit := do
  modify fun ds => { ds with obsGen := ds.obsGen.next }
  match sample.power with
  | some power => recordPower sample power now
  | none => pure ()
  match sample.temperature with
  | some temp => modify fun ds => { ds with thermal := ds.thermal.observe (some temp) now }
  | none => pure ()

end DeviceState

namespace Governor

/-- Run a computation on the device, which exists from then on. -/
def onDevice {α : Type} (x : Stateful Fault DeviceState α) : Stateful Fault Governor α :=
  Stateful.zoom (fun g => g.device.getD .blank) (fun ds g => { g with device := some ds }) x

/-- `observe_backend`, and `poll` once the backend has been sampled. -/
def observeBackend (sample : BackendSample) (now : Timestamp) :
    Stateful Fault Governor ObservationId := do
  let (id, ids) := (← get).ids.allocateObservation
  modify fun g => { g with ids := ids }
  onDevice (DeviceState.ingest sample now)
  modify fun g =>
    { g with authority := g.authority.advanceObservation (g.device.getD .blank).obsGen }
  return id

/-! ## Policy and budgets -/

/-- A policy that is stale, has no id or has no class rules is refused. -/
def installPolicy (g : Governor) (p : PowerPolicy) : Governor × Bool :=
  if !p.id.isValid then (g, false)
  else if p.generation ≤ g.policy.generation then (g, false)
  else if p.classRules.entries.isEmpty then (g, false)
  else ({ g with policy := p, authority := g.authority.setPolicy p.generation }, true)

/-- `install_policy` takes the policy. -/
def Installs (g : Governor) (p : PowerPolicy) : Prop :=
  p.id.isValid = true ∧ ¬ p.generation ≤ g.policy.generation ∧
    p.classRules.entries.isEmpty = false

instance (g : Governor) (p : PowerPolicy) : Decidable (g.Installs p) := instDecidableAnd

/-- An install takes the policy, or changes nothing. -/
theorem installPolicy_cases (g : Governor) (p : PowerPolicy) :
    (g.Installs p ∧ g.installPolicy p =
      ({ g with policy := p, authority := g.authority.setPolicy p.generation }, true)) ∨
    (¬ g.Installs p ∧ g.installPolicy p = (g, false)) := by
  unfold installPolicy
  split
  · rename_i invalid
    refine .inr ⟨fun installs => ?_, rfl⟩
    rw [installs.1] at invalid
    cases invalid
  rename_i valid
  split
  · rename_i stale
    exact .inr ⟨fun installs => installs.2.1 stale, rfl⟩
  rename_i newer
  split
  · rename_i noRules
    refine .inr ⟨fun installs => ?_, rfl⟩
    rw [installs.2.2] at noRules
    cases noRules
  · rename_i rules
    exact .inl ⟨⟨by simpa using valid, newer, by simpa using rules⟩, rfl⟩

def installBudget (g : Governor) (b : PowerBudget) : Governor × Bool :=
  let (budgets, ok) := g.budgets.install b
  ({ g with budgets := budgets }, ok)

/-! ## Reservations -/

/-- `update_index_state`. -/
def updateIndexState (g : Governor) (id : ReservationId) (state : ReservationState) : Governor :=
  match g.reservations.find? id with
  | none => g
  | some r => { g with resIndex := g.resIndex.setState ⟨id, r.budget, r.workload, state⟩ }

def planReservation (g : Governor) (workload : WorkloadId) (powerClass : WorkloadPowerClass)
    (scope : PowerDomainId) (budget : BudgetId) (power : Watts) (energy : Joules)
    (policyGen : PolicyGeneration) (deviceGen : DeviceGeneration) (now : Timestamp)
    (validity : Duration) : Governor × ReservationResult :=
  let (result, rm, ids) := g.reservations.plan g.ids workload powerClass scope budget power
    energy policyGen deviceGen g.authority.envelope now validity
  let g := { g with reservations := rm, ids := ids }
  if result.ok then
    ({ g with resIndex := g.resIndex.add ⟨result.id, budget, workload, .planned⟩ }, result)
  else (g, result)

/-- The common end of the other operations: the index follows an accepted one. -/
def finish (g : Governor) (id : ReservationId) (state : ReservationState)
    (result : ReservationResult) : Governor × ReservationResult :=
  if result.ok then (g.updateIndexState id state, result) else (g, result)

def validateReservation (g : Governor) (id : ReservationId) (policyGen : PolicyGeneration) :
    Except Fault (Governor × ReservationResult) := do
  let (result, rm) ← g.reservations.validate id policyGen
  return finish { g with reservations := rm } id .validated result

def reserveReservation (g : Governor) (id : ReservationId) (budgetGen : BudgetGeneration)
    (now : Timestamp) : Except Fault (Governor × ReservationResult) := do
  let (result, rm, bm) ← g.reservations.reserve id g.budgets budgetGen now
  return finish { g with reservations := rm, budgets := bm } id .reserved result

def admitReservation (g : Governor) (id : ReservationId) (now : Timestamp) :
    Except Fault (Governor × ReservationResult) := do
  let (result, rm) ← g.reservations.admitReservation id now
  return finish { g with reservations := rm } id .admitted result

def activateReservation (g : Governor) (id : ReservationId) (budgetGen : BudgetGeneration)
    (now : Timestamp) : Except Fault (Governor × ReservationResult) := do
  let (result, rm, bm) ← g.reservations.activate id g.budgets budgetGen now
  return finish { g with reservations := rm, budgets := bm } id .active result

def releaseReservation (g : Governor) (id : ReservationId) (budgetGen : BudgetGeneration)
    (now : Timestamp) : Except Fault (Governor × ReservationResult) := do
  let (result, rm, bm) ← g.reservations.release id g.budgets budgetGen now
  return finish { g with reservations := rm, budgets := bm } id .released result

/-! ## Decisions -/

/-- `freshness_of_locked`. -/
def freshnessOf (policy : PowerPolicy) (lastObserved now : Timestamp) :
    Except Fault FreshnessState :=
  if lastObserved.isZero then .ok .expired
  else FreshnessThresholds.classify
    ⟨policy.observationFreshness, policy.observationStale, policy.observationExpired⟩
    now lastObserved

/-- `requested_perf_for`. -/
def requestedPerfFor : WorkloadPowerClass → PerformanceState
  | .latencyCritical => .maxPerformance
  | .energyOptimized => .eco
  | .throughput | .batch | .background | .bestEffort | .thermallySensitive | .custom => .balanced

/-- `tighten`. Every cap is non-negative by its type. -/
def tighten (cap limit : Option Watts) : Option Watts :=
  match cap, limit with
  | some cap, some limit => some (cap.min limit)
  | none, some limit => some limit
  | cap, none => cap

/-- The least of the policy's hard caps and the limit the backend reported. -/
def hardwareCeiling (g : Governor) : Option Watts :=
  let cap := tighten none g.policy.fleetHardCap
  let cap := tighten cap g.policy.nodeHardCap
  let cap := tighten cap g.policy.deviceHardCap
  tighten cap (g.device.bind DeviceState.hardwareCap)

end Governor

namespace DeviceState

/-- The temperature the thermal ceiling is computed from. -/
def ceilingTemperature (ds : DeviceState) : Option Celsius :=
  match ds.latest.bind BackendSample.temperature with
  | some temp => some temp
  | none => ds.thermal.lastTemp

/-- `thermal_ceiling`. -/
def thermalCeiling (ds : DeviceState) (hardwareCap : Option Watts) :
    Except Fault (Option Watts) :=
  match hardwareCap, ds.ceilingTemperature with
  | some cap, some temp =>
    if 0 < cap.value then ds.thermal.permittedPower cap (some temp) else .ok none
  | _, _ => .ok none

def onBurst {α : Type} (x : Stateful Fault BurstBudget α) : Stateful Fault DeviceState α :=
  Stateful.zoom burst (fun burst ds => { ds with burst := burst }) x

/-- What `decide_locked` fills in from the device. -/
def fill (input : DecisionInput) (duration : ℚ) (now : Timestamp) :
    Stateful Fault DeviceState DecisionInput := do
  let ds ← get
  -- `average_power` is filled in as well; no stage reads it.
  let average ← Stateful.ofExcept ds.powerWindow.averagePower
  let _ : Watts ← Stateful.ofExcept (Quantity.construct average)
  let ceiling ← Stateful.ofExcept (ds.thermalCeiling input.hardwareCap)
  let burstAvailable ← onBurst (BurstBudget.canBurst
    (Joules.clamped (input.requestedPower.value * max duration 0)) now)
  let burstUtilization ← onBurst (BurstBudget.utilization now)
  let freshness ← Stateful.ofExcept (Governor.freshnessOf input.policy ds.lastObserved now)
  return { input with
    thermalKnown := decide (ds.thermal.state ≠ .unknown)
    thermalState := ds.thermal.state
    thermalCeiling := ceiling
    hardwareThrottled := ds.latest.any BackendSample.throttled
    burstAvailable := burstAvailable
    burstUtilization := burstUtilization
    powerFreshness := freshness
    evidence := (ds.latest.map BackendSample.provenance).getD .unknown
    softTarget := input.policy.softTarget }

end DeviceState

namespace Governor

/-- The part of the decision input that does not come from the device. A budget
that is null or unknown contributes nothing. -/
def baseInput (g : Governor) (budget : BudgetId) (cls : WorkloadPowerClass) (requested : Watts)
    (requestedEnergy : Joules) : DecisionInput :=
  let known := budget.isValid && g.budgets.has budget
  { DecisionInput.blank g.policy with
    powerClass := cls
    rule := g.policy.ruleFor cls
    policyCurrent := true
    requestedPower := requested
    requestedEnergy := requestedEnergy
    requestedPerf := requestedPerfFor cls
    hardwareCap := g.hardwareCeiling
    budgetAvailable := if known then some (g.budgets.available budget) else none
    budgetApplied := if known then some budget else none
    parentBudgets := if known then g.budgets.chain budget else []
    activeReservations := g.reservations.activeCount }

/-- The input of a decision. Without a device the evidence is expired. -/
def fillInput (budget : BudgetId) (cls : WorkloadPowerClass) (requested : Watts)
    (requestedEnergy : Joules) (duration : ℚ) (now : Timestamp) :
    Stateful Fault Governor DecisionInput := do
  let g ← get
  let input := g.baseInput budget cls requested requestedEnergy
  if g.device.isSome then onDevice (DeviceState.fill input duration now)
  else return { input with powerFreshness := .expired, evidence := .unknown }

/-- `decide_for` where the duration, the average and the energy of the request are finite. -/
def decideFor (budget : BudgetId) (_workload : WorkloadId) (cls : WorkloadPowerClass)
    (requested : Watts) (requestedEnergy : Joules) (duration : ℚ) (now : Timestamp) :
    Stateful Fault Governor Decision := do
  let input ← fillInput budget cls requested requestedEnergy duration now
  let g ← get
  let (d, engine, ids) ← Stateful.ofExcept (g.engine.evaluate g.ids input now)
  set { g with engine := engine, ids := ids }
  return d

/-! ## Energy and resets -/

def accountEnergy (g : Governor) (workload : WorkloadId) (energy : Joules)
    (provenance : EnergyProvenance) (now : Timestamp) : Governor :=
  { g with
    workloadMeters :=
      g.workloadMeters.assign ⟨workload, (g.meterOf workload).add energy provenance now⟩
    device := g.device.map fun ds => { ds with meter := ds.meter.add energy provenance now }
    totalMeter := g.totalMeter.add energy provenance now }

def resetHysteresis (g : Governor) : Governor := { g with engine := g.engine.resetHysteresis }

def invalidateLiveTelemetry (g : Governor) : Governor :=
  { g with device := g.device.map DeviceState.invalidate }

end Governor

end PowerGovernor
