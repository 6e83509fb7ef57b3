import PowerGovernor.Burst
import PowerGovernor.Decision.Engine
import PowerGovernor.Reservation.Index

/-!
The state of a Governor.

Owns the backend sample, the live state of the device, the configuration and the
Governor record with its constructor. `devices_` only ever holds the default
accelerator, so it is read as an optional device.

Does not own the domain tree and the change history, which no modelled operation
reads, nor the mutex: every operation below runs under it as one step.
-/

set_option autoImplicit false

namespace PowerGovernor

/-- What the Governor reads of a `BackendSample`. -/
structure BackendSample where
  power : Option Watts
  temperature : Option Celsius
  powerLimit : Option Watts
  throttled : Bool
  provenance : EnergyProvenance
deriving DecidableEq

/-- A default-constructed sample. -/
def BackendSample.blank : BackendSample where
  power := none
  temperature := none
  powerLimit := none
  throttled := false
  provenance := .unknown

structure DeviceState where
  latest : Option BackendSample
  lastObserved : Timestamp
  obsGen : ObservationGeneration
  powerWindow : PowerWindow
  meter : EnergyMeter
  thermal : ThermalGovernor
  burst : BurstBudget
  hardwareCap : Option Watts

namespace DeviceState

/-- A default-constructed device: its window spans two seconds. -/
def blank : DeviceState where
  latest := none
  lastObserved := Timestamp.zero
  obsGen := .null
  powerWindow := .construct .twoSeconds
  meter := .blank
  thermal := .construct .standard
  burst := .construct .blank
  hardwareCap := none

/-- What `invalidate_live_telemetry` clears; the hardware cap and the power
window stay. -/
def invalidate (ds : DeviceState) : DeviceState :=
  { ds with
    latest := none
    lastObserved := Timestamp.zero
    obsGen := .null
    thermal := ds.thermal.reset }

end DeviceState

structure GovernorConfig where
  node : NodeId
  boot : WorkerBootId
  epoch : CoordinatorEpoch
deriving DecidableEq

/-- An energy meter under the workload it belongs to. -/
structure WorkloadMeter where
  workload : WorkloadId
  meter : EnergyMeter

structure Governor where
  cfg : GovernorConfig
  budgets : BudgetManager
  reservations : ReservationManager
  resIndex : ReservationIndex
  policy : PowerPolicy
  engine : DecisionEngine
  authority : AuthorityGate
  device : Option DeviceState
  workloadMeters : Keyed WorkloadMeter.workload
  totalMeter : EnergyMeter
  ids : Allocators

namespace Governor

/-- The name `"default"`. -/
def defaultName : Bytes := [100, 101, 102, 97, 117, 108, 116]

/-- The constructor: the default policy counts as not installed. -/
def construct (cfg : GovernorConfig) (ids : Allocators) : Governor :=
  let (policyId, ids) := ids.allocatePolicy
  { cfg := cfg
    budgets := .empty
    reservations := .empty
    resIndex := .empty
    policy := { PowerPolicy.defaults policyId defaultName with generation := .null }
    engine := .construct .first
    authority := .construct cfg.epoch cfg.boot
    device := none
    workloadMeters := Keyed.empty
    totalMeter := .blank
    ids := ids }

/-- The meter a workload has, or the one `operator[]` creates. -/
def meterOf (g : Governor) (workload : WorkloadId) : EnergyMeter :=
  ((g.workloadMeters.find? workload).map WorkloadMeter.meter).getD .blank

end Governor

end PowerGovernor
