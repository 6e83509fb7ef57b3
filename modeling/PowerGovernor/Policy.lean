import PowerGovernor.Budget.Manager
import PowerGovernor.Thermal
import PowerGovernor.WorkloadClass

/-!
The governance policy.

Owns the policy record with its parts, the default policy, the rule lookup and
the range checks of `validate`.
-/

set_option autoImplicit false

namespace PowerGovernor

structure EnergyWindow where
  budget : Joules
  window : Duration
  enforce : Bool
deriving DecidableEq

structure BurstLimits where
  allowance : Watts
  window : Duration
  refill : Duration
  enabled : Bool
deriving DecidableEq

structure OversubscriptionPolicy where
  allowed : Bool
  maxOvercommitFactor : ℚ
  requireAuthority : Bool
deriving DecidableEq

inductive DegradedMode where
  | rejectNew | throttleAll | drain | unchanged
deriving DecidableEq, Repr

structure HardwareControlPermissions where
  setPowerLimit : Bool
  setClocks : Bool
deriving DecidableEq

def Duration.oneSecond : Duration := ⟨1000000000, by decide, by decide⟩

def Duration.twoSeconds : Duration := ⟨2000000000, by decide, by decide⟩

/-- The defaults of the parts. -/
def EnergyWindow.blank : EnergyWindow := ⟨Joules.zero, Duration.oneSecond, false⟩

def BurstLimits.blank : BurstLimits := ⟨Watts.zero, Duration.oneSecond, Duration.oneSecond, false⟩

/-- `class_rules`: at most one rule under each class. -/
abbrev ClassRules := Keyed (Prod.fst : WorkloadPowerClass × WorkloadClassRule → WorkloadPowerClass)

structure PowerPolicy where
  id : PolicyId
  generation : PolicyGeneration
  name : Bytes
  fleetHardCap : Option Watts
  nodeHardCap : Option Watts
  deviceHardCap : Option Watts
  softTarget : Option Watts
  energyWindow : EnergyWindow
  burstLimits : BurstLimits
  thermalThresholds : ThermalThresholds
  defaultPriority : Int
  minReserveFraction : ℚ
  oversubscription : OversubscriptionPolicy
  degradedMode : DegradedMode
  hardwareControls : HardwareControlPermissions
  observationFreshness : Duration
  observationStale : Duration
  observationExpired : Duration
  minStableDuration : Duration
  decisionHysteresis : Duration
  recoveryThreshold : Duration
  classRules : ClassRules
deriving DecidableEq

namespace PowerPolicy

/-- One default rule for each class. -/
def defaultRules : ClassRules :=
  WorkloadPowerClass.all.foldl (fun rules c => rules.emplace (c, defaultRuleFor c)) Keyed.empty

/-- `defaults` with its two arguments given. -/
def defaults (id : PolicyId) (name : Bytes) : PowerPolicy where
  id := id
  generation := .first
  name := name
  fleetHardCap := none
  nodeHardCap := none
  deviceHardCap := none
  softTarget := none
  energyWindow := .blank
  burstLimits := .blank
  thermalThresholds := .standard
  defaultPriority := 50
  minReserveFraction := 10 / 100
  oversubscription := ⟨false, 1, true⟩
  degradedMode := .unchanged
  hardwareControls := ⟨false, false⟩
  observationFreshness := ⟨250000000, by decide, by decide⟩
  observationStale := Duration.oneSecond
  observationExpired := ⟨10000000000, by decide, by decide⟩
  minStableDuration := ⟨200000000, by decide, by decide⟩
  decisionHysteresis := ⟨150000000, by decide, by decide⟩
  recoveryThreshold := .twoSeconds
  classRules := defaultRules

def ruleFor (p : PowerPolicy) (cls : WorkloadPowerClass) : WorkloadClassRule :=
  match p.classRules.find? cls with
  | some entry => entry.2
  | none => defaultRuleFor .custom

def validate (p : PowerPolicy) : Except Fault Unit :=
  if p.minReserveFraction < 0 ∨ 1 < p.minReserveFraction then
    .error (.invalidArgument "pg::PowerPolicy::validate: min_reserve_fraction outside [0,1]")
  else if p.oversubscription.maxOvercommitFactor < 1 then
    .error (.invalidArgument "pg::PowerPolicy::validate: max_overcommit_factor < 1")
  else if p.energyWindow.enforce ∧ p.energyWindow.budget.value = 0 then
    .error (.invalidArgument "pg::PowerPolicy::validate: enforced energy window has zero budget")
  else .ok ()

/-- The default policy passes its own check. -/
theorem validate_defaults (id : PolicyId) (name : Bytes) :
    (defaults id name).validate = .ok () := by
  norm_num [validate, defaults, EnergyWindow.blank]

end PowerPolicy

end PowerGovernor
