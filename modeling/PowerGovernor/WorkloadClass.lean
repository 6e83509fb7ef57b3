import PowerGovernor.Units

/-!
Workload power classes and their governance rules.

Owns the eight classes, the per-class rule and the default rules.
-/

set_option autoImplicit false

namespace PowerGovernor

inductive WorkloadPowerClass where
  | latencyCritical | throughput | batch | background
  | bestEffort | energyOptimized | thermallySensitive | custom
deriving DecidableEq, Repr

namespace WorkloadPowerClass

def name : WorkloadPowerClass → String
  | .latencyCritical => "LATENCY_CRITICAL"
  | .throughput => "THROUGHPUT"
  | .batch => "BATCH"
  | .background => "BACKGROUND"
  | .bestEffort => "BEST_EFFORT"
  | .energyOptimized => "ENERGY_OPTIMIZED"
  | .thermallySensitive => "THERMALLY_SENSITIVE"
  | .custom => "CUSTOM"

/-- Every class, in declaration order. -/
def all : List WorkloadPowerClass :=
  [.latencyCritical, .throughput, .batch, .background, .bestEffort, .energyOptimized,
    .thermallySensitive, .custom]

/-- The underlying value of the enumerator. -/
def toByte : WorkloadPowerClass → UInt8
  | .latencyCritical => 0
  | .throughput => 1
  | .batch => 2
  | .background => 3
  | .bestEffort => 4
  | .energyOptimized => 5
  | .thermallySensitive => 6
  | .custom => 7

/-- `static_cast<WorkloadPowerClass>` of a value the decoder checked. -/
def ofByte? (byte : UInt8) : Option WorkloadPowerClass := all[byte.toNat]?

@[simp] theorem ofByte?_toByte (cls : WorkloadPowerClass) : ofByte? cls.toByte = some cls := by
  cases cls <;> rfl

end WorkloadPowerClass

/-- Per-class governance rule. -/
structure WorkloadClassRule where
  cls : WorkloadPowerClass
  priority : Int
  maxPowerShare : Option Watts
  energyTarget : Option Joules
  burstEligible : Bool
  latencySensitivity : Int
  throttlingTolerance : Int
  minServiceLevel : ℚ
deriving DecidableEq

/-- A default-constructed rule. -/
def WorkloadClassRule.blank : WorkloadClassRule where
  cls := .throughput
  priority := 50
  maxPowerShare := none
  energyTarget := none
  burstEligible := false
  latencySensitivity := 50
  throttlingTolerance := 50
  minServiceLevel := 0

def defaultRuleFor (c : WorkloadPowerClass) : WorkloadClassRule :=
  let r := { WorkloadClassRule.blank with cls := c }
  match c with
  | .latencyCritical =>
    { r with
      priority := 100, burstEligible := true, latencySensitivity := 100,
      throttlingTolerance := 5, minServiceLevel := 95 / 100 }
  | .throughput =>
    { r with
      priority := 70, burstEligible := false, latencySensitivity := 40,
      throttlingTolerance := 40, minServiceLevel := 8 / 10 }
  | .batch =>
    { r with
      priority := 55, burstEligible := false, latencySensitivity := 20,
      throttlingTolerance := 70, minServiceLevel := 5 / 10 }
  | .background =>
    { r with
      priority := 25, burstEligible := false, latencySensitivity := 5,
      throttlingTolerance := 90, minServiceLevel := 2 / 10 }
  | .bestEffort =>
    { r with
      priority := 10, burstEligible := false, latencySensitivity := 5,
      throttlingTolerance := 100, minServiceLevel := 0 }
  | .energyOptimized =>
    { r with
      priority := 60, burstEligible := false, latencySensitivity := 30,
      throttlingTolerance := 60, minServiceLevel := 6 / 10 }
  | .thermallySensitive =>
    { r with
      priority := 85, burstEligible := false, latencySensitivity := 90,
      throttlingTolerance := 10, minServiceLevel := 9 / 10 }
  | .custom => r

end PowerGovernor
