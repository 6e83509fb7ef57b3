import PowerGovernor.Ids

/-!
Authority envelopes and the fencing gate.

Owns the envelope a reservation or message carries and the gate's epoch, boot
and high-water marks with their setters.
-/

set_option autoImplicit false

namespace PowerGovernor

structure AuthorityEnvelope where
  epoch : CoordinatorEpoch
  boot : WorkerBootId
  policy : PolicyGeneration
  budget : BudgetGeneration
  reservation : ReservationGeneration
  observation : ObservationGeneration
  decision : DecisionGeneration
  device : DeviceGeneration
deriving DecidableEq

/-- A default-constructed envelope. -/
def AuthorityEnvelope.blank : AuthorityEnvelope where
  epoch := .null
  boot := .invalid
  policy := .null
  budget := .null
  reservation := .null
  observation := .null
  decision := .null
  device := .null

structure AuthorityGate where
  epoch : CoordinatorEpoch
  boot : WorkerBootId
  policy : PolicyGeneration
  budget : BudgetGeneration
  reservation : ReservationGeneration
  observation : ObservationGeneration
  decision : DecisionGeneration
  device : DeviceGeneration
deriving DecidableEq

namespace AuthorityGate

/-- The constructor: every high-water mark starts at null. -/
def construct (epoch : CoordinatorEpoch) (boot : WorkerBootId) : AuthorityGate where
  epoch := epoch
  boot := boot
  policy := .null
  budget := .null
  reservation := .null
  observation := .null
  decision := .null
  device := .null

def resetEpoch (gate : AuthorityGate) (e : CoordinatorEpoch) : AuthorityGate :=
  { gate with epoch := e }

def setBoot (gate : AuthorityGate) (b : WorkerBootId) : AuthorityGate := { gate with boot := b }

def setPolicy (gate : AuthorityGate) (g : PolicyGeneration) : AuthorityGate :=
  { gate with policy := g }

/-- A high-water mark only moves up. -/
def advanceObservation (gate : AuthorityGate) (g : ObservationGeneration) : AuthorityGate :=
  if gate.observation < g then { gate with observation := g } else gate

/-- The envelope a Governor stamps on a new reservation. -/
def envelope (gate : AuthorityGate) : AuthorityEnvelope where
  epoch := gate.epoch
  boot := gate.boot
  policy := gate.policy
  budget := gate.budget
  reservation := gate.reservation
  observation := gate.observation
  decision := gate.decision
  device := gate.device

end AuthorityGate

end PowerGovernor
