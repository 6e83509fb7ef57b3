import PowerGovernor.Library.Stateful
import PowerGovernor.Policy

/-!
Burst accounting.

Owns the token bucket, its queries and `consume`, of which the Governor calls the queries
only. The queries are `const` in the source and still refill the bucket, so they are
computations over it.
-/

set_option autoImplicit false

namespace PowerGovernor

structure BurstBudget where
  limits : BurstLimits
  consumed : Joules
  windowStart : Timestamp
  started : Bool
deriving DecidableEq

namespace BurstBudget

def construct (limits : BurstLimits) : BurstBudget := ⟨limits, Joules.zero, Timestamp.zero, false⟩

/-- `capacity` is a product of non-negative factors. -/
def capacity (b : BurstBudget) : Joules :=
  Joules.clamped (b.limits.allowance.value * b.limits.window.secondsF)

def refillIfNeeded (now : Timestamp) : Stateful Fault BurstBudget Unit := do
  let b ← get
  if !b.started then set { b with windowStart := now, started := true }
  else
    let elapsed ← Stateful.ofExcept (now.elapsedSince b.windowStart)
    if b.limits.window.ns ≤ elapsed.ns then
      set { b with windowStart := now, consumed := Joules.zero }

def available (now : Timestamp) : Stateful Fault BurstBudget Joules := do
  if !(← get).limits.enabled then return Joules.zero
  refillIfNeeded now
  let b ← get
  return Joules.clamped (b.capacity.value - b.consumed.value)

def canBurst (j : Joules) (now : Timestamp) : Stateful Fault BurstBudget Bool := do
  if !(← get).limits.enabled then return false
  let available ← available now
  return decide (j.value ≤ available.value + 1 / 1000000000) && decide (0 ≤ j.value)

/-- Consumes when the amount is within the budget. The test refills a second time. -/
def consume (j : Joules) (now : Timestamp) : Stateful Fault BurstBudget Bool := do
  if !(← get).limits.enabled then return false
  refillIfNeeded now
  if !(← canBurst j now) then return false
  modify fun b => { b with consumed := Joules.clamped (b.consumed.value + j.value) }
  return true

/-- The query `consumed(now)`. -/
def consumedAt (now : Timestamp) : Stateful Fault BurstBudget Joules := do
  if !(← get).limits.enabled then return Joules.zero
  refillIfNeeded now
  return (← get).consumed

def exhausted (now : Timestamp) : Stateful Fault BurstBudget Bool := do
  if !(← get).limits.enabled then return true
  let available ← available now
  return decide (available.value ≤ 0)

def utilization (now : Timestamp) : Stateful Fault BurstBudget ℚ := do
  let b ← get
  if !b.limits.enabled then return 0
  if b.capacity.value ≤ 0 then return 0
  let consumed ← consumedAt now
  return consumed.value / b.capacity.value

end BurstBudget

end PowerGovernor
