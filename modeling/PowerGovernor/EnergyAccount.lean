import PowerGovernor.Library.Stateful
import PowerGovernor.Policy

/-!
Energy budgets over a window.

Owns the account of an energy window. Its queries are `const` and leave it as it is; only
`consume` refills it.
-/

set_option autoImplicit false

namespace PowerGovernor

structure EnergyWindowAccount where
  cfg : EnergyWindow
  consumed : Joules
  windowStart : Timestamp
  started : Bool
deriving DecidableEq

namespace EnergyWindowAccount

def construct (cfg : EnergyWindow) : EnergyWindowAccount :=
  ⟨cfg, Joules.zero, Timestamp.zero, false⟩

/-- `started_ && now.elapsed_since(window_start_) >= cfg_.window`. -/
def hasElapsed (a : EnergyWindowAccount) (now : Timestamp) : Except Fault Bool := do
  if !a.started then return false
  let elapsed ← now.elapsedSince a.windowStart
  return decide (a.cfg.window.ns ≤ elapsed.ns)

/-- Without enforcement the account is unbounded, and `remaining` says nothing. -/
def remaining (a : EnergyWindowAccount) (now : Timestamp) : Except Fault Joules := do
  if !a.cfg.enforce then return Joules.zero
  if ← a.hasElapsed now then return a.cfg.budget
  return Joules.clamped (a.cfg.budget.value - a.consumed.value)

def canConsume (a : EnergyWindowAccount) (j : Joules) (now : Timestamp) : Except Fault Bool := do
  if !a.cfg.enforce then return decide (0 ≤ j.value)
  let remaining ← a.remaining now
  return decide (j.value ≤ remaining.value + 1 / 1000000000) && decide (0 ≤ j.value)

def consume (j : Joules) (now : Timestamp) : Stateful Fault EnergyWindowAccount Bool := do
  let a ← get
  if !a.cfg.enforce then
    set { a with consumed := Joules.clamped (a.consumed.value + j.value) }
    return true
  if !a.started then set { a with windowStart := now, started := true }
  else
    let elapsed ← Stateful.ofExcept (now.elapsedSince a.windowStart)
    if a.cfg.window.ns ≤ elapsed.ns then
      set { a with windowStart := now, consumed := Joules.zero }
  if !(← Stateful.ofExcept ((← get).canConsume j now)) then return false
  modify fun a => { a with consumed := Joules.clamped (a.consumed.value + j.value) }
  return true

/-- The query `consumed(now)`. -/
def consumedAt (a : EnergyWindowAccount) (now : Timestamp) : Except Fault Joules := do
  if !a.cfg.enforce then return a.consumed
  if ← a.hasElapsed now then return Joules.zero
  return a.consumed

end EnergyWindowAccount

end PowerGovernor
