import PowerGovernor.Clock
import PowerGovernor.Ids

/-!
Thermal governance.

Owns the thermal states, the thresholds with their defaults, and the stateful
classifier with its hysteresis and the power ceiling it derives from a
temperature.
-/

set_option autoImplicit false

namespace PowerGovernor

inductive ThermalState where
  | unknown | cool | normal | warm | hot | thermallyConstrained | recovering
deriving DecidableEq, Repr

def ThermalState.name : ThermalState → String
  | .unknown => "UNKNOWN"
  | .cool => "COOL"
  | .normal => "NORMAL"
  | .warm => "WARM"
  | .hot => "HOT"
  | .thermallyConstrained => "THERMALLY_CONSTRAINED"
  | .recovering => "RECOVERING"

structure ThermalThresholds where
  coolMax : Celsius
  normalMax : Celsius
  warmMax : Celsius
  hotMax : Celsius
  recoveryMargin : Celsius
  constrainedReduction : ℚ
  constrainedConfirmCount : Int
deriving DecidableEq

/-- The default thresholds. -/
def ThermalThresholds.standard : ThermalThresholds where
  coolMax := ⟨40, by decide +kernel⟩
  normalMax := ⟨60, by decide +kernel⟩
  warmMax := ⟨75, by decide +kernel⟩
  hotMax := ⟨85, by decide +kernel⟩
  recoveryMargin := ⟨5, by decide +kernel⟩
  constrainedReduction := 60 / 100
  constrainedConfirmCount := 2

structure ThermalGovernor where
  thresholds : ThermalThresholds
  state : ThermalState
  needConfirm : Int
  generation : ThermalGeneration
  lastTemp : Option Celsius
  lastNow : Timestamp
deriving DecidableEq

namespace ThermalGovernor

/-- The constructor. -/
def construct (t : ThermalThresholds) : ThermalGovernor where
  thresholds := t
  state := .unknown
  needConfirm := 0
  generation := .null
  lastTemp := none
  lastNow := Timestamp.zero

def classifyRaw (g : ThermalGovernor) (t : ℚ) : ThermalState :=
  if t < g.thresholds.coolMax.value then .cool
  else if t < g.thresholds.normalMax.value then .normal
  else if t < g.thresholds.warmMax.value then .warm
  else if t < g.thresholds.hotMax.value then .hot
  else .thermallyConstrained

/-- Feed a temperature sample; the resolved state is the `state` field after it. -/
def observe (g : ThermalGovernor) (temp : Option Celsius) (now : Timestamp) : ThermalGovernor :=
  let g : ThermalGovernor := { g with lastNow := now }
  match temp with
  | none => { g with state := .unknown }
  | some temp =>
    let t := temp.value
    let g : ThermalGovernor :=
      { g with lastTemp := some temp, generation := g.generation.next }
    let raw := g.classifyRaw t
    if raw = .thermallyConstrained then
      if g.state ≠ .thermallyConstrained then
        if g.thresholds.constrainedConfirmCount ≤ g.needConfirm + 1 then
          { g with state := .thermallyConstrained, needConfirm := 0 }
        else { g with needConfirm := g.needConfirm + 1 }
      else { g with needConfirm := 0 }
    else
      let g := { g with needConfirm := 0 }
      if g.state = .thermallyConstrained then
        if t < g.thresholds.hotMax.value - g.thresholds.recoveryMargin.value then
          { g with state := .recovering }
        else g
      else if g.state = .recovering then
        if t ≤ g.thresholds.warmMax.value then { g with state := .normal } else g
      else { g with state := raw }

/-- What a sample leaves in the state and the confirmation count. -/
def advance (th : ThermalGovernor) (t : ℚ) : ThermalState × Int :=
  let raw := th.classifyRaw t
  if raw = .thermallyConstrained then
    if th.state ≠ .thermallyConstrained then
      if th.thresholds.constrainedConfirmCount ≤ th.needConfirm + 1 then (.thermallyConstrained, 0)
      else (th.state, th.needConfirm + 1)
    else (th.state, 0)
  else if th.state = .thermallyConstrained then
    if t < th.thresholds.hotMax.value - th.thresholds.recoveryMargin.value then (.recovering, 0)
    else (th.state, 0)
  else if th.state = .recovering then
    if t ≤ th.thresholds.warmMax.value then (.normal, 0) else (th.state, 0)
  else (raw, 0)

theorem observe_some (th : ThermalGovernor) (temp : Celsius) (now : Timestamp) :
    th.observe (some temp) now =
      { th with
        lastNow := now, lastTemp := some temp, generation := th.generation.next
        state := (th.advance temp.value).1, needConfirm := (th.advance temp.value).2 } := by
  have raw : ({ th with
      lastNow := now, lastTemp := some temp,
      generation := th.generation.next } : ThermalGovernor).classifyRaw temp.value =
        th.classifyRaw temp.value := rfl
  unfold observe advance
  dsimp only
  rw [raw]
  split_ifs <;> rfl

def headroomFraction (g : ThermalGovernor) : Option Celsius → ℚ
  | none => 1
  | some temp =>
    let t := temp.value
    let nm := g.thresholds.normalMax.value
    let hm := g.thresholds.hotMax.value
    let red := g.thresholds.constrainedReduction
    if t ≤ nm then 1
    else if t < hm then 1 - (t - nm) / (hm - nm) * (1 - red)
    else red

/-- `permitted_power` is `noexcept` and constructs a `Watts`. -/
def permittedPower (g : ThermalGovernor) (nominalCap : Watts) (temp : Option Celsius) :
    Except Fault (Option Watts) :=
  match temp with
  | none => .ok none
  | some _ => noexcept do
    let power ← Quantity.construct (nominalCap.value * g.headroomFraction temp)
    return some power

/-- `reset`: the thresholds stay. -/
def reset (g : ThermalGovernor) : ThermalGovernor := construct g.thresholds

end ThermalGovernor

end PowerGovernor
