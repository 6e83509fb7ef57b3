import PowerGovernor.Freshness
import PowerGovernor.Policy
import PowerGovernor.Reservation.Manager

/-!
The deterministic decision engine.

Owns the verdicts, the input and the decision with its explanation, the nine
stages of `evaluate`, and the hysteresis state. The stages before the hysteresis
read the input alone; each returns its outcome early, as the source does.

Does not own the JSON text and digest of a decision, which are functions of the
fields modelled here.
-/

set_option autoImplicit false

namespace PowerGovernor

inductive DecisionVerdict where
  | allow | allowWithLimit | throttle | defer | drainRecommended | revalidationRequired | reject
  | unknown
deriving DecidableEq, Repr

def DecisionVerdict.name : DecisionVerdict → String
  | .allow => "ALLOW"
  | .allowWithLimit => "ALLOW_WITH_LIMIT"
  | .throttle => "THROTTLE"
  | .defer => "DEFER"
  | .drainRecommended => "DRAIN_RECOMMENDED"
  | .revalidationRequired => "REVALIDATION_REQUIRED"
  | .reject => "REJECT"
  | .unknown => "UNKNOWN"

inductive PerformanceState where
  | eco | efficient | balanced | performance | maxPerformance | throttled | recovery
deriving DecidableEq, Repr

def PerformanceState.name : PerformanceState → String
  | .eco => "ECO"
  | .efficient => "EFFICIENT"
  | .balanced => "BALANCED"
  | .performance => "PERFORMANCE"
  | .maxPerformance => "MAX_PERFORMANCE"
  | .throttled => "THROTTLED"
  | .recovery => "RECOVERY"

/-- The values of `binding_kind`; the empty string is `none`. -/
inductive BindingKind where
  | none | freshness | deviceHardCap | budget | thermal | softTarget
deriving DecidableEq, Repr

def BindingKind.name : BindingKind → String
  | .none => ""
  | .freshness => "freshness"
  | .deviceHardCap => "device_hard_cap"
  | .budget => "budget"
  | .thermal => "thermal"
  | .softTarget => "soft_target"

/-- What the engine reads of a `DecisionInput`. -/
structure DecisionInput where
  energyWindowUsed : Joules
  requestedPower : Watts
  requestedEnergy : Joules
  hardwareCap : Option Watts
  budgetAvailable : Option Watts
  softTarget : Option Watts
  thermalCeiling : Option Watts
  thermalState : ThermalState
  thermalKnown : Bool
  powerClass : WorkloadPowerClass
  rule : WorkloadClassRule
  policy : PowerPolicy
  policyCurrent : Bool
  powerFreshness : FreshnessState
  evidence : EnergyProvenance
  hardwareThrottled : Bool
  burstAvailable : Bool
  burstUtilization : ℚ
  requestedPerf : PerformanceState
  budgetApplied : Option BudgetId
  parentBudgets : List BudgetId
  activeReservations : Nat

/-- A default-constructed input for a policy. -/
def DecisionInput.blank (policy : PowerPolicy) : DecisionInput where
  energyWindowUsed := Joules.zero
  requestedPower := Watts.zero
  requestedEnergy := Joules.zero
  hardwareCap := none
  budgetAvailable := none
  softTarget := none
  thermalCeiling := none
  thermalState := .unknown
  thermalKnown := false
  powerClass := .throughput
  rule := .blank
  policy := policy
  policyCurrent := false
  powerFreshness := .expired
  evidence := .unknown
  hardwareThrottled := false
  burstAvailable := false
  burstUtilization := 0
  requestedPerf := .balanced
  budgetApplied := none
  parentBudgets := []
  activeReservations := 0

structure DecisionExplanation where
  budgetApplied : Option BudgetId
  parentBudgets : List BudgetId
  activeReservations : Nat
  thermalState : ThermalState
  powerClass : WorkloadPowerClass
  burstAvailable : Bool
  burstUtilization : ℚ
  bindingLimit : Option Watts
  bindingKind : BindingKind
  telemetryFreshness : FreshnessState
  telemetryCurrent : Bool
  evidence : EnergyProvenance
  hardwareThrottled : Bool
  why : String
  whatWouldChange : String
deriving DecidableEq

structure Decision where
  id : DecisionId
  generation : DecisionGeneration
  now : Timestamp
  verdict : DecisionVerdict
  reasons : List String
  effectiveState : PerformanceState
  recommendedLimit : Option Watts
  explanation : DecisionExplanation
deriving DecidableEq

/-- The arguments of `make_verdict` that a stage decides. -/
structure Outcome where
  verdict : DecisionVerdict
  reasons : List String
  limit : Option Watts
  bindingKind : BindingKind
deriving DecidableEq

/-! ## The stages -/

/-- The least cap considered so far and its kind. -/
structure HardCeiling where
  limit : Option Watts
  bindingKind : BindingKind
deriving DecidableEq

namespace HardCeiling

/-- `consider`. Every cap is non-negative by its type. -/
def consider (best : HardCeiling) (cap : Option Watts) (kind : BindingKind) : HardCeiling :=
  match cap, best.limit with
  | some cap, some limit => if cap.value < limit.value then ⟨some cap, kind⟩ else best
  | some cap, none => ⟨some cap, kind⟩
  | none, _ => best

/-- `ceiling < amount`; without a limit the ceiling is infinite. -/
def under (best : HardCeiling) (amount : ℚ) : Bool :=
  best.limit.any fun limit => decide (limit.value < amount)

/-- `ceiling <= amount`. -/
def atMost (best : HardCeiling) (amount : ℚ) : Bool :=
  best.limit.any fun limit => decide (limit.value ≤ amount)

/-- `std::to_string(ceiling)`. -/
def text (best : HardCeiling) : String :=
  match best.limit with
  | some limit => toStringDouble limit.value
  | none => "inf"

end HardCeiling

/-- What the stages before the hysteresis decide: an early return, or the
default allow that the hysteresis may still hold back. -/
inductive Staged where
  | returned (outcome : Outcome)
  | defaultAllow (outcome : Outcome)

def Staged.outcome : Staged → Outcome
  | .returned outcome => outcome
  | .defaultAllow outcome => outcome

namespace DecisionInput

def stale (input : DecisionInput) : Bool :=
  input.powerFreshness = .stale ∨ input.powerFreshness = .expired

def constrained (input : DecisionInput) : Bool :=
  input.thermalKnown ∧ input.thermalState = .thermallyConstrained

def recovering (input : DecisionInput) : Bool :=
  input.thermalKnown ∧ input.thermalState = .recovering

def hot (input : DecisionInput) : Bool := input.thermalKnown ∧ input.thermalState = .hot

/-- Stage 2. -/
def hardCeiling (input : DecisionInput) : HardCeiling :=
  let best : HardCeiling := ⟨none, .none⟩
  let best := best.consider input.hardwareCap .deviceHardCap
  let best := best.consider input.budgetAvailable .budget
  best.consider input.thermalCeiling .thermal

/-- Stage 1. -/
def revalidation (input : DecisionInput) : Outcome where
  verdict := .revalidationRequired
  reasons :=
    ["telemetry is not current (freshness=" ++ input.powerFreshness.name ++ ")"] ++
      if input.policyCurrent then [] else ["policy generation is not current"]
  limit := none
  bindingKind := .freshness

/-- Stage 3. -/
def noCapacity (input : DecisionInput) (best : HardCeiling) : Outcome where
  verdict := if input.constrained then .defer else .reject
  reasons :=
    ["no available power capacity"] ++
      if input.constrained then ["device is thermally constrained"] else []
  limit := best.limit
  bindingKind := best.bindingKind

/-- Stage 4. -/
def overCeiling (input : DecisionInput) (best : HardCeiling) : Outcome :=
  let exceeds := "requested power " ++ input.requestedPower.text ++
    " exceeds available ceiling " ++ best.text ++ "W"
  let (verdict, reason) : DecisionVerdict × String :=
    if input.rule.priority < 40 ∧ input.constrained then
      (.throttle, "low-priority class under thermal constraint")
    else if input.constrained then (.throttle, "device thermally constrained")
    else if input.recovering then
      (.allowWithLimit, "thermal recovery in progress; limited to thermal ceiling")
    else (.allowWithLimit, "hard ceiling constrains execution")
  ⟨verdict, [exceeds, reason], best.limit, best.bindingKind⟩

/-- Stage 6, once the request exceeds the soft target. -/
def overSoftTarget (input : DecisionInput) (best : HardCeiling) : Outcome :=
  if input.burstAvailable && !best.under input.requestedPower.value then
    ⟨.allow, ["burst budget covers temporary over-soft-target demand"], best.limit,
      best.bindingKind⟩
  else
    ⟨.allowWithLimit, ["requested power exceeds soft target; limited (no burst capacity)"],
      input.softTarget, .softTarget⟩

/-- The condition of stage 6. -/
def exceedsSoftTarget (input : DecisionInput) : Bool :=
  input.softTarget.any fun target => decide (target.value < input.requestedPower.value)

/-- The condition of stage 7. -/
def exceedsEnergyWindow (input : DecisionInput) : Bool :=
  let window := input.policy.energyWindow
  window.enforce && decide (0 < window.budget.value) &&
    decide (window.budget.value - input.energyWindowUsed.value + slack <
      input.requestedEnergy.value)

/-- Stage 8. -/
def allowed (input : DecisionInput) (best : HardCeiling) : Outcome where
  verdict := .allow
  reasons :=
    (if input.hot then ["hot but within hard ceiling; monitoring closely"] else []) ++
      if input.hardwareThrottled then ["hardware is already throttled"] else []
  limit := best.limit
  bindingKind := best.bindingKind

/-- Stages 1 to 8, in order. -/
def stages (input : DecisionInput) : Staged :=
  let best := input.hardCeiling
  let requested := input.requestedPower.value
  if !input.policyCurrent || input.stale then .returned input.revalidation
  else if best.under requested && best.atMost slack then .returned (input.noCapacity best)
  else if best.under (requested - slack) then .returned (input.overCeiling best)
  else if input.constrained then
    .returned ⟨.throttle, ["device thermally constrained"], best.limit, best.bindingKind⟩
  else if input.recovering then
    .returned ⟨.allowWithLimit, ["thermal recovery in progress; limited to ceiling"], best.limit,
      best.bindingKind⟩
  else if input.exceedsSoftTarget then .returned (input.overSoftTarget best)
  else if input.exceedsEnergyWindow then
    .returned ⟨.throttle, ["energy window would be exceeded"], best.limit, best.bindingKind⟩
  else .defaultAllow (input.allowed best)

end DecisionInput

/-! ## The engine -/

/-- `DecisionEngine::Last`. -/
structure LastVerdict where
  verdict : DecisionVerdict
  decidedAt : Timestamp
deriving DecidableEq

structure DecisionEngine where
  last : Option LastVerdict
  gen : DecisionGeneration
deriving DecidableEq

namespace DecisionEngine

def construct (gen : DecisionGeneration) : DecisionEngine := ⟨none, gen⟩

def resetHysteresis (engine : DecisionEngine) : DecisionEngine := { engine with last := none }

/-- Stage 9. The comparison throws when the elapsed time fits in no `Duration`. -/
def hold (engine : DecisionEngine) (input : DecisionInput) (now : Timestamp)
    (outcome : Outcome) : Except Fault Outcome :=
  match engine.last with
  | none => .ok outcome
  | some last =>
    if last.verdict = .allow then .ok outcome
    else do
      let dt ← now.elapsedSince last.decidedAt
      if dt.ns < input.policy.minStableDuration.ns then
        let held := { outcome with
          verdict := last.verdict
          reasons := outcome.reasons ++
            ["hysteresis holding previous restrictive verdict for " ++ dt.text] }
        if last.verdict = .allowWithLimit ∧ outcome.limit = none then
          return { held with limit := input.softTarget, bindingKind := .softTarget }
        else return held
      else return outcome

/-- The outcome `evaluate` hands to `make_verdict`. -/
def resolve (engine : DecisionEngine) (input : DecisionInput) (now : Timestamp) :
    Except Fault Outcome :=
  match input.stages with
  | .returned outcome => .ok outcome
  | .defaultAllow outcome => engine.hold input now outcome

def effectiveState (input : DecisionInput) : DecisionVerdict → PerformanceState
  | .allow => input.requestedPerf
  | .allowWithLimit | .unknown => .balanced
  | .throttle | .defer | .drainRecommended | .revalidationRequired | .reject => .throttled

def whatWouldChange (telemetryCurrent : Bool) (bindingKind : BindingKind) : String :=
  if !telemetryCurrent then "refresh telemetry to CURRENT and re-evaluate"
  else match bindingKind with
    | .none => "no binding constraint; a more restrictive policy/budget would throttle"
    | .deviceHardCap => "raise the hardware power limit (within vendor support) to allow more"
    | .budget => "increase budget capacity or release reservations to allow more"
    | .thermal => "reduce temperature and allow thermal recovery to raise the ceiling"
    | .softTarget => "raise the soft target or grant burst capacity to allow more"
    | .freshness => "ingest fresh telemetry and re-evaluate"

/-- `fill_explanation`, after the binding limit and kind are set. -/
def explain (input : DecisionInput) (outcome : Outcome) : DecisionExplanation :=
  let why := "; ".intercalate outcome.reasons
  let telemetryCurrent := input.policyCurrent && decide (input.powerFreshness = .current)
  { budgetApplied := input.budgetApplied
    parentBudgets := input.parentBudgets
    activeReservations := input.activeReservations
    thermalState := input.thermalState
    powerClass := input.powerClass
    burstAvailable := input.burstAvailable
    burstUtilization := input.burstUtilization
    bindingLimit := outcome.limit
    bindingKind := outcome.bindingKind
    telemetryFreshness := input.powerFreshness
    telemetryCurrent := telemetryCurrent
    evidence := input.evidence
    hardwareThrottled := input.hardwareThrottled
    why := if why.isEmpty then "no binding constraint" else why
    whatWouldChange := whatWouldChange telemetryCurrent outcome.bindingKind }

/-- `make_verdict`: every decision is recorded as the last one. -/
def makeVerdict (engine : DecisionEngine) (ids : Allocators) (input : DecisionInput)
    (now : Timestamp) (outcome : Outcome) : Decision × DecisionEngine × Allocators :=
  let (id, ids) := ids.allocateDecision
  let d : Decision :=
    { id := id
      generation := engine.gen.next
      now := now
      verdict := outcome.verdict
      reasons := outcome.reasons
      effectiveState := effectiveState input outcome.verdict
      recommendedLimit := outcome.limit
      explanation := explain input outcome }
  (d, { engine with last := some ⟨outcome.verdict, now⟩ }, ids)

def evaluate (engine : DecisionEngine) (ids : Allocators) (input : DecisionInput)
    (now : Timestamp) : Except Fault (Decision × DecisionEngine × Allocators) := do
  let outcome ← engine.resolve input now
  return engine.makeVerdict ids input now outcome

theorem evaluate_of_resolved {engine : DecisionEngine} {input : DecisionInput} {now : Timestamp}
    {outcome : Outcome} (resolved : engine.resolve input now = .ok outcome) (ids : Allocators) :
    engine.evaluate ids input now = .ok (engine.makeVerdict ids input now outcome) := by
  unfold evaluate
  rw [resolved]
  rfl

theorem evaluate_of_fault {engine : DecisionEngine} {input : DecisionInput} {now : Timestamp}
    {fault : Fault} (resolved : engine.resolve input now = .error fault) (ids : Allocators) :
    engine.evaluate ids input now = .error fault := by
  unfold evaluate
  rw [resolved]
  rfl

/-- A decision carries the resolved outcome and is recorded as the last one. -/
theorem evaluate_eq_ok {engine engine' : DecisionEngine} {ids ids' : Allocators}
    {input : DecisionInput} {now : Timestamp} {d : Decision}
    (returned : engine.evaluate ids input now = .ok (d, engine', ids')) :
    ∃ outcome, engine.resolve input now = .ok outcome ∧ d.verdict = outcome.verdict ∧
      d.recommendedLimit = outcome.limit ∧
      engine' = { engine with last := some ⟨outcome.verdict, now⟩ } := by
  obtain ⟨outcome, resolved, made⟩ := bind_eq_ok.mp returned
  cases made
  exact ⟨outcome, resolved, rfl, rfl, rfl⟩

end DecisionEngine

end PowerGovernor
