import PowerGovernor.Decision.Explanation
import PowerGovernor.Governor.AllowSoundness
import PowerGovernor.Governor.Interference

/-!
The energy window of a running Governor.

Owns the energy accounted over a run, the calls that write its meters, and the exact condition
under which a decision over the window is no ALLOW. No decision reads a meter: runs with
and without their accounting decide alike, and the window is applied to the energy of the
single request.
-/

set_option autoImplicit false

namespace PowerGovernor

/-! ## Accounted energy -/

/-- Energy accounted at a time. -/
structure Charge where
  energy : Joules
  time : Timestamp

def GovernorCall.charge : GovernorCall → Option Charge
  | .accountEnergy _ energy _ now => some ⟨energy, now⟩
  | _ => none

def GovernorCall.isLoad : GovernorCall → Bool
  | .load .. => true
  | _ => false

/-- Everything passed to `account_energy`. -/
def charges (calls : List GovernorCall) : List Charge := calls.filterMap GovernorCall.charge

def Charge.total (charges : List Charge) : ℚ :=
  (charges.map fun charge => charge.energy.value).sum

/-- The charge falls into the window that ends at `now`. -/
def Charge.within (window : Duration) (now : Timestamp) (charge : Charge) : Bool :=
  decide (now.ns - window.ns < charge.time.ns ∧ charge.time.ns ≤ now.ns)

/-- The energy accounted during the window that ends at `now`. -/
def accountedWithin (calls : List GovernorCall) (window : Duration) (now : Timestamp) : ℚ :=
  Charge.total ((charges calls).filter (Charge.within window now))

namespace Governor

/-- The Governor a run of calls makes of a new one. -/
def runOf (cfg : GovernorConfig) (ids : Allocators) (calls : List GovernorCall) : Governor :=
  (calls.foldl governorStep (.construct cfg ids, ⟨none, none⟩)).1

/-- Each call of a run is made on the Governor the calls before it left. -/
theorem runOf_append (cfg : GovernorConfig) (ids : Allocators) (calls : List GovernorCall)
    (call : GovernorCall) : runOf cfg ids (calls ++ [call]) = call.after (runOf cfg ids calls) := by
  unfold runOf
  rw [List.foldl_append]
  rfl

theorem stock_runOf (cfg : GovernorConfig) (ids : Allocators) (calls : List GovernorCall) :
    (runOf cfg ids calls).live.Stock ∧ (runOf cfg ids calls).live.powerWindow.Ordered :=
  DeviceState.ordered_invariant.of_reachable (reachable_foldl (.start ⟨cfg, ids, rfl⟩) calls)

/-- The meters of the workloads and the total one. -/
def meters (g : Governor) : Keyed WorkloadMeter.workload × EnergyMeter :=
  (g.workloadMeters, g.totalMeter)

/-- Besides `account_energy` only a load writes a meter. -/
theorem meters_after (g : Governor) {call : GovernorCall} (noCharge : call.charge = none)
    (noLoad : call.isLoad = false) : (call.after g).meters = g.meters := by
  cases call with
  | installPolicy p =>
      show (g.installPolicy p).1.meters = g.meters
      rcases g.installPolicy_cases p with ⟨_, installed⟩ | ⟨_, refused⟩
      · rw [installed]
        rfl
      · rw [refused]
  | planReservation =>
      show (g.planReservation _ _ _ _ _ _ _ _ _ _).1.meters = g.meters
      unfold planReservation
      dsimp only
      split <;> rfl
  | validateReservation => exact view_settle meters (fun _ _ => rfl) fun _ => rfl
  | reserveReservation => exact view_settle meters (fun _ _ => rfl) fun _ => rfl
  | admitReservation => exact view_settle meters (fun _ _ => rfl) fun _ => rfl
  | activateReservation => exact view_settle meters (fun _ _ => rfl) fun _ => rfl
  | releaseReservation => exact view_settle meters (fun _ _ => rfl) fun _ => rfl
  | observeBackend sample now =>
      obtain ⟨generation, left⟩ := observeBackend_leaves sample now g
      have same := congrArg meters left
      exact same
  | decideFor budget workload cls requested requestedEnergy duration now =>
      obtain ⟨burst, engine, ids, _, left⟩ :=
        decideFor_leaves budget workload cls requested requestedEnergy duration now g
      have same := congrArg meters left
      exact same
  | accountEnergy => cases noCharge
  | load => cases noLoad
  | _ => rfl

/-! ## Runs without their accounting -/

/-- Alike Governors stay alike when one of them accounts energy. -/
theorem alike_accountEnergy {left right : Governor} (alike : Alike left right)
    (workload : WorkloadId) (energy : Joules) (provenance : EnergyProvenance) (now : Timestamp) :
    Alike (left.accountEnergy workload energy provenance now) right where
  policy := alike.policy
  has := alike.has
  available := alike.available
  last := alike.last
  device := by
    have device := alike.device
    unfold live at device ⊢
    unfold accountEnergy
    cases present : left.device with
    | none =>
        rw [present] at device
        exact device
    | some ds =>
        rw [present] at device
        exact ⟨device.latest, device.lastObserved, device.powerWindow, device.hardwareCap,
          device.thermal, device.leftBurst, device.rightBurst⟩

theorem alike_refl {g : Governor} (stock : g.live.Stock) : Alike g g where
  policy := ⟨rfl, rfl, rfl, rfl, rfl, rfl, rfl⟩
  has := fun _ => rfl
  available := fun _ => rfl
  last := rfl
  device := ⟨rfl, rfl, rfl, rfl, ⟨stock.thresholds, stock.thresholds, .inl rfl, rfl, rfl⟩,
    stock.burst, stock.burst⟩

end Governor

/-- The calls of a running Governor: observations, decisions and accounting. -/
def GovernorCall.runs : GovernorCall → Bool
  | .observeBackend .. | .decideFor .. | .accountEnergy .. => true
  | _ => false

namespace Governor

/-- A run and the run without its accounting end alike. -/
theorem alike_unaccounted {left right : Governor} (alike : Alike left right)
    {calls : List GovernorCall} (running : ∀ call ∈ calls, call.runs = true) :
    Alike (calls.foldl GovernorCall.after left)
      ((calls.filter fun call => call.charge.isNone).foldl GovernorCall.after right) := by
  induction calls generalizing left right with
  | nil => exact alike
  | cons call rest inductionHypothesis =>
      have runs := running call List.mem_cons_self
      have others : ∀ call ∈ rest, call.runs = true :=
        fun call member => running call (List.mem_cons_of_mem _ member)
      cases call with
      | observeBackend sample now =>
          exact inductionHypothesis (alike_observeBackend alike sample now) others
      | decideFor budget workload cls requested requestedEnergy duration now =>
          have next := (alike_decideFor alike budget workload cls requested requestedEnergy duration
            now).2
          exact inductionHypothesis next others
      | accountEnergy workload energy provenance now =>
          have next := alike_accountEnergy alike workload energy provenance now
          exact inductionHypothesis next others
      | _ => cases runs

/-- No decision after a run depends on what the run accounted. -/
theorem answerTo_unaccounted {g : Governor} (stock : g.live.Stock) {calls : List GovernorCall}
    (running : ∀ call ∈ calls, call.runs = true) (budget : BudgetId) (workload : WorkloadId)
    (cls : WorkloadPowerClass) (requested : Watts) (requestedEnergy : Joules) (duration : ℚ)
    (now : Timestamp) :
    (calls.foldl GovernorCall.after g).answerTo budget workload cls requested requestedEnergy
        duration now =
      ((calls.filter fun call => call.charge.isNone).foldl GovernorCall.after g).answerTo budget
        workload cls requested requestedEnergy duration now :=
  (alike_decideFor (alike_unaccounted (alike_refl stock) running) budget workload cls requested
    requestedEnergy duration now).1

/-! ## Decisions within the other limits -/

/-- A decision is returned and is ALLOW. -/
def Permits (g : Governor) (budget : BudgetId) (workload : WorkloadId) (cls : WorkloadPowerClass)
    (requested : Watts) (requestedEnergy : Joules) (duration : ℚ) (now : Timestamp) : Prop :=
  ∃ d g', (decideFor budget workload cls requested requestedEnergy duration now).exec g =
    (.ok d, g') ∧ d.verdict = .allow

/-- The request violates no hard cap, no soft target and no thermal condition. -/
structure WithinLimits (g : Governor) (requested : Watts) : Prop where
  hardware : ∀ cap ∈ g.hardwareCeiling, requested.value ≤ cap.value
  thermalCeiling : ∀ ceiling, g.live.thermalCeiling g.hardwareCeiling = .ok (some ceiling) →
    requested.value ≤ ceiling.value
  softTarget : ∀ target ∈ g.policy.softTarget, requested.value ≤ target.value
  calm : g.live.thermal.Calm

/-- A known budget has too little available for the request. -/
def OverBudget (g : Governor) (budget : BudgetId) (requested : Watts) : Prop :=
  budget.isValid = true ∧ g.budgets.has budget = true ∧
    (g.budgets.available budget).value < requested.value ∧
      ((g.budgets.available budget).value ≤ slack ∨
        (g.budgets.available budget).value + slack < requested.value)

/-- The evidence of the device is current at a time, and can be evaluated. -/
structure EvidenceCurrent (g : Governor) (now : Timestamp) : Prop where
  spans : g.live.powerWindow.Spans
  observed : g.live.lastObserved.isZero = false
  elapsed : now.ElapsedFits g.live.lastObserved
  young : max 0 (now.ns - g.live.lastObserved.ns) <
    max g.policy.observationFreshness.ns g.policy.observationStale.ns

variable {g : Governor} {budget : BudgetId} {cls : WorkloadPowerClass} {requested : Watts}
  {requestedEnergy : Joules} {now : Timestamp} {input : DecisionInput}

/-- What a decision is filled in with. No energy counts as used in the window. -/
structure FilledFrom (g : Governor) (budget : BudgetId) (requested : Watts)
    (requestedEnergy : Joules) (input : DecisionInput) : Prop where
  requestedPower : input.requestedPower = requested
  requestedEnergy : input.requestedEnergy = requestedEnergy
  energyWindowUsed : input.energyWindowUsed = Joules.zero
  hardwareCap : input.hardwareCap = g.hardwareCeiling
  budgetAvailable : input.budgetAvailable =
    if budget.isValid && g.budgets.has budget then some (g.budgets.available budget) else none
  thermalCeiling : g.live.thermalCeiling g.hardwareCeiling = .ok input.thermalCeiling
  thermalState : input.thermalKnown = true → input.thermalState = g.live.thermal.state
  softTarget : ∀ target ∈ input.softTarget, g.policy.softTarget = some target

theorem filledFrom_filledInput
    (returned : g.filledInput budget cls requested requestedEnergy now = .ok input) :
    g.FilledFrom budget requested requestedEnergy input := by
  unfold filledInput at returned
  split at returned
  · obtain ⟨average, _, returned⟩ := bind_eq_ok.mp returned
    obtain ⟨_, _, returned⟩ := bind_eq_ok.mp returned
    obtain ⟨ceiling, permitted, returned⟩ := bind_eq_ok.mp returned
    obtain ⟨freshness, _, returned⟩ := bind_eq_ok.mp returned
    obtain rfl := Except.ok.inj returned
    exact ⟨rfl, rfl, rfl, rfl, rfl, permitted, fun _ => rfl, fun _ member => member⟩
  · rename_i absent
    obtain rfl := Except.ok.inj returned
    refine ⟨rfl, rfl, rfl, rfl, rfl, ?_, nofun, nofun⟩
    rw [live_of_none (Option.not_isSome_iff_eq_none.mp absent)]
    cases g.hardwareCeiling <;> rfl

/-- Within the other limits only the ceiling and the window of the input can refuse. -/
theorem WithinLimits.passes (within : g.WithinLimits requested)
    (filled : g.FilledFrom budget requested requestedEnergy input) :
    input.constrained = false ∧ input.recovering = false ∧ input.exceedsSoftTarget = false := by
  refine ⟨?_, ?_, ?_⟩
  · refine decide_eq_false ?_
    rintro ⟨known, constrained⟩
    exact within.calm.1 ((filled.thermalState known).symm.trans constrained)
  · refine decide_eq_false ?_
    rintro ⟨known, recovering⟩
    exact within.calm.2 ((filled.thermalState known).symm.trans recovering)
  · apply Bool.eq_false_iff.mpr
    intro exceeds
    obtain ⟨target, found, beyond⟩ := DecisionInput.exceedsSoftTarget_iff.mp exceeds
    rw [filled.requestedPower] at beyond
    exact absurd (within.softTarget target (filled.softTarget target found)) (not_le.mpr beyond)

/-- A cap under the request is the budget's. -/
theorem WithinLimits.isCap_iff (within : g.WithinLimits requested)
    (filled : g.FilledFrom budget requested requestedEnergy input) {cap : Watts}
    (under : cap.value < requested.value) : input.IsCap cap ↔
      budget.isValid = true ∧ g.budgets.has budget = true ∧ g.budgets.available budget = cap := by
  constructor
  · rintro (hardware | available | thermal)
    · rw [filled.hardwareCap] at hardware
      exact absurd (within.hardware cap hardware) (not_le.mpr under)
    · rw [filled.budgetAvailable] at available
      split at available
      · rename_i known
        obtain ⟨valid, has⟩ := Bool.and_eq_true_iff.mp known
        exact ⟨valid, has, Option.some.inj available⟩
      · cases available
    · have permitted := filled.thermalCeiling
      rw [thermal] at permitted
      exact absurd (within.thermalCeiling cap permitted) (not_le.mpr under)
  · rintro ⟨valid, has, rfl⟩
    refine .inr (.inl ?_)
    rw [filled.budgetAvailable, valid, has]
    rfl

theorem WithinLimits.overBudget_iff (within : g.WithinLimits requested)
    (filled : g.FilledFrom budget requested requestedEnergy input) :
    input.exhausted = false ∧ input.exceedsCeiling = false ↔ ¬ g.OverBudget budget requested := by
  rw [← Bool.not_eq_true, ← Bool.not_eq_true, ← not_or, not_iff_not,
    DecisionInput.exhausted_iff, DecisionInput.exceedsCeiling_iff, filled.requestedPower]
  constructor
  · rintro (⟨cap, isCap, under, none⟩ | ⟨cap, isCap, under⟩)
    · obtain ⟨valid, has, rfl⟩ := (within.isCap_iff filled under).mp isCap
      exact ⟨valid, has, under, .inl none⟩
    · have less := (le_add_of_nonneg_right slack_nonneg).trans_lt under
      obtain ⟨valid, has, rfl⟩ := (within.isCap_iff filled less).mp isCap
      exact ⟨valid, has, less, .inr under⟩
  · rintro ⟨valid, has, under, none | far⟩
    · exact .inl ⟨_, (within.isCap_iff filled under).mpr ⟨valid, has, rfl⟩, under, none⟩
    · exact .inr ⟨_, (within.isCap_iff filled under).mpr ⟨valid, has, rfl⟩, far⟩

/-- The window is compared with the energy of the request alone. -/
theorem FilledFrom.exceedsEnergyWindow_iff
    (filled : g.FilledFrom budget requested requestedEnergy input)
    (policy : input.policy = g.policy) (enforced : g.policy.energyWindow.enforce = true)
    (positive : 0 < g.policy.energyWindow.budget.value) :
    input.exceedsEnergyWindow = true ↔
      g.policy.energyWindow.budget.value + slack < requestedEnergy.value := by
  have unused : Joules.zero.value = 0 := rfl
  unfold DecisionInput.exceedsEnergyWindow
  rw [policy, filled.energyWindowUsed, filled.requestedEnergy, unused]
  simp [enforced, positive]

/-- Evidence that is current is what an input that can be evaluated is filled in with. -/
theorem current_filledInput_iff (stock : g.live.Stock) (ordered : g.live.powerWindow.Ordered)
    (budget : BudgetId) (cls : WorkloadPowerClass) (requested : Watts) (requestedEnergy : Joules) :
    (∃ input, g.filledInput budget cls requested requestedEnergy now = .ok input ∧
      input.stale = false) ↔ g.EvidenceCurrent now := by
  have filled_iff : g.device.isSome = true →
      ((∃ input, g.filledInput budget cls requested requestedEnergy now = .ok input) ↔
        g.live.powerWindow.Spans ∧
          (g.live.lastObserved.isZero = true ∨ now.ElapsedFits g.live.lastObserved)) := by
    intro present
    unfold filledInput
    rw [if_pos present]
    exact DeviceState.filled_returns_iff stock ordered _ now
  have present_of_observed : g.live.lastObserved.isZero = false → g.device.isSome = true := by
    intro observed
    cases absent : g.device with
    | none =>
        rw [live_of_none absent] at observed
        cases observed
    | some ds => rfl
  constructor
  · rintro ⟨input, filled, fresh⟩
    obtain ⟨_, _, stale⟩ := facts_of_filledInput filled
    rw [← Bool.not_eq_true, stale, not_or, not_le] at fresh
    have observed : g.live.lastObserved.isZero = false := by simpa using fresh.1
    obtain ⟨spans, never | elapsed⟩ := (filled_iff (present_of_observed observed)).mp ⟨_, filled⟩
    · exact absurd never fresh.1
    · exact ⟨spans, observed, elapsed, fresh.2⟩
  · rintro ⟨spans, observed, elapsed, young⟩
    obtain ⟨input, filled⟩ :=
      (filled_iff (present_of_observed observed)).mpr ⟨spans, .inr elapsed⟩
    obtain ⟨_, _, stale⟩ := facts_of_filledInput filled
    refine ⟨input, filled, ?_⟩
    rw [← Bool.not_eq_true, stale, not_or, not_le, observed]
    exact ⟨Bool.false_ne_true, young⟩

/-- A decision within the other limits allows the request on current evidence, within the
budget, where no verdict is held and the request alone is within the window. -/
theorem permits_iff (stock : g.live.Stock) (ordered : g.live.powerWindow.Ordered)
    (enforced : g.policy.energyWindow.enforce = true)
    (positive : 0 < g.policy.energyWindow.budget.value) (within : g.WithinLimits requested)
    (workload : WorkloadId) (duration : ℚ) :
    g.Permits budget workload cls requested requestedEnergy duration now ↔
      g.EvidenceCurrent now ∧ ¬ g.OverBudget budget requested ∧ g.held now = .ok none ∧
        requestedEnergy.value ≤ g.policy.energyWindow.budget.value + slack := by
  unfold Permits
  rw [decides_iff_resolve (P := (· = .allow)) stock.burst,
    ← current_filledInput_iff stock ordered budget cls requested requestedEnergy]
  have each : ∀ input, g.filledInput budget cls requested requestedEnergy now = .ok input →
      ((∃ outcome, g.engine.resolve input now = .ok outcome ∧ outcome.verdict = .allow) ↔
        input.stale = false ∧ ¬ g.OverBudget budget requested ∧ g.held now = .ok none ∧
          requestedEnergy.value ≤ g.policy.energyWindow.budget.value + slack) := by
    intro input returned
    obtain ⟨policy, current, _⟩ := facts_of_filledInput returned
    have filled := filledFrom_filledInput returned
    obtain ⟨free, recovered, modest⟩ := within.passes filled
    cases stale : input.stale with
    | true =>
        refine iff_of_false ?_ (fun all => nomatch all.1)
        rintro ⟨outcome, resolved, allow⟩
        have notCurrent : ¬ input.Current := fun both => nomatch stale.symm.trans both.notStale
        have asked : g.engine.resolve input now = .ok input.revalidation :=
          DecisionEngine.resolve_of_returned (DecisionInput.stages_of_not_current notCurrent)
        obtain rfl := Except.ok.inj (asked.symm.trans resolved)
        cases allow
    | false =>
        rw [DecisionEngine.resolve_allow_iff ⟨current, stale⟩ free recovered modest, policy,
          ← within.overBudget_iff filled, ← not_lt,
          ← filled.exceedsEnergyWindow_iff policy enforced positive, Bool.not_eq_true]
        unfold held
        tauto
  constructor
  · rintro ⟨input, returned, allows⟩
    obtain ⟨fresh, others⟩ := (each input returned).mp allows
    exact ⟨⟨input, returned, fresh⟩, others⟩
  · rintro ⟨⟨input, returned, fresh⟩, others⟩
    exact ⟨input, returned, (each input returned).mpr ⟨fresh, others⟩⟩

/-- A request that the accounted energy takes over the window is kept from ALLOW exactly
where something else does it: its own energy, the evidence, its budget or a held verdict. -/
theorem energy_window_enforced_iff (cfg : GovernorConfig) (ids : Allocators)
    (calls : List GovernorCall) (budget : BudgetId) (workload : WorkloadId)
    (cls : WorkloadPowerClass) (requested : Watts) (requestedEnergy : Joules) (duration : ℚ)
    (now : Timestamp)
    (enforced : (runOf cfg ids calls).policy.energyWindow.enforce = true)
    (positive : 0 < (runOf cfg ids calls).policy.energyWindow.budget.value)
    (within : (runOf cfg ids calls).WithinLimits requested) :
    ((runOf cfg ids calls).policy.energyWindow.budget.value <
        accountedWithin calls (runOf cfg ids calls).policy.energyWindow.window now +
          requestedEnergy.value →
      ¬ (runOf cfg ids calls).Permits budget workload cls requested requestedEnergy duration
        now) ↔
    accountedWithin calls (runOf cfg ids calls).policy.energyWindow.window now +
        requestedEnergy.value ≤ (runOf cfg ids calls).policy.energyWindow.budget.value ∨
      (runOf cfg ids calls).policy.energyWindow.budget.value + 1 / 1000000000 <
        requestedEnergy.value ∨
      ¬ (runOf cfg ids calls).EvidenceCurrent now ∨
      (runOf cfg ids calls).OverBudget budget requested ∨
      (runOf cfg ids calls).held now ≠ .ok none := by
  obtain ⟨stock, ordered⟩ := stock_runOf cfg ids calls
  rw [permits_iff stock ordered enforced positive within, slack, imp_iff_not_or, not_lt]
  apply or_congr_right
  rw [not_and_or, not_and_or, not_and_or, not_not, not_le]
  tauto

instance decidablePermits (g : Governor) (budget : BudgetId) (workload : WorkloadId)
    (cls : WorkloadPowerClass) (requested : Watts) (requestedEnergy : Joules) (duration : ℚ)
    (now : Timestamp) :
    Decidable (g.Permits budget workload cls requested requestedEnergy duration now) :=
  match returned :
      (decideFor budget workload cls requested requestedEnergy duration now).exec g with
  | (.ok d, _) => decidable_of_iff (d.verdict = .allow) (by simp [Permits, returned])
  | (.error _, _) => .isFalse (by simp [Permits, returned])

/-- 10 J in any second. -/
def windowPolicy : PowerPolicy :=
  { PowerPolicy.defaults ⟨1⟩ [] with
    energyWindow := ⟨Joules.clamped 10, Duration.oneSecond, true⟩ }

/-- The policy, an observation at one second, and 10 J accounted 50 ms later. -/
def meteredCalls : List GovernorCall :=
  [.installPolicy windowPolicy,
    .observeBackend reportedSample .fullSecond,
    .accountEnergy ⟨1⟩ (Joules.clamped 10) .measured chargeTime]

def meteredRun : Governor := runOf ⟨⟨1⟩, ⟨1⟩, .first⟩ .start meteredCalls

theorem withinLimits_meteredRun : meteredRun.WithinLimits (Watts.clamped 5) := by
  have ceiling : meteredRun.hardwareCeiling = some (Watts.clamped 80) := by decide +kernel
  have unmeasured : meteredRun.live.ceilingTemperature = none := by decide +kernel
  have untargeted : meteredRun.policy.softTarget = none := by decide +kernel
  refine ⟨?_, ?_, ?_, by decide +kernel, by decide +kernel⟩
  · intro cap found
    obtain rfl := Option.some.inj (ceiling.symm.trans found)
    decide +kernel
  · intro cap permitted
    rw [DeviceState.thermalCeiling_eq (by decide +kernel), unmeasured] at permitted
    cases Except.ok.inj permitted
  · intro target found
    cases untargeted.symm.trans found

/-- 12 J are refused for themselves, whatever was accounted. -/
theorem energy_window_enforced_iff_metered :
    ¬ meteredRun.Permits ⟨0⟩ ⟨1⟩ .throughput (Watts.clamped 5) (Joules.clamped 12) 0
      decisionTime := by
  refine (energy_window_enforced_iff ⟨⟨1⟩, ⟨1⟩, .first⟩ .start meteredCalls ⟨0⟩ ⟨1⟩ .throughput
    (Watts.clamped 5) (Joules.clamped 12) 0 decisionTime (by decide +kernel) (by decide +kernel)
    withinLimits_meteredRun).mpr (.inr (.inl ?_)) ?_
  · decide +kernel
  · decide +kernel

/-- 10 J are on the meter, and 5 J more are allowed within the same second. -/
theorem accounted_energy_ignored :
    ¬ ∀ (cfg : GovernorConfig) (ids : Allocators) (calls : List GovernorCall) (budget : BudgetId)
      (workload : WorkloadId) (cls : WorkloadPowerClass) (requested : Watts)
      (requestedEnergy : Joules) (duration : ℚ) (now : Timestamp),
      (runOf cfg ids calls).policy.energyWindow.enforce = true →
      0 < (runOf cfg ids calls).policy.energyWindow.budget.value →
      (runOf cfg ids calls).WithinLimits requested →
      (runOf cfg ids calls).policy.energyWindow.budget.value <
        accountedWithin calls (runOf cfg ids calls).policy.energyWindow.window now +
          requestedEnergy.value →
      ¬ (runOf cfg ids calls).Permits budget workload cls requested requestedEnergy duration
        now := by
  intro claimed
  refine claimed ⟨⟨1⟩, ⟨1⟩, .first⟩ .start meteredCalls ⟨0⟩ ⟨1⟩ .throughput (Watts.clamped 5)
    (Joules.clamped 5) 0 decisionTime (by decide +kernel) (by decide +kernel)
    withinLimits_meteredRun ?_ ?_
  · decide +kernel
  · decide +kernel

end Governor

end PowerGovernor
