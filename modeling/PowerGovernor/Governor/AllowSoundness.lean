import PowerGovernor.Budget.Chain
import PowerGovernor.Decision.Limits
import PowerGovernor.Governor.Run

/-!
What an ALLOW of a Governor rests on.

Owns the facts about the input `decide_for` fills in and the soundness of ALLOW
in every reachable state. A budget that is not installed, an ancestor beyond the
65 levels of a chain, and a limit reported without a power reading constrain
nothing.
-/

set_option autoImplicit false

namespace PowerGovernor

/-! ## The hardware ceiling -/

namespace Governor

/-- The ceiling is at most a bound. -/
def AtMost (ceiling : Option Watts) (bound : Watts) : Prop :=
  ∃ cap, ceiling = some cap ∧ cap.value ≤ bound.value

theorem atMost_tighten_right {cap : Option Watts} {limit : Watts} :
    AtMost (tighten cap (some limit)) limit := by
  cases cap with
  | none => exact ⟨limit, rfl, le_refl _⟩
  | some cap => exact ⟨cap.min limit, rfl, min_le_right _ _⟩

theorem atMost_tighten_left {cap limit : Option Watts} {bound : Watts} (under : AtMost cap bound) :
    AtMost (tighten cap limit) bound := by
  obtain ⟨low, rfl, below⟩ := under
  cases limit with
  | none => exact ⟨low, rfl, below⟩
  | some limit => exact ⟨low.min limit, rfl, (min_le_left _ _).trans below⟩

/-- A hard cap of the policy in force. -/
def HardCap (p : PowerPolicy) (cap : Watts) : Prop :=
  p.fleetHardCap = some cap ∨ p.nodeHardCap = some cap ∨ p.deviceHardCap = some cap

theorem hardwareCeiling_le_hardCap {g : Governor} {cap : Watts} (hardCap : HardCap g.policy cap) :
    AtMost g.hardwareCeiling cap := by
  unfold hardwareCeiling
  apply atMost_tighten_left
  rcases hardCap with fleet | node | device
  · apply atMost_tighten_left
    apply atMost_tighten_left
    rw [fleet]
    exact atMost_tighten_right
  · apply atMost_tighten_left
    rw [node]
    exact atMost_tighten_right
  · rw [device]
    exact atMost_tighten_right

theorem hardwareCeiling_le_reported {g : Governor} {limit : Watts}
    (reported : g.live.hardwareCap = some limit) : AtMost g.hardwareCeiling limit := by
  have onDevice : g.device.bind DeviceState.hardwareCap = some limit := by
    unfold live at reported
    cases found : g.device with
    | none =>
        rw [found] at reported
        cases reported
    | some ds =>
        rw [found] at reported
        exact reported
  unfold hardwareCeiling
  rw [onDevice]
  exact atMost_tighten_right

end Governor

/-! ## The decision input -/

/-- What the device part leaves as it was, and where the freshness comes from. -/
theorem DeviceState.fill_eq_ok {input filled : DecisionInput} {duration : ℚ} {now : Timestamp}
    {ds ds' : DeviceState} (returned : (fill input duration now).exec ds = (.ok filled, ds')) :
    filled.requestedPower = input.requestedPower ∧ filled.hardwareCap = input.hardwareCap ∧
      filled.budgetAvailable = input.budgetAvailable ∧
      Governor.freshnessOf input.policy ds.lastObserved now = .ok filled.powerFreshness := by
  unfold fill at returned
  rw [Stateful.exec_bind_of_ok (Stateful.exec_get ds)] at returned
  obtain ⟨average, ds₁, _, returned⟩ := Stateful.bind_eq_ok.mp returned
  obtain ⟨_, ds₂, _, returned⟩ := Stateful.bind_eq_ok.mp returned
  obtain ⟨ceiling, ds₃, _, returned⟩ := Stateful.bind_eq_ok.mp returned
  obtain ⟨available, ds₄, _, returned⟩ := Stateful.bind_eq_ok.mp returned
  obtain ⟨utilization, ds₅, _, returned⟩ := Stateful.bind_eq_ok.mp returned
  obtain ⟨freshness, ds₆, fresh, returned⟩ := Stateful.bind_eq_ok.mp returned
  rw [Stateful.exec_ofExcept] at fresh
  cases returned
  exact ⟨rfl, rfl, rfl, congrArg Prod.fst fresh⟩

/-- The filled input of a decision. -/
structure Governor.Fills (g : Governor) (budget : BudgetId) (requested : Watts) (now : Timestamp)
    (input : DecisionInput) : Prop where
  requested : input.requestedPower = requested
  hardware : input.hardwareCap = g.hardwareCeiling
  available : budget.isValid = true → g.budgets.has budget = true →
    input.budgetAvailable = some (g.budgets.available budget)
  fresh : input.powerFreshness = .current ∨ input.powerFreshness = .aging →
    freshnessOf g.policy g.live.lastObserved now = .ok input.powerFreshness

theorem Governor.fills_of_fillInput {g g' : Governor} {budget : BudgetId}
    {cls : WorkloadPowerClass} {requested : Watts} {requestedEnergy : Joules} {duration : ℚ}
    {now : Timestamp} {input : DecisionInput}
    (returned : (fillInput budget cls requested requestedEnergy duration now).exec g =
      (.ok input, g')) : g.Fills budget requested now input := by
  have available : budget.isValid = true → g.budgets.has budget = true →
      (g.baseInput budget cls requested requestedEnergy).budgetAvailable =
        some (g.budgets.available budget) := by
    intro valid known
    simp [baseInput, valid, known]
  unfold fillInput at returned
  rw [Stateful.exec_bind_of_ok (Stateful.exec_get g)] at returned
  dsimp only at returned
  split at returned
  · have first := congrArg Prod.fst returned
    rw [onDevice, Stateful.exec_zoom] at first
    have filled : (DeviceState.fill (g.baseInput budget cls requested requestedEnergy) duration
        now).exec g.live = (.ok input, ((DeviceState.fill (g.baseInput budget cls requested
          requestedEnergy) duration now).exec g.live).2) :=
      Prod.ext first rfl
    obtain ⟨power, hardware, budget, fresh⟩ := DeviceState.fill_eq_ok filled
    refine ⟨power, hardware, fun valid known => ?_, fun _ => fresh⟩
    rw [budget]
    exact available valid known
  · cases returned
    refine ⟨rfl, rfl, available, ?_⟩
    rintro (current | aging)
    · cases current
    · cases aging

/-! ## The soundness of ALLOW -/

/-- Evidence that counts as current was observed, and recently enough. -/
theorem Governor.fresh_of_freshnessOf {p : PowerPolicy} {observed now : Timestamp}
    {state : FreshnessState} (returned : freshnessOf p observed now = .ok state)
    (fresh : state = .current ∨ state = .aging) : observed.isZero = false ∧
      now.ns - observed.ns < max p.observationFreshness.ns p.observationStale.ns := by
  unfold freshnessOf at returned
  split at returned
  · cases returned
    rcases fresh with current | aging
    · cases current
    · cases aging
  · rename_i known
    have known : observed.isZero = false := by simpa using known
    refine ⟨known, ?_⟩
    obtain ⟨age, aged, classified⟩ := bind_eq_ok.mp returned
    unfold FreshnessThresholds.ageOf at aged
    rw [known] at aged
    have elapsed := Timestamp.elapsedSince_eq_ok.mp (noexcept_eq_ok.mp aged)
    rw [known] at classified
    rw [if_neg (by simp)] at classified
    have state := Except.ok.inj classified
    rw [← state] at fresh
    have young := FreshnessThresholds.ageFromDuration_fresh_iff.mp fresh
    dsimp only at young
    omega

/-- What is left of a budget, by the queries of its manager. -/
def BudgetManager.left (m : BudgetManager) (b : BudgetId) : ℚ :=
  (m.hardMax b).value - (m.reserved b).value - (m.used b).value

/-- An amount within the available capacity is left on the whole chain. -/
theorem BudgetManager.le_left_of_available {m : BudgetManager} {id b : BudgetId} {amount : ℚ}
    (within : amount ≤ (m.available id).value + slack) (onChain : b ∈ m.chain id) :
    amount ≤ max 0 (m.left b) + slack := by
  rcases le_or_gt (amount - slack) 0 with small | positive
  · have nonneg := le_max_left 0 (m.left b)
    linarith
  · obtain ⟨_, chain⟩ := (BudgetManager.le_available_iff positive).mp (by linarith)
    obtain ⟨s, installed, left⟩ := chain b onChain
    have own : s.ownAvailable.value = max 0 (m.left b) := by
      simp [BudgetState.ownAvailable, BudgetManager.left, hardMax, reserved, used, installed]
    rw [own] at left
    linarith

namespace Governor

/-- The input of a decision and what it was resolved to. -/
theorem limit_of_decideFor {g g' : Governor} {budget : BudgetId} {workload : WorkloadId}
    {cls : WorkloadPowerClass} {requested : Watts} {requestedEnergy : Joules} {duration : ℚ}
    {now : Timestamp} {d : Decision}
    (returned : (decideFor budget workload cls requested requestedEnergy duration now).exec g =
      (.ok d, g')) : ∃ input engine outcome, g.Fills budget requested now input ∧
        DecisionEngine.resolve engine input now = .ok outcome ∧ d.verdict = outcome.verdict ∧
          d.recommendedLimit = outcome.limit := by
  obtain ⟨input, filled, filledOk, returned⟩ := Stateful.bind_eq_ok.mp returned
  rw [Stateful.exec_bind_of_ok (Stateful.exec_get filled)] at returned
  obtain ⟨⟨decided, engine, ids⟩, _, evaluated, returned⟩ := Stateful.bind_eq_ok.mp returned
  have evaluated : filled.engine.evaluate filled.ids input now = .ok (decided, engine, ids) :=
    congrArg Prod.fst evaluated
  obtain ⟨outcome, resolved, verdict, limit, _⟩ := DecisionEngine.evaluate_eq_ok evaluated
  cases returned
  exact ⟨input, filled.engine, outcome, fills_of_fillInput filledOk, resolved, verdict, limit⟩

/-- A decision that is returned is one of the engine on the filled input. -/
theorem decideFor_eq_ok {g g' : Governor} {budget : BudgetId} {workload : WorkloadId}
    {cls : WorkloadPowerClass} {requested : Watts} {requestedEnergy : Joules} {duration : ℚ}
    {now : Timestamp} {d : Decision}
    (returned : (decideFor budget workload cls requested requestedEnergy duration now).exec g =
      (.ok d, g')) : ∃ input engine outcome, g.Fills budget requested now input ∧
        DecisionEngine.resolve engine input now = .ok outcome ∧ d.verdict = outcome.verdict := by
  obtain ⟨input, engine, outcome, fills, resolved, verdict, _⟩ := limit_of_decideFor returned
  exact ⟨input, engine, outcome, fills, resolved, verdict⟩

/-- Every ALLOW of a reachable Governor: the request is left on the whole chain
of an installed budget, is under every hard cap and the last reported limit, and
rests on a recent observation. -/
theorem allow_sound {g g' : Governor} {seen : Telemetry}
    (reached : governorRuns.Reachable (g, seen)) {budget : BudgetId} {workload : WorkloadId}
    {cls : WorkloadPowerClass} {requested : Watts} {requestedEnergy : Joules} {duration : ℚ}
    {now : Timestamp} {d : Decision}
    (returned : (decideFor budget workload cls requested requestedEnergy duration now).exec g =
      (.ok d, g')) (allow : d.verdict = .allow) :
    (budget.isValid = true → g.budgets.has budget = true → ∀ b ∈ g.budgets.chain budget,
      requested.value ≤ max 0 (g.budgets.left b) + 1 / 1000000000) ∧
    (∀ cap, HardCap g.policy cap → requested.value ≤ cap.value + 1 / 1000000000) ∧
    (∀ limit, seen.limit = some limit → requested.value ≤ limit.value + 1 / 1000000000) ∧
    ∃ observed, seen.observed = some observed ∧
      now.ns - observed.ns < max g.policy.observationFreshness.ns g.policy.observationStale.ns := by
  obtain ⟨input, engine, outcome, fills, resolved, verdict⟩ := decideFor_eq_ok returned
  rw [verdict] at allow
  obtain ⟨passed, _, _⟩ := (DecisionEngine.respects_resolve resolved).allow allow
  have underCap : ∀ cap, input.IsCap cap → requested.value ≤ cap.value + slack := by
    intro cap isCap
    rw [← fills.requested]
    exact DecisionInput.requested_le_cap passed.underCeiling isCap
  have underHardware : ∀ bound, AtMost g.hardwareCeiling bound →
      requested.value ≤ bound.value + slack := by
    rintro bound ⟨cap, found, below⟩
    have under := underCap cap (.inl (fills.hardware.trans found))
    linarith
  have tracks := tracks_of_reachable reached
  have reported : g.live.hardwareCap = seen.limit := congrArg Prod.snd tracks
  have observed : g.live.lastObserved = seen.observed.getD Timestamp.zero :=
    congrArg Prod.fst tracks
  refine ⟨fun valid known b onChain => ?_, fun cap hardCap => ?_, fun limit found => ?_, ?_⟩
  · exact BudgetManager.le_left_of_available
      (underCap _ (.inr (.inl (fills.available valid known)))) onChain
  · exact underHardware cap (hardwareCeiling_le_hardCap hardCap)
  · exact underHardware limit (hardwareCeiling_le_reported (reported.trans found))
  · have notStale := passed.notStale
    have fresh : input.powerFreshness = .current ∨ input.powerFreshness = .aging := by
      unfold DecisionInput.stale at notStale
      cases state : input.powerFreshness <;> simp [state] at notStale ⊢
    obtain ⟨known, young⟩ := fresh_of_freshnessOf (fills.fresh fresh) fresh
    rw [observed] at known young
    cases at_ : seen.observed with
    | none =>
        rw [at_] at known
        cases known
    | some time =>
        rw [at_] at young
        exact ⟨time, rfl, young⟩

/-- `decide_for` returns ALLOW for a request of no energy. -/
def Allows (g : Governor) (budget : BudgetId) (requested : Watts) (now : Timestamp) : Prop :=
  ∃ d g', (decideFor budget ⟨1⟩ .throughput requested Joules.zero 0 now).exec g = (.ok d, g') ∧
    d.verdict = .allow

instance decidableAllows (g : Governor) (budget : BudgetId) (requested : Watts)
    (now : Timestamp) : Decidable (g.Allows budget requested now) :=
  match returned : (decideFor budget ⟨1⟩ .throughput requested Joules.zero 0 now).exec g with
  | (.ok d, _) => decidable_of_iff (d.verdict = .allow) (by simp [Allows, returned])
  | (.error _, _) => .isFalse (by simp [Allows, returned])

end Governor

/-! ## Concrete runs -/

/-- 10 W drawn, and a limit of 80 W. -/
def reportedSample : BackendSample :=
  { BackendSample.blank with
    power := some (Watts.clamped 10)
    powerLimit := some (Watts.clamped 80) }

/-- A fresh Governor, the given calls, and that sample at one second. -/
def observedRun (calls : List GovernorCall) : Governor × Telemetry :=
  (calls ++ [GovernorCall.observeBackend reportedSample .fullSecond]).foldl
    governorStep (.construct ⟨⟨1⟩, ⟨1⟩, .first⟩ .start, ⟨none, none⟩)

theorem reachable_observedRun (calls : List GovernorCall) :
    governorRuns.Reachable (observedRun calls) :=
  reachable_foldl (.start ⟨_, _, rfl⟩) _

/-- 100 ms after the observation. -/
def decisionTime : Timestamp := ⟨1100000000, by decide, by decide⟩

/-- Between the sample and the decision. -/
def chargeTime : Timestamp := ⟨1050000000, by decide, by decide⟩

/-- A budget of the given amount, and its parent. -/
def budgetOf (id parent : UInt64) (generation : UInt64) (amount : ℚ) : PowerBudget :=
  { PowerBudget.blank with
    id := ⟨id⟩, generation := ⟨generation⟩, parent := some ⟨parent⟩
    hardMax := Watts.clamped amount }

/-- 5 W on a budget of 100 W are allowed, and the facts behind it hold. -/
theorem Governor.allow_sound_oneBudget :
    ((5 : ℚ) ≤ max 0 ((observedRun [.installBudget (budgetOf 2 0 1 100)]).1.budgets.left ⟨2⟩) +
      1 / 1000000000) ∧ (5 : ℚ) ≤ 80 + 1 / 1000000000 := by
  have allows : (observedRun [.installBudget (budgetOf 2 0 1 100)]).1.Allows ⟨2⟩
      (Watts.clamped 5) decisionTime := by decide +kernel
  obtain ⟨d, g', returned, allow⟩ := allows
  obtain ⟨budget, _, limit, _⟩ := allow_sound (reachable_observedRun _) returned allow
  have requested : (Watts.clamped 5).value = 5 := by norm_num
  have reported : (Watts.clamped 80).value = 80 := by norm_num
  rw [requested] at budget limit
  refine ⟨budget rfl (by decide +kernel) ⟨2⟩ (by decide +kernel), ?_⟩
  rw [← reported]
  exact limit _ (by decide +kernel)

/-- Budgets 1 to 67 of 100 W, each under the next, and the last of 0 W. -/
def deepBudgets : List GovernorCall :=
  (List.range 66).map
      (fun n => .installBudget (budgetOf (.ofNat (n + 1)) (.ofNat (n + 2)) 1 100)) ++
    [.installBudget (budgetOf 67 0 1 0)]

/-- 50 W reserved on a budget that is then re-issued with 10 W. -/
def reissuedBudget : List GovernorCall :=
  [.installBudget (budgetOf 2 0 1 100),
    .budgetManager (.reserve ⟨2⟩ (Watts.clamped 50) ⟨1⟩ ⟨1⟩),
    .installBudget (budgetOf 2 0 2 10)]

/-- A sample with a limit of 3 W and no power reading. -/
def limitOnly : BackendSample :=
  { BackendSample.blank with powerLimit := some (Watts.clamped 3) }

/-- Four reachable ALLOWs that the unrestricted reading rules out: for a budget
that is not installed; for nothing on a re-issued budget that is overbooked; under
an ancestor without capacity beyond the 65th level; and over a limit that came
without a power reading. -/
theorem Governor.allow_where_nothing_binds :
    ((observedRun []).1.Allows ⟨7⟩ (Watts.clamped 5) decisionTime ∧
      (observedRun []).1.budgets.has ⟨7⟩ = false) ∧
    ((observedRun reissuedBudget).1.Allows ⟨2⟩ Watts.zero decisionTime ∧
      ¬ (0 : ℚ) ≤ (observedRun reissuedBudget).1.budgets.left ⟨2⟩ + 1 / 1000000000) ∧
    ((observedRun deepBudgets).1.Allows ⟨1⟩ (Watts.clamped 5) decisionTime ∧
      ¬ (5 : ℚ) ≤ (observedRun deepBudgets).1.budgets.left ⟨67⟩ + 1 / 1000000000) ∧
    ((GovernorCall.observeBackend limitOnly decisionTime).after
      (observedRun [.installBudget (budgetOf 2 0 1 100)]).1).Allows ⟨2⟩ (Watts.clamped 5)
        decisionTime := by
  refine ⟨⟨?_, ?_⟩, ⟨?_, ?_⟩, ⟨?_, ?_⟩, ?_⟩
  all_goals decide +kernel

end PowerGovernor
