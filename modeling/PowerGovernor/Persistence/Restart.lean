import PowerGovernor.Governor.Doubles
import PowerGovernor.Persistence.Accounting

/-!
Decisions before and after a restart.

Owns the interactions with a running Governor and the condition on a saved one
under which a fresh one that loads its file answers every further sequence of
observations and decisions as the saved one would: the file has no room for the
rest of the policy, for the telemetry and for the thermal memory.
-/

set_option autoImplicit false

namespace PowerGovernor

/-! ## Interactions -/

/-- What a user of a running Governor does with it. -/
inductive Interaction where
  | observe (sample : BackendSample) (now : Timestamp)
  | decide (call : DecisionCall)

/-- The decisions before the first observation are on requests with a finite energy. -/
def FiniteUntilObserved : List Interaction → Prop
  | .decide call :: rest => call.requested.EnergyFinite call.duration ∧ FiniteUntilObserved rest
  | .observe _ _ :: _ | [] => True

namespace Governor

/-- One interaction; a decision is answered. -/
def interact (g : Governor) : Interaction → Option (Except Fault Answer) × Governor
  | .observe sample now => (none, ((observeBackend sample now).exec g).2)
  | .decide call =>
    let (decided, g) := call.decideFor.exec g
    (some (decided.map Decision.answer), g)

/-- Alike Governors answer every sequence of interactions alike. Where only one of them has
a device, the other one gets its device with the first observation. -/
theorem answers_eq_of_alike {left right : Governor} (alike : Alike left right)
    {interactions : List Interaction}
    (agree : left.device.isSome = right.device.isSome ∨ FiniteUntilObserved interactions) :
    answers interact left interactions = answers interact right interactions := by
  induction interactions generalizing left right with
  | nil => rfl
  | cons interaction rest inductionHypothesis =>
      cases interaction with
      | observe sample now =>
          have next := alike_observeBackend alike sample now
          have both := (device_observeBackend sample now left).trans
            (device_observeBackend sample now right).symm
          exact congrArg (none :: ·) (inductionHypothesis next (.inl both))
      | decide call =>
          obtain ⟨same, next⟩ := DecisionCall.alike_decideFor alike (agree.imp_right And.left)
          have device := DecisionCall.device_decideFor alike.device.leftBurst call
          have device' := DecisionCall.device_decideFor alike.device.rightBurst call
          refine congrArg₂ (fun answer others => some answer :: others) same ?_
          apply inductionHypothesis next
          rw [device, device']
          exact agree.imp_right And.right

end Governor

/-! ## What a restart changes -/

/-- The caps of a policy are read back as they are stored. -/
structure PowerPolicy.StorableCaps (p : PowerPolicy) : Prop where
  fleetHardCap : ∀ cap ∈ p.fleetHardCap, Storable cap.value
  nodeHardCap : ∀ cap ∈ p.nodeHardCap, Storable cap.value
  deviceHardCap : ∀ cap ∈ p.deviceHardCap, Storable cap.value
  softTarget : ∀ cap ∈ p.softTarget, Storable cap.value

/-- The parts of a policy that reach an answer and are not in the file have the
values they are read back with. -/
structure PowerPolicy.AsRecovered (p : PowerPolicy) : Prop where
  window : p.energyWindow.bound = none
  fresh : max p.observationFreshness.ns p.observationStale.ns = 1000000000
  minStableDuration : p.minStableDuration.ns = 200000000

/-- The device has not been observed, and what it remembers of temperatures
neither binds it nor lowers its ceiling. -/
structure DeviceState.Cold (ds : DeviceState) : Prop where
  latest : ds.latest = none
  lastObserved : ds.lastObserved = Timestamp.zero
  powerWindow : ds.powerWindow = DeviceState.blank.powerWindow
  hardwareCap : ds.hardwareCap = none
  held : ds.thermal.state ≠ .thermallyConstrained
  recovering : ds.thermal.state ≠ .recovering
  needConfirm : ds.thermal.needConfirm = 0
  headroom : ds.thermal.headroomFraction ds.thermal.lastTemp = 1

/-- A cold device acts like a new one. -/
theorem DeviceState.Cold.alike_blank {ds : DeviceState} (cold : ds.Cold) (stock : ds.Stock) :
    ds.Alike .blank where
  latest := cold.latest
  lastObserved := cold.lastObserved
  powerWindow := cold.powerWindow
  hardwareCap := cold.hardwareCap
  thermal :=
    { leftThresholds := stock.thresholds
      rightThresholds := rfl
      state := .inr ⟨⟨cold.held, cold.recovering⟩, nofun, nofun⟩
      needConfirm := cold.needConfirm
      headroom := cold.headroom }
  leftBurst := stock.burst
  rightBurst := rfl

namespace Governor

/-- What a restart does not change the answers of. -/
structure Restartable (g : Governor) : Prop where
  policy : g.policy.AsRecovered
  unbooked : ∀ s ∈ g.budgets.states.entries, s.reserved = Watts.zero ∧ s.used = Watts.zero
  device : g.live.Cold

/-- No reservation holds capacity. -/
def Idle (g : Governor) : Prop := ∀ r ∈ g.reservations.map.entries, r.state.holds = false

variable {g g' : Governor}

theorem alike_storedPolicy (storable : g.policy.StorableCaps) (kept : g.policy.AsRecovered)
    (id : PolicyId) : g.policy.Alike (storedPolicy g id) := by
  have cap : ∀ cap : Option Watts, (∀ c ∈ cap, Storable c.value) →
      cap = cap.map Watts.truncated := by
    intro cap storable
    cases cap with
    | none => rfl
    | some power => exact congrArg some (Watts.truncated_of_storable (storable power rfl)).symm
  exact {
    fleetHardCap := cap _ storable.fleetHardCap
    nodeHardCap := cap _ storable.nodeHardCap
    deviceHardCap := cap _ storable.deviceHardCap
    softTarget := cap _ storable.softTarget
    fresh := kept.fresh
    window := kept.window
    minStableDuration := Duration.ext kept.minStableDuration }

/-- Without holding reservations there is nothing to rebook. -/
theorem not_rebookable_of_idle (idle : g.Idle) {r : Reservation} (member : r ∈ g.reservations.all) :
    g.budgets.rebookable r ≠ true := by
  intro eligible
  have holds := (BudgetManager.rebookable_iff.mp eligible).1
  rw [idle r ((List.mem_insertionSort _).mp member)] at holds
  cases holds

theorem rebooked_of_idle (idle : g.Idle) : g.rebooked = [] := by
  have none : g.reservations.all.filter g.budgets.rebookable = [] :=
    List.filter_eq_nil_iff.mpr fun r member => not_rebookable_of_idle idle member
  show g.budgets.room.grant (g.reservations.all.filter g.budgets.rebookable) = []
  rw [none]
  rfl

theorem rebooksAll_of_idle (idle : g.Idle)
    (unbooked : ∀ s ∈ g.budgets.states.entries, s.reserved = Watts.zero ∧ s.used = Watts.zero) :
    g.RebooksAll := by
  intro b s found
  obtain ⟨reserved, used⟩ := unbooked s (Keyed.mem_of_find? found)
  rw [rebooked_of_idle idle, FirstFit.demand_nil, reserved]
  exact ⟨used, rfl⟩

/-- A restartable Governor and the one that recovered from its file. -/
theorem alike_reloaded (hardMax : ∀ b ∈ g.budgets.snapshots, Storable b.hardMax.value)
    (storableCaps : g.policy.StorableCaps) (idle : g.Idle) (cleared : g.engine.last = none)
    (stock : g.live.Stock) (restartable : g.Restartable)
    (valid : g.budgets.validHierarchy = true) (cfg : GovernorConfig) (ids : Allocators)
    (now : Timestamp) : g.Alike (reloaded (construct cfg ids) g now) := by
  have exactly : g.budgets.ReplaysExactly g.reservations.all := by
    intro before r after split eligible
    have member : r ∈ g.reservations.all := split ▸ List.mem_append_right before List.mem_cons_self
    exact absurd eligible (not_rebookable_of_idle idle member)
  have rebooked := rebooked_storedReservations hardMax
    (fun r member holds => Bool.noConfusion ((idle r member).symm.trans holds)) exactly valid
  have all := rebooksAll_of_idle idle restartable.unbooked
  constructor
  · exact alike_storedPolicy storableCaps restartable.policy _
  · exact fun id => (rebooked.has id).symm
  · exact fun id => (available_kept rebooked all id).symm
  · exact cleared
  · exact restartable.device.alike_blank stock

/-- Every run of observations and decisions is answered alike by a restartable
Governor and by the fresh one that loaded its file. -/
theorem answers_after_restart {seen : Telemetry} (reached : governorRuns.Reachable (g, seen))
    (hardMax : ∀ b ∈ g.budgets.snapshots, Storable b.hardMax.value)
    (storableCaps : g.policy.StorableCaps) (idle : g.Idle)
    (cleared : g.engine.last = none) (restartable : g.Restartable) {bytes : Bytes}
    (saved : g.save = .ok bytes) {cfg : GovernorConfig} {ids : Allocators} {now : Timestamp}
    (loaded : (construct cfg ids).load (some bytes) now = (.ok true, g'))
    (interactions : List Interaction)
    (finite : g.device.isSome = true → FiniteUntilObserved interactions) :
    answers interact g interactions = answers interact g' interactions := by
  have stock := DeviceState.stock_invariant.of_reachable reached
  rcases load_saved (blank_construct cfg ids) saved with ⟨loadable, outcome⟩ | ⟨_, refused⟩
  · obtain rfl := (Prod.mk.inj (loaded.symm.trans outcome)).2
    refine answers_eq_of_alike (alike_reloaded hardMax storableCaps idle cleared stock restartable
      loadable.hierarchy cfg ids now) ?_
    -- The recovered Governor has no device.
    cases present : g.device.isSome with
    | true => exact .inr (finite present)
    | false => exact .inl rfl
  · rw [loaded] at refused
    cases refused

/-! ## Concrete restarts -/

/-- The default policy with a fleet cap of 50 W. -/
def cappedPolicy : PowerPolicy :=
  { PowerPolicy.defaults ⟨5⟩ defaultName with fleetHardCap := some (Watts.clamped 50) }

/-- The default policy with an enforced window of 10 J. -/
def windowedPolicy : PowerPolicy :=
  { PowerPolicy.defaults ⟨5⟩ defaultName with
    energyWindow := ⟨Joules.clamped 10, Duration.oneSecond, true⟩ }

/-- A fresh Governor with that policy and one budget of 100 W. -/
def configured (p : PowerPolicy) : Governor × Telemetry :=
  [.installPolicy p, .installBudget (budgetOf 2 0 1 100)].foldl governorStep
    (firstGovernor, ⟨none, none⟩)

theorem reachable_configured (p : PowerPolicy) : governorRuns.Reachable (configured p) :=
  reachable_foldl (.start ⟨_, _, rfl⟩) _

/-- The cap comes back. -/
theorem answers_after_restart_capped : ∃ bytes g',
    (configured cappedPolicy).1.save = .ok bytes ∧
      firstGovernor.load (some bytes) decisionTime = (.ok true, g') ∧
        ∀ interactions, answers interact (configured cappedPolicy).1 interactions =
          answers interact g' interactions := by
  have savable : (configured cappedPolicy).1.save.isOk = true := by decide +kernel
  have loadable : (configured cappedPolicy).1.Loadable := by
    constructor <;> decide +kernel
  have hardMax : ∀ b ∈ (configured cappedPolicy).1.budgets.snapshots,
      Storable b.hardMax.value := by decide +kernel
  have storableCaps : (configured cappedPolicy).1.policy.StorableCaps := by
    constructor <;> decide +kernel
  have idle : (configured cappedPolicy).1.Idle := by
    unfold Idle
    decide +kernel
  have restartable : (configured cappedPolicy).1.Restartable := by
    constructor
    · constructor <;> decide +kernel
    · decide +kernel
    · constructor <;> decide +kernel
  obtain ⟨bytes, g', saved, loaded⟩ := load_of_loadable savable loadable
  refine ⟨bytes, g', saved, loaded, fun interactions => ?_⟩
  refine answers_after_restart (reachable_configured cappedPolicy) hardMax storableCaps idle
    (by decide +kernel) restartable saved loaded interactions fun present => ?_
  have absent : (configured cappedPolicy).1.device.isSome = false := by decide +kernel
  cases absent.symm.trans present

/-- A sample, and a request of 20 J. -/
def costlyRequest : List Interaction :=
  [.observe reportedSample .fullSecond,
    .decide ⟨⟨2⟩, ⟨1⟩, .throughput, Watts.clamped 5, Joules.clamped 20, .finite 1, decisionTime⟩]

/-- The energy window does not come back: the saved Governor throttles the
request, the recovered one allows it. -/
theorem answers_differ_without_window :
    ¬ ∀ (g : Governor) (seen : Telemetry) (bytes : Bytes) (cfg : GovernorConfig)
      (ids : Allocators) (now : Timestamp) (g' : Governor),
      governorRuns.Reachable (g, seen) → (∀ b ∈ g.budgets.snapshots, Storable b.hardMax.value) →
      g.policy.StorableCaps → g.Idle → g.engine.last = none → g.save = .ok bytes →
      (construct cfg ids).load (some bytes) now = (.ok true, g') →
      ∀ interactions, answers interact g interactions = answers interact g' interactions := by
  intro claimed
  have savable : (configured windowedPolicy).1.save.isOk = true := by decide +kernel
  have loadable : (configured windowedPolicy).1.Loadable := by
    constructor <;> decide +kernel
  have hardMax : ∀ b ∈ (configured windowedPolicy).1.budgets.snapshots,
      Storable b.hardMax.value := by decide +kernel
  have storableCaps : (configured windowedPolicy).1.policy.StorableCaps := by
    constructor <;> decide +kernel
  have idle : (configured windowedPolicy).1.Idle := by
    unfold Idle
    decide +kernel
  obtain ⟨bytes, g', saved, loaded⟩ := load_of_loadable savable loadable
  have same := claimed _ _ bytes _ _ _ g' (reachable_configured windowedPolicy) hardMax
    storableCaps idle (by decide +kernel) saved loaded costlyRequest
  rcases load_saved (blank_construct _ _) saved with ⟨_, outcome⟩ | ⟨refused, _⟩
  · obtain rfl := (Prod.mk.inj (loaded.symm.trans outcome)).2
    have before : (answers interact (configured windowedPolicy).1 costlyRequest).map
        (fun reply => reply.map fun answer => answer.toOption.map Prod.fst) =
          [none, some (some .throttle)] := by decide +kernel
    have after : (answers interact (reloaded firstGovernor (configured windowedPolicy).1
        decisionTime) costlyRequest).map
        (fun reply => reply.map fun answer => answer.toOption.map Prod.fst) =
          [none, some (some .allow)] := by decide +kernel
    have contradiction := before.symm.trans ((congrArg _ same).trans after)
    cases contradiction
  · exact refused loadable

end Governor

end PowerGovernor
