import PowerGovernor.Library.Transition
import PowerGovernor.Persistence.StateCodec

/-!
Runs of a Governor.

Owns the calls of the public interface, the state each leaves behind, what an
observer of the calls knows about the telemetry, and the invariant that ties this
knowledge to the state of the device.
-/

set_option autoImplicit false

namespace PowerGovernor

/-- One call that can change a Governor. `budgetManager` is a call through the
reference that `budget_manager()` hands out. -/
inductive GovernorCall where
  | installPolicy (p : PowerPolicy)
  | installBudget (b : PowerBudget)
  | budgetManager (call : BudgetCall)
  | planReservation (workload : WorkloadId) (powerClass : WorkloadPowerClass)
      (scope : PowerDomainId) (budget : BudgetId) (power : Watts) (energy : Joules)
      (policyGen : PolicyGeneration) (deviceGen : DeviceGeneration) (now : Timestamp)
      (validity : Duration)
  | validateReservation (id : ReservationId) (policyGen : PolicyGeneration)
  | reserveReservation (id : ReservationId) (budgetGen : BudgetGeneration) (now : Timestamp)
  | admitReservation (id : ReservationId) (now : Timestamp)
  | activateReservation (id : ReservationId) (budgetGen : BudgetGeneration) (now : Timestamp)
  | releaseReservation (id : ReservationId) (budgetGen : BudgetGeneration) (now : Timestamp)
  | observeBackend (sample : BackendSample) (now : Timestamp)
  | decideFor (budget : BudgetId) (workload : WorkloadId) (cls : WorkloadPowerClass)
      (requested : Watts) (requestedEnergy : Joules) (duration : ℚ) (now : Timestamp)
  | accountEnergy (workload : WorkloadId) (energy : Joules) (provenance : EnergyProvenance)
      (now : Timestamp)
  | load (file : Option Bytes) (now : Timestamp)
  | resetHysteresis
  | invalidateLiveTelemetry

namespace Governor

/-- The Governor after a reservation operation; one that throws writes nothing. -/
def settle (g : Governor) (outcome : Except Fault (Governor × ReservationResult)) : Governor :=
  match outcome with
  | .ok (g', _) => g'
  | .error _ => g

/-- The device, or the one the first observation creates. -/
def live (g : Governor) : DeviceState := g.device.getD .blank

end Governor

/-- The Governor a call leaves behind. -/
def GovernorCall.after (g : Governor) : GovernorCall → Governor
  | .installPolicy p => (g.installPolicy p).1
  | .installBudget b => (g.installBudget b).1
  | .budgetManager call => { g with budgets := (call.exec g.budgets).1 }
  | .planReservation workload powerClass scope budget power energy policyGen deviceGen now
      validity =>
    (g.planReservation workload powerClass scope budget power energy policyGen deviceGen now
      validity).1
  | .validateReservation id policyGen => g.settle (g.validateReservation id policyGen)
  | .reserveReservation id budgetGen now => g.settle (g.reserveReservation id budgetGen now)
  | .admitReservation id now => g.settle (g.admitReservation id now)
  | .activateReservation id budgetGen now => g.settle (g.activateReservation id budgetGen now)
  | .releaseReservation id budgetGen now => g.settle (g.releaseReservation id budgetGen now)
  | .observeBackend sample now => ((Governor.observeBackend sample now).exec g).2
  | .decideFor budget workload cls requested requestedEnergy duration now =>
    ((Governor.decideFor budget workload cls requested requestedEnergy duration now).exec g).2
  | .accountEnergy workload energy provenance now =>
    g.accountEnergy workload energy provenance now
  | .load file now => (g.load file now).2
  | .resetHysteresis => g.resetHysteresis
  | .invalidateLiveTelemetry => g.invalidateLiveTelemetry

/-! ## What the calls told -/

/-- The time of the last power-bearing observation since the telemetry was last
invalidated, and the limit the last accepted one reported. -/
structure Telemetry where
  observed : Option Timestamp
  limit : Option Watts

namespace Telemetry

def invalidated (seen : Telemetry) : Telemetry := { seen with observed := none }

/-- What is known after a call. An observation whose power is refused by the
window counts as observed, and its limit is not taken over. -/
def after (seen : Telemetry) (g : Governor) : GovernorCall → Telemetry
  | .observeBackend sample now =>
    match sample.power with
    | none => seen
    | some _ =>
      { observed := some now
        limit := if ((Governor.observeBackend sample now).exec g).1.isOk then sample.powerLimit
          else seen.limit }
  | .load file now => if (g.load file now).1 = .ok true then seen.invalidated else seen
  | .invalidateLiveTelemetry => seen.invalidated
  | _ => seen

end Telemetry

/-- One call, with what it tells. -/
def governorStep (s : Governor × Telemetry) (call : GovernorCall) : Governor × Telemetry :=
  (call.after s.1, s.2.after s.1 call)

/-- The runs of a Governor from any configuration, with what their calls told. -/
def governorRuns : TransitionSystem (Governor × Telemetry) GovernorCall where
  init := fun s => ∃ cfg ids, s = (.construct cfg ids, ⟨none, none⟩)
  step := fun s call s' => s' = governorStep s call

theorem reachable_foldl {s : Governor × Telemetry} (reached : governorRuns.Reachable s)
    (calls : List GovernorCall) : governorRuns.Reachable (calls.foldl governorStep s) :=
  reached.run (fun _ _ => rfl) calls

/-! ## The device over a call -/

/-- The two facts about the device that decisions rely on. -/
def DeviceState.evidenceOf (ds : DeviceState) : Timestamp × Option Watts :=
  (ds.lastObserved, ds.hardwareCap)

namespace Governor

variable {g g' : Governor}

/-- Ending an operation changes nothing but the index. -/
theorem view_finish {T : Type} (view : Governor → T)
    (ignores : ∀ g resIndex, view { g with resIndex := resIndex } = view g) (g : Governor)
    (id : ReservationId) (state : ReservationState) (result : ReservationResult) :
    view (g.finish id state result).1 = view g := by
  unfold finish updateIndexState
  split
  · cases g.reservations.find? id with
    | none => rfl
    | some r => exact ignores g _
  · rfl

theorem finish_result (g : Governor) (id : ReservationId) (state : ReservationState)
    (result : ReservationResult) : (g.finish id state result).2 = result := by
  unfold finish
  split <;> rfl

/-- A reservation operation that ends in `finish` keeps what its last Governor has
in common with the first. -/
theorem view_settle {T : Type} (view : Governor → T)
    (ignores : ∀ g resIndex, view { g with resIndex := resIndex } = view g) {α : Type}
    {first : Except Fault α} {next : α → Governor} {id : ReservationId}
    {state : ReservationState} {result : α → ReservationResult}
    (same : ∀ a, view (next a) = view g) :
    view (g.settle (first >>= fun a => Except.ok ((next a).finish id state (result a)))) =
      view g := by
  cases first with
  | error fault => rfl
  | ok a => exact (view_finish view ignores (next a) id state (result a)).trans (same a)

theorem device_settle {α : Type} {first : Except Fault α} {next : α → Governor}
    {id : ReservationId} {state : ReservationState} {result : α → ReservationResult}
    (same : ∀ a, (next a).device = g.device) :
    (g.settle (first >>= fun a => Except.ok ((next a).finish id state (result a)))).device =
      g.device :=
  view_settle device (fun _ _ => rfl) same

theorem device_planReservation {workload : WorkloadId} {powerClass : WorkloadPowerClass}
    {scope : PowerDomainId} {budget : BudgetId} {power : Watts} {energy : Joules}
    {policyGen : PolicyGeneration} {deviceGen : DeviceGeneration} {now : Timestamp}
    {validity : Duration} :
    (g.planReservation workload powerClass scope budget power energy policyGen deviceGen now
      validity).1.device = g.device := by
  unfold planReservation
  dsimp only
  split <;> rfl

theorem device_installPolicy (p : PowerPolicy) : (g.installPolicy p).1.device = g.device := by
  rcases g.installPolicy_cases p with ⟨_, installed⟩ | ⟨_, refused⟩
  · rw [installed]
  · rw [refused]

end Governor

/-- The calls that do not touch the device. -/
def GovernorCall.leavesDevice : GovernorCall → Bool
  | .observeBackend .. | .decideFor .. | .accountEnergy .. | .load .. => false
  | .invalidateLiveTelemetry => false
  | _ => true

theorem GovernorCall.device_after {g : Governor} {call : GovernorCall}
    (leaves : call.leavesDevice = true) : (call.after g).device = g.device := by
  cases call with
  | installPolicy p => exact Governor.device_installPolicy p
  | planReservation => exact Governor.device_planReservation
  | validateReservation => exact Governor.device_settle fun _ => rfl
  | reserveReservation => exact Governor.device_settle fun _ => rfl
  | admitReservation => exact Governor.device_settle fun _ => rfl
  | activateReservation => exact Governor.device_settle fun _ => rfl
  | releaseReservation => exact Governor.device_settle fun _ => rfl
  | installBudget => rfl
  | budgetManager => rfl
  | resetHysteresis => rfl
  | _ => cases leaves

/-- The device but for its burst bucket. -/
def DeviceState.exceptBurst (ds : DeviceState) : DeviceState :=
  { ds with burst := .construct .blank }

/-- Filling in a decision writes nothing but the burst bucket. -/
theorem DeviceState.fill_leaves (input : DecisionInput) (duration : ℚ) (now : Timestamp)
    (ds : DeviceState) :
    ∃ burst, ((fill input duration now).exec ds).2 = { ds with burst := burst } := by
  have keeps_onBurst : ∀ {α : Type} (x : Stateful Fault BurstBudget α),
      Stateful.Keeps exceptBurst (onBurst x) := fun x => Stateful.keeps_zoom x fun _ _ => rfl
  have kept : Stateful.Keeps exceptBurst (fill input duration now) := by
    unfold fill
    apply Stateful.keeps_bind Stateful.keeps_get
    intro ds
    apply Stateful.keeps_bind (Stateful.keeps_ofExcept _)
    intro average
    apply Stateful.keeps_bind (Stateful.keeps_ofExcept _)
    intro _
    apply Stateful.keeps_bind (Stateful.keeps_ofExcept _)
    intro ceiling
    apply Stateful.keeps_bind (keeps_onBurst _)
    intro available
    apply Stateful.keeps_bind (keeps_onBurst _)
    intro utilization
    apply Stateful.keeps_bind (Stateful.keeps_ofExcept _)
    intro freshness
    exact Stateful.keeps_pure _
  refine ⟨((fill input duration now).exec ds).2.burst, ?_⟩
  have same := kept ds
  generalize ((fill input duration now).exec ds).2 = filled at same
  exact congrArg (fun other : DeviceState => { other with burst := filled.burst }) same

namespace Governor

/-- The two facts about the device of a Governor. -/
def evidenceOf (g : Governor) : Timestamp × Option Watts := g.live.evidenceOf

/-- The device with another burst bucket. -/
def withBurst (g : Governor) (burst : BurstBudget) : Governor :=
  { g with device := g.device.map fun ds => { ds with burst := burst } }

theorem fillInput_leaves (budget : BudgetId) (cls : WorkloadPowerClass) (requested : Watts)
    (requestedEnergy : Joules) (duration : ℚ) (now : Timestamp) (g : Governor) :
    ∃ burst, ((fillInput budget cls requested requestedEnergy duration now).exec g).2 =
      g.withBurst burst := by
  unfold fillInput
  rw [Stateful.exec_bind_of_ok (Stateful.exec_get g)]
  split
  · rename_i present
    obtain ⟨burst, left⟩ := DeviceState.fill_leaves
      (g.baseInput budget cls requested requestedEnergy) duration now g.live
    refine ⟨burst, ?_⟩
    show { g with device := some ((DeviceState.fill _ duration now).exec g.live).2 } = _
    rw [left]
    unfold withBurst live
    obtain ⟨ds, found⟩ := Option.isSome_iff_exists.mp present
    rw [found]
    rfl
  · rename_i absent
    refine ⟨.construct .blank, ?_⟩
    show g = g.withBurst _
    unfold withBurst
    rw [Option.not_isSome_iff_eq_none.mp absent]
    exact congrArg (fun device => { g with device := device })
      (Option.not_isSome_iff_eq_none.mp absent)

/-- A decision writes the burst bucket of the device and the engine, and draws at
most one id. -/
theorem decideFor_leaves (budget : BudgetId) (workload : WorkloadId) (cls : WorkloadPowerClass)
    (requested : Watts) (requestedEnergy : Joules) (duration : ℚ) (now : Timestamp) (g : Governor) :
    ∃ burst engine ids, (ids = g.ids ∨ ids = g.ids.allocateDecision.2) ∧
      ((decideFor budget workload cls requested requestedEnergy duration now).exec g).2 =
        { g.withBurst burst with engine := engine, ids := ids } := by
  obtain ⟨burst, left⟩ := fillInput_leaves budget cls requested requestedEnergy duration now g
  unfold decideFor
  rw [Stateful.exec_bind]
  generalize (fillInput budget cls requested requestedEnergy duration now).exec g = ended at left
  obtain ⟨result, filled⟩ := ended
  obtain rfl : filled = g.withBurst burst := left
  cases result with
  | error fault => exact ⟨burst, g.engine, g.ids, .inl rfl, rfl⟩
  | ok input =>
      dsimp only
      rw [Stateful.exec_bind_of_ok (Stateful.exec_get _), Stateful.exec_bind,
        Stateful.exec_ofExcept]
      cases evaluated : (g.withBurst burst).engine.evaluate (g.withBurst burst).ids input now with
      | error fault => exact ⟨burst, g.engine, g.ids, .inl rfl, rfl⟩
      | ok decided =>
          obtain ⟨outcome, _, made⟩ := bind_eq_ok.mp evaluated
          obtain rfl := Except.ok.inj made
          exact ⟨burst, _, _, .inr rfl, rfl⟩

end Governor

/-! ## Observations -/

namespace DeviceState

theorem ingest_without_power {sample : BackendSample} (absent : sample.power = none)
    (now : Timestamp) (ds : DeviceState) :
    ((ingest sample now).exec ds).2.evidenceOf = ds.evidenceOf := by
  unfold ingest
  rw [absent]
  cases sample.temperature <;> rfl

/-- A sample with power is always recorded as observed; its limit only when the
window takes it. -/
theorem ingest_with_power {sample : BackendSample} {power : Watts}
    (present : sample.power = some power) (now : Timestamp) (ds : DeviceState) :
    ((ingest sample now).exec ds).2.evidenceOf =
      (now, if ((ingest sample now).exec ds).1.isOk then sample.powerLimit
        else ds.hardwareCap) := by
  unfold ingest recordPower
  rw [present]
  simp only [Stateful.exec_bind, Stateful.exec_modify, Stateful.exec_get, Stateful.exec_ofExcept]
  cases (ds.powerWindow.record now power).2 with
  | error fault => rfl
  | ok _ => cases sample.temperature <;> rfl

/-- Every sample is numbered, also one that the window refuses. -/
theorem obsGen_ingest (sample : BackendSample) (now : Timestamp) (ds : DeviceState) :
    ((ingest sample now).exec ds).2.obsGen = ds.obsGen.next := by
  unfold ingest recordPower
  cases sample.power with
  | none => cases sample.temperature <;> rfl
  | some power =>
      simp only [Stateful.exec_bind, Stateful.exec_modify, Stateful.exec_get,
        Stateful.exec_ofExcept]
      cases (ds.powerWindow.record now power).2 with
      | error fault => rfl
      | ok _ => cases sample.temperature <;> rfl

end DeviceState

namespace Governor

/-- An observation writes the device, draws one id and moves at most a high-water
mark. -/
theorem observeBackend_leaves (sample : BackendSample) (now : Timestamp) (g : Governor) :
    ∃ generation, ((observeBackend sample now).exec g).2 =
      { g with
        authority := g.authority.advanceObservation generation
        device := some ((DeviceState.ingest sample now).exec g.live).2
        ids := g.ids.allocateObservation.2 } := by
  unfold observeBackend onDevice
  rw [Stateful.exec_bind_of_ok (Stateful.exec_get g),
    Stateful.exec_bind_of_ok (Stateful.exec_modify _ g), Stateful.exec_bind, Stateful.exec_zoom]
  unfold live
  dsimp only
  cases (DeviceState.ingest sample now).exec (g.device.getD .blank) with
  | mk result ds =>
      cases result with
      | error fault =>
          have unmoved : g.authority.advanceObservation .null = g.authority :=
            if_neg (Nat.not_lt_zero _)
          refine ⟨.null, ?_⟩
          rw [unmoved]
      | ok _ => exact ⟨ds.obsGen, rfl⟩

/-- An observation writes what the device made of the sample. -/
theorem exec_observeBackend (sample : BackendSample) (now : Timestamp) (g : Governor) :
    ((observeBackend sample now).exec g).2.live = ((DeviceState.ingest sample now).exec g.live).2 ∧
      ((observeBackend sample now).exec g).1.isOk =
        ((DeviceState.ingest sample now).exec g.live).1.isOk := by
  unfold observeBackend onDevice
  simp only [Stateful.exec_bind, Stateful.exec_get, Stateful.exec_modify, Stateful.exec_zoom]
  change _ = ((DeviceState.ingest sample now).exec (g.device.getD .blank)).2 ∧
    _ = ((DeviceState.ingest sample now).exec (g.device.getD .blank)).1.isOk
  cases (DeviceState.ingest sample now).exec (g.device.getD .blank) with
  | mk result ds =>
      cases result with
      | error fault => exact ⟨rfl, rfl⟩
      | ok _ => exact ⟨rfl, rfl⟩

/-- An observation makes the device, also one that throws. -/
theorem device_observeBackend (sample : BackendSample) (now : Timestamp) (g : Governor) :
    ((observeBackend sample now).exec g).2.device.isSome = true := by
  unfold observeBackend onDevice
  simp only [Stateful.exec_bind, Stateful.exec_get, Stateful.exec_modify, Stateful.exec_zoom]
  cases (DeviceState.ingest sample now).exec (g.device.getD .blank) with
  | mk result ds => cases result <;> rfl

end Governor

/-! ## Recovery -/

namespace Governor

section Keeps

variable {T : Type} {view : Governor → T}

theorem keeps_rejectUnless (condition : Bool) :
    Stateful.Keeps view (rejectUnless condition) :=
  Stateful.keeps_ite (Stateful.keeps_pure _) (Stateful.keeps_throw _)

theorem keeps_drawPolicyId (ignores : ∀ g ids, view { g with ids := ids } = view g) :
    Stateful.Keeps view drawPolicyId := fun g => ignores g _

theorem keeps_decodeBudgets (ignores : ∀ g budgets, view { g with budgets := budgets } = view g)
    (bytes : Bytes) : Stateful.Keeps view (decodeBudgets bytes) := by
  apply Stateful.keeps_bind (Stateful.keeps_ofExcept _)
  intro count
  exact Stateful.keeps_zoom _ fun budgets g => ignores g budgets

theorem keeps_decodeReservations (ignores : ∀ g s, view (writeRestored s g) = view g)
    (bytes : Bytes) : Stateful.Keeps view (decodeReservations bytes) := by
  apply Stateful.keeps_bind (Stateful.keeps_ofExcept _)
  intro count
  exact Stateful.keeps_zoom _ fun s g => ignores g s

theorem keeps_decodeMeters
    (ignores : ∀ g meters, view { g with workloadMeters := meters } = view g) (now : Timestamp)
    (bytes : Bytes) : Stateful.Keeps view (decodeMeters now bytes) := by
  apply Stateful.keeps_bind (Stateful.keeps_ofExcept _)
  intro count
  exact Stateful.keeps_zoom _ fun meters g => ignores g meters

/-- A view that no part of the recovered state is in. -/
structure Unrecovered (view : Governor → T) : Prop where
  header : ∀ g header, view (g.writeHeader header) = view g
  ids : ∀ g ids, view { g with ids := ids } = view g
  policy : ∀ g p, view (g.writePolicy p) = view g
  budgets : ∀ g budgets, view { g with budgets := budgets } = view g
  restored : ∀ g s, view (writeRestored s g) = view g
  meters : ∀ g meters, view { g with workloadMeters := meters } = view g

theorem keeps_decodeSections (unrecovered : Unrecovered view) (now : Timestamp) (blob : Bytes) :
    Stateful.Keeps view (decodeSections now blob) := by
  apply Stateful.keeps_bind (Stateful.keeps_ofExcept _)
  rintro ⟨header, rest⟩
  apply Stateful.keeps_bind
  · exact Stateful.keeps_modify fun g => unrecovered.header g header
  intro _
  apply Stateful.keeps_bind (keeps_drawPolicyId unrecovered.ids)
  intro policyId
  apply Stateful.keeps_bind (Stateful.keeps_ofExcept _)
  rintro ⟨policy, rest⟩
  apply Stateful.keeps_bind
  · exact Stateful.keeps_modify fun g => unrecovered.policy g policy
  intro _
  apply Stateful.keeps_bind (keeps_decodeBudgets unrecovered.budgets _)
  intro rest
  apply Stateful.keeps_bind Stateful.keeps_get
  intro g
  apply Stateful.keeps_bind (keeps_rejectUnless _)
  intro _
  apply Stateful.keeps_bind (keeps_decodeReservations unrecovered.restored _)
  intro rest
  apply Stateful.keeps_bind (keeps_decodeMeters unrecovered.meters now _)
  exact fun rest => keeps_rejectUnless _

end Keeps

theorem keeps_device_decodeSections (now : Timestamp) (blob : Bytes) :
    Stateful.Keeps device (decodeSections now blob) := by
  apply keeps_decodeSections
  constructor
  all_goals exact fun _ _ => rfl

/-- A load that returns `true` invalidates the telemetry; any other leaves the
device alone. -/
theorem device_load (g : Governor) (file : Option Bytes) (now : Timestamp) :
    ((g.load file now).1 = .ok true ∧
      (g.load file now).2.device = g.device.map DeviceState.invalidate) ∨
    ((g.load file now).1 ≠ .ok true ∧ (g.load file now).2.device = g.device) := by
  cases file with
  | none => exact .inr ⟨nofun, rfl⟩
  | some bytes =>
      unfold load
      dsimp only
      cases decodeEnvelope bytes with
      | error text => exact .inr ⟨nofun, rfl⟩
      | ok envelope =>
          have kept := keeps_device_decodeSections now envelope.blob g
          dsimp only
          unfold decodeState
          rw [Stateful.exec_bind]
          generalize (decodeSections now envelope.blob).exec g = ended at kept
          obtain ⟨result, decoded⟩ := ended
          cases result with
          | ok _ => exact .inl ⟨rfl, congrArg (Option.map DeviceState.invalidate) kept⟩
          | error exit =>
              cases exit with
              | rejected => exact .inr ⟨nofun, kept⟩
              | threw fault => exact .inr ⟨nofun, kept⟩

end Governor

/-! ## What a call does to the device -/

/-- The telemetry is invalidated: directly, or by a load that returns `true`. -/
def GovernorCall.Invalidates (g : Governor) : GovernorCall → Prop
  | .load file now => (g.load file now).1 = .ok true
  | .invalidateLiveTelemetry => True
  | _ => False

def GovernorCall.isObservation : GovernorCall → Bool
  | .observeBackend .. => true
  | _ => false

/-- The device after a call: what an observation makes of it, an invalidated one, or one with
another burst bucket and another meter. -/
inductive DeviceStep (g : Governor) : GovernorCall → DeviceState → Prop where
  | observed (sample : BackendSample) (now : Timestamp) :
      DeviceStep g (.observeBackend sample now) ((DeviceState.ingest sample now).exec g.live).2
  | invalidated {call : GovernorCall} (invalidates : call.Invalidates g) :
      DeviceStep g call g.live.invalidate
  | kept {call : GovernorCall} (leaves : ¬ call.Invalidates g)
      (other : call.isObservation = false) (burst : BurstBudget) (meter : EnergyMeter) :
      DeviceStep g call { g.live with burst := burst, meter := meter }

namespace Governor

variable {g g' : Governor}

theorem live_of_same (same : g'.device = g.device) : g'.live = g.live := by
  unfold live
  rw [same]

/-- The device before the first observation is an invalidated one already. -/
theorem live_of_invalidated (cleared : g'.device = g.device.map DeviceState.invalidate) :
    g'.live = g.live.invalidate := by
  unfold live
  rw [cleared]
  cases g.device <;> rfl

end Governor

theorem GovernorCall.deviceStep (g : Governor) (call : GovernorCall) :
    DeviceStep g call (call.after g).live := by
  have same : ∀ {call : GovernorCall}, (call.after g).device = g.device →
      ¬ call.Invalidates g → call.isObservation = false →
        DeviceStep g call (call.after g).live := by
    intro call device leaves other
    rw [Governor.live_of_same device]
    exact .kept leaves other g.live.burst g.live.meter
  cases call with
  | observeBackend sample now =>
      show DeviceStep g _ ((Governor.observeBackend sample now).exec g).2.live
      rw [(Governor.exec_observeBackend sample now g).1]
      exact .observed sample now
  | decideFor budget workload cls requested requestedEnergy duration now =>
      obtain ⟨burst, engine, ids, _, left⟩ :=
        Governor.decideFor_leaves budget workload cls requested requestedEnergy duration now g
      have live := congrArg Governor.live left
      cases present : g.device with
      | none =>
          have blank : (g.withBurst burst).device = g.device := by
            unfold Governor.withBurst
            rw [present]
            rfl
          exact same ((congrArg Governor.device left).trans blank) id rfl
      | some ds =>
          have written : (g.withBurst burst).live = { g.live with burst := burst } := by
            unfold Governor.withBurst Governor.live
            rw [present]
            rfl
          show DeviceStep g _ ((Governor.decideFor _ _ _ _ _ _ _).exec g).2.live
          rw [live.trans written]
          exact .kept id rfl burst g.live.meter
  | accountEnergy workload energy provenance now =>
      cases present : g.device with
      | none =>
          have blank : (g.accountEnergy workload energy provenance now).device = g.device := by
            unfold Governor.accountEnergy
            rw [present]
            rfl
          exact same blank id rfl
      | some ds =>
          have written : (g.accountEnergy workload energy provenance now).live =
              { g.live with meter := g.live.meter.add energy provenance now } := by
            unfold Governor.accountEnergy Governor.live
            rw [present]
            rfl
          show DeviceStep g _ (g.accountEnergy workload energy provenance now).live
          rw [written]
          exact .kept id rfl g.live.burst _
  | load file now =>
      rcases Governor.device_load g file now with ⟨accepted, device⟩ | ⟨refused, device⟩
      · show DeviceStep g _ (g.load file now).2.live
        rw [Governor.live_of_invalidated device]
        exact .invalidated accepted
      · exact same device refused rfl
  | invalidateLiveTelemetry =>
      show DeviceStep g _ g.invalidateLiveTelemetry.live
      rw [Governor.live_of_invalidated rfl]
      exact .invalidated trivial
  | _ => exact same (GovernorCall.device_after rfl) id rfl

/-! ## The invariant -/

/-- The device carries what the calls told. -/
def Telemetry.Tracks (seen : Telemetry) (g : Governor) : Prop :=
  g.evidenceOf = (seen.observed.getD Timestamp.zero, seen.limit)

namespace Telemetry

variable {seen : Telemetry} {g : Governor} {call : GovernorCall}

theorem after_of_invalidates (invalidates : call.Invalidates g) :
    seen.after g call = seen.invalidated := by
  cases call with
  | load file now => exact if_pos invalidates
  | invalidateLiveTelemetry => rfl
  | _ => exact invalidates.elim

theorem after_of_kept (leaves : ¬ call.Invalidates g) (other : call.isObservation = false) :
    seen.after g call = seen := by
  cases call with
  | load file now => exact if_neg leaves
  | invalidateLiveTelemetry => exact absurd trivial leaves
  | observeBackend sample now => cases other
  | _ => rfl

/-- Every call keeps the device and the knowledge in step. -/
theorem Tracks.after (tracks : seen.Tracks g) (call : GovernorCall) :
    (seen.after g call).Tracks (call.after g) := by
  have step := call.deviceStep g
  unfold Tracks Governor.evidenceOf
  generalize (call.after g).live = ds at step
  cases step with
  | observed sample now =>
      cases power : sample.power with
      | none =>
          have told : seen.after g (.observeBackend sample now) = seen := by
            simp [Telemetry.after, power]
          rw [told, DeviceState.ingest_without_power power now g.live]
          exact tracks
      | some amount =>
          have limit : g.live.hardwareCap = seen.limit := congrArg Prod.snd tracks
          rw [DeviceState.ingest_with_power power now g.live, limit,
            ← (Governor.exec_observeBackend sample now g).2]
          simp [Telemetry.after, power]
  | invalidated invalidates =>
      have limit : g.live.hardwareCap = seen.limit := congrArg Prod.snd tracks
      rw [after_of_invalidates invalidates]
      exact Prod.ext rfl limit
  | kept leaves other burst meter =>
      rw [after_of_kept leaves other]
      exact tracks

end Telemetry

/-- In every reachable state the device carries what the calls told. -/
theorem tracks_of_reachable {s : Governor × Telemetry} (reached : governorRuns.Reachable s) :
    s.2.Tracks s.1 := by
  refine reached.invariant (fun s => s.2.Tracks s.1) ?_ ?_
  · rintro s ⟨cfg, ids, rfl⟩
    rfl
  · rintro s call s' tracks rfl
    exact tracks.after call

/-- The end of `decide_for`, once the input is filled. -/
def Governor.evaluateFilled (input : DecisionInput) (now : Timestamp) :
    Stateful Fault Governor Decision := do
  let g ← get
  let (d, engine, ids) ← Stateful.ofExcept (g.engine.evaluate g.ids input now)
  set { g with engine := engine, ids := ids }
  return d

/-! ## Invariants of the device -/

/-- A property of the device that no change of the device breaks. -/
structure DeviceState.Invariant (Inv : DeviceState → Prop) : Prop where
  blank : Inv .blank
  ingest : ∀ sample now ds, Inv ds → Inv ((DeviceState.ingest sample now).exec ds).2
  fill : ∀ input duration now ds, Inv ds → Inv ((DeviceState.fill input duration now).exec ds).2
  meter : ∀ ds meter, Inv ds → Inv { ds with meter := meter }
  invalidate : ∀ ds, Inv ds → Inv ds.invalidate

namespace DeviceState.Invariant

variable {Inv : DeviceState → Prop} {g g' : Governor}

theorem of_same (holds : Inv g.live) (same : g'.device = g.device) : Inv g'.live := by
  unfold Governor.live at *
  rw [same]
  exact holds

theorem of_map (invariant : Invariant Inv) {f : DeviceState → DeviceState}
    (kept : ∀ ds, Inv ds → Inv (f ds)) (holds : Inv g.live)
    (same : g'.device = g.device.map f) : Inv g'.live := by
  unfold Governor.live at *
  rw [same]
  cases found : g.device with
  | none => exact invariant.blank
  | some ds =>
      rw [found] at holds
      exact kept ds holds

theorem fillInput (invariant : Invariant Inv) (holds : Inv g.live) (budget : BudgetId)
    (cls : WorkloadPowerClass) (requested : Watts) (requestedEnergy : Joules) (duration : ℚ)
    (now : Timestamp) :
    Inv ((Governor.fillInput budget cls requested requestedEnergy duration now).exec g).2.live := by
  unfold Governor.fillInput
  rw [Stateful.exec_bind_of_ok (Stateful.exec_get g)]
  split
  · exact invariant.fill _ duration now g.live holds
  · exact holds

theorem decideFor (invariant : Invariant Inv) (holds : Inv g.live) (budget : BudgetId)
    (workload : WorkloadId) (cls : WorkloadPowerClass) (requested : Watts)
    (requestedEnergy : Joules) (duration : ℚ) (now : Timestamp) :
    Inv ((Governor.decideFor budget workload cls requested requestedEnergy duration now).exec
      g).2.live := by
  have filled := invariant.fillInput holds budget cls requested requestedEnergy duration now
  unfold Governor.decideFor
  have evaluated : ∀ input, Stateful.Keeps Governor.device
      (Governor.evaluateFilled input now) := by
    intro input g
    unfold Governor.evaluateFilled
    rw [Stateful.exec_bind_of_ok (Stateful.exec_get g), Stateful.exec_bind,
      Stateful.exec_ofExcept]
    cases g.engine.evaluate g.ids input now <;> rfl
  exact of_same filled (Stateful.view_bind evaluated g)

/-- Every call keeps it. -/
theorem after (invariant : Invariant Inv) (holds : Inv g.live) (call : GovernorCall) :
    Inv (call.after g).live := by
  cases call with
  | observeBackend sample now =>
      show Inv ((Governor.observeBackend sample now).exec g).2.live
      rw [(Governor.exec_observeBackend sample now g).1]
      exact invariant.ingest sample now g.live holds
  | decideFor budget workload cls requested requestedEnergy duration now =>
      exact invariant.decideFor holds budget workload cls requested requestedEnergy duration now
  | accountEnergy workload energy provenance now =>
      exact invariant.of_map (fun ds => invariant.meter ds _) holds rfl
  | load file now =>
      rcases Governor.device_load g file now with ⟨_, device⟩ | ⟨_, device⟩
      · exact invariant.of_map invariant.invalidate holds device
      · exact of_same holds device
  | invalidateLiveTelemetry => exact invariant.of_map invariant.invalidate holds rfl
  | _ => exact of_same holds (GovernorCall.device_after rfl)

/-- In every reachable state the device has it. -/
theorem of_reachable (invariant : Invariant Inv) {s : Governor × Telemetry}
    (reached : governorRuns.Reachable s) : Inv s.1.live := by
  refine reached.invariant (fun s => Inv s.1.live) ?_ ?_
  · rintro s ⟨cfg, ids, rfl⟩
    exact invariant.blank
  · rintro s call s' holds rfl
    exact invariant.after holds call

end DeviceState.Invariant

end PowerGovernor
