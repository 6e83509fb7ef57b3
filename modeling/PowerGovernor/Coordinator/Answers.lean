import PowerGovernor.Coordinator.Calls
import PowerGovernor.Governor.Agreement
import PowerGovernor.Reservation.Identity

/-!
When the coordinator survives a message.

Owns what every Governor that a coordinator drives satisfies, the exact condition
under which the handling of a message answers it, and the theorem that a frame is
answered exactly when what it passes the fence with is harmless. Elsewhere an
exception leaves the thread of the handler and the process ends.
-/

set_option autoImplicit false

namespace PowerGovernor

/-! ## Governors behind a coordinator -/

/-- The device is stock, its samples are in order, and every decision was made at
time zero. -/
structure Governor.Serving (g : Governor) : Prop where
  stock : g.live.Stock
  ordered : g.live.powerWindow.Ordered
  decided : ∀ last ∈ g.engine.last, last.decidedAt = Timestamp.zero

namespace Governor.Serving

variable {g g' : Governor}

theorem of_same (serving : g.Serving) (device : g'.device = g.device)
    (engine : g'.engine = g.engine) : g'.Serving := by
  have live : g'.live = g.live := by
    unfold Governor.live
    rw [device]
  exact ⟨live ▸ serving.stock, live ▸ serving.ordered, engine ▸ serving.decided⟩

/-- The Governor a reservation operation ends with. -/
theorem of_finish {id : ReservationId} {state : ReservationState}
    {result other : ReservationResult}
    (ended : (.ok (g.finish id state result) : Except Fault _) = .ok (g', other))
    (serving : g.Serving) : g'.Serving := by
  obtain rfl : (g.finish id state result).1 = g' := congrArg Prod.fst (Except.ok.inj ended)
  exact serving.of_same (view_finish Governor.device (fun _ _ => rfl) g id state result)
    (view_finish Governor.engine (fun _ _ => rfl) g id state result)

theorem planReservation (serving : g.Serving) (workload : WorkloadId)
    (powerClass : WorkloadPowerClass) (scope : PowerDomainId) (budget : BudgetId) (power : Watts)
    (energy : Joules) (policyGen : PolicyGeneration) (deviceGen : DeviceGeneration)
    (now : Timestamp) (validity : Duration) :
    (g.planReservation workload powerClass scope budget power energy policyGen deviceGen now
      validity).1.Serving := by
  apply serving.of_same device_planReservation
  unfold Governor.planReservation
  dsimp only
  split <;> rfl

theorem observeBackend (sample : BackendSample) (now : Timestamp) :
    Stateful.Preserves Serving (Governor.observeBackend sample now) := by
  intro g serving
  obtain ⟨stock, ordered⟩ := DeviceState.ordered_invariant.after (g := g)
    ⟨serving.stock, serving.ordered⟩ (.observeBackend sample now)
  refine ⟨stock, ordered, ?_⟩
  obtain ⟨generation, left⟩ := observeBackend_leaves sample now g
  rw [left]
  exact serving.decided

/-- A decision at time zero is recorded as one. -/
theorem decideFor (budget : BudgetId) (workload : WorkloadId) (cls : WorkloadPowerClass)
    (requested : Watts) (requestedEnergy : Joules) (duration : ℚ) :
    Stateful.Preserves Serving (Governor.decideFor budget workload cls requested requestedEnergy
      duration Timestamp.zero) := by
  intro g serving
  rw [exec_decideFor_of_disabled serving.stock.burst]
  generalize outcome : (g.filledInput budget cls requested requestedEnergy Timestamp.zero >>=
    fun input => g.engine.evaluate g.ids input Timestamp.zero) = result
  cases result with
  | error fault => exact serving
  | ok decided =>
      obtain ⟨d, engine, ids⟩ := decided
      obtain ⟨input, _, evaluated⟩ := bind_eq_ok.mp outcome
      obtain ⟨_, _, _, _, rfl⟩ := DecisionEngine.evaluate_eq_ok evaluated
      refine ⟨serving.stock, serving.ordered, ?_⟩
      rintro last ⟨⟩
      rfl

theorem installPolicy (serving : g.Serving) (p : PowerPolicy) : (g.installPolicy p).1.Serving := by
  apply serving.of_same (device_installPolicy p)
  rcases g.installPolicy_cases p with ⟨_, installed⟩ | ⟨_, refused⟩
  · rw [installed]
  · rw [refused]

end Governor.Serving

namespace CoordShared

variable {α : Type}

theorem preserves_onGov {x : Stateful Fault Governor α}
    (preserved : Stateful.Preserves Governor.Serving x) :
    Stateful.Preserves (fun cs => cs.gov.Serving) (onGov x) :=
  Stateful.preserves_zoom preserved (fun _ serving => serving) fun _ _ serving _ => serving

theorem preserves_call {operation : Governor → Except Fault (Governor × α)}
    (preserved : ∀ g g' a, g.Serving → operation g = .ok (g', a) → g'.Serving) :
    Stateful.Preserves (fun cs => cs.gov.Serving) (call operation) := by
  apply preserves_onGov
  intro g serving
  rw [Stateful.exec_bind_of_ok (Stateful.exec_get g), Stateful.exec_bind, Stateful.exec_ofExcept]
  cases returned : operation g with
  | error fault => exact serving
  | ok outcome => exact preserved g outcome.1 outcome.2 serving returned

theorem serving_installBudget (id parent : UInt64) (hmax soft : ℚ) :
    Stateful.Preserves (fun cs => cs.gov.Serving) (installBudget id parent hmax soft) := by
  unfold installBudget
  refine Stateful.preserves_bind (Stateful.preserves_ofExcept _) ?_
  intro hardMax
  refine Stateful.preserves_bind (Stateful.preserves_ofExcept _) ?_
  intro softTarget
  exact preserves_onGov fun _ serving => serving.of_same rfl rfl

theorem serving_setPolicy (cap : ℚ) :
    Stateful.Preserves (fun cs => cs.gov.Serving) (setPolicy cap) := by
  unfold setPolicy
  refine Stateful.preserves_bind Stateful.preserves_get ?_
  intro cs
  apply Stateful.preserves_bind (preserves_onGov fun _ serving => serving.of_same rfl rfl)
  intro _
  refine Stateful.preserves_bind (Stateful.preserves_ofExcept _) ?_
  intro cap
  exact preserves_onGov fun _ serving => serving.installPolicy _

end CoordShared

namespace Pending

theorem serving_observeSection (po : PowerObsMsg) :
    Stateful.Preserves (fun cs => cs.gov.Serving) (observeSection po) := by
  unfold observeSection
  refine Stateful.preserves_bind (Stateful.preserves_ofExcept _) ?_
  intro sample
  apply Stateful.preserves_bind_pure
  exact CoordShared.preserves_onGov (Governor.Serving.observeBackend sample _)

theorem serving_planSection (rr : ReserveMsg) :
    Stateful.Preserves (fun cs => cs.gov.Serving) (planSection rr) := by
  unfold planSection
  refine Stateful.preserves_bind (Stateful.preserves_ofExcept _) ?_
  intro power
  refine Stateful.preserves_bind (Stateful.preserves_ofExcept _) ?_
  intro energy
  refine Stateful.preserves_bind (Stateful.preserves_ofExcept _) ?_
  intro validity
  apply Stateful.preserves_bind_pure
  apply CoordShared.preserves_call
  intro g g' result serving planned
  obtain rfl : (g.planReservation _ _ _ _ _ _ _ _ _ _).1 = g' :=
    congrArg Prod.fst (Except.ok.inj planned)
  exact serving.planReservation _ _ _ _ _ _ _ _ _ _

theorem serving_reserveSection (rr : ReserveMsg) (planned : ReservationId) :
    Stateful.Preserves (fun cs => cs.gov.Serving) (reserveSection rr planned) := by
  unfold reserveSection
  apply Stateful.preserves_bind_pure
  apply CoordShared.preserves_call
  intro g g' result serving reserved
  obtain ⟨outcome, _, ended⟩ := bind_eq_ok.mp reserved
  exact .of_finish ended (serving.of_same rfl rfl)

theorem serving_actSection (action : BudgetAction) (ba : BudgetActionMsg) :
    Stateful.Preserves (fun cs => cs.gov.Serving) (actSection action ba) := by
  unfold actSection
  apply Stateful.preserves_bind_pure
  apply CoordShared.preserves_call
  intro g g' result serving acted
  cases action with
  | activate =>
      obtain ⟨outcome, _, ended⟩ := bind_eq_ok.mp acted
      exact .of_finish ended (serving.of_same rfl rfl)
  | release =>
      obtain ⟨outcome, _, ended⟩ := bind_eq_ok.mp acted
      exact .of_finish ended (serving.of_same rfl rfl)

theorem serving_decideSection (dr : ReserveMsg) :
    Stateful.Preserves (fun cs => cs.gov.Serving) (decideSection dr) := by
  unfold decideSection
  refine Stateful.preserves_bind (Stateful.preserves_ofExcept _) ?_
  intro power
  apply Stateful.preserves_bind_pure
  exact CoordShared.preserves_onGov (Governor.Serving.decideFor _ _ _ _ _ _)

/-- Every section keeps the Governor so. -/
theorem serving_run (p : Pending) : Stateful.Preserves (fun cs => cs.gov.Serving) p.run := by
  cases p with
  | welcome worker =>
      apply Stateful.preserves_bind_pure
      exact Stateful.preserves_bind_pure Stateful.preserves_get _
  | observe po => exact Stateful.preserves_bind_pure (serving_observeSection po) _
  | plan rr =>
      apply Stateful.preserves_bind (serving_planSection rr)
      intro planned
      cases planned with
      | error reply => exact Stateful.preserves_pure _
      | ok id => exact Stateful.preserves_pure _
  | reserve rr planned => exact Stateful.preserves_bind_pure (serving_reserveSection rr planned) _
  | act action ba => exact Stateful.preserves_bind_pure (serving_actSection action ba) _
  | decide dr => exact Stateful.preserves_bind_pure (serving_decideSection dr) _

end Pending

theorem Coordinator.serving_invariant : SharedInvariant fun cs => cs.gov.Serving where
  start := by
    refine ⟨⟨rfl, rfl⟩, List.Pairwise.nil, ?_⟩
    rintro last ⟨⟩
  register := fun _ _ serving => serving
  receive := by
    intro cs m serving
    have same : (cs.receive m).2.gov = cs.gov := CoordShared.view_receive _ fun _ _ _ => rfl
    rw [same]
    exact serving
  run := Pending.serving_run
  installBudget := CoordShared.serving_installBudget
  setPolicy := CoordShared.serving_setPolicy
  rollEpoch := fun _ serving => serving

/-! ## What a message has to satisfy -/

/-- The readings an observation carries are in the range of their dimensions. -/
structure PowerObsMsg.Physical (po : PowerObsMsg) : Prop where
  power : po.hasPower = true → 0 ≤ po.powerMw.toInt
  temp : po.hasTemp = true → -27315 ≤ po.tempCenti.toInt
  util : po.hasUtil = true → po.utilizationBp.toNat ≤ 10000

/-- The requested amounts are not negative, and the validity is a `Duration`. -/
structure ReserveMsg.Physical (rr : ReserveMsg) : Prop where
  power : 0 ≤ rr.requestedMw.toInt
  energy : 0 ≤ rr.requestedMj.toInt
  validity : 0 ≤ rr.validityNs.toInt ∧ rr.validityNs.toInt ≤ kMaxNs

/-- The sections left for a message throw nothing. -/
def CoordShared.Harmless (cs : CoordShared) : Pending → Prop
  | .welcome _ => True
  | .observe po =>
    po.Physical ∧ (po.hasPower = true → cs.gov.live.powerWindow.Takes (.ofInt64 po.timestampNs))
  | .plan rr => rr.Physical
  | .reserve rr planned =>
    ∃ r, cs.gov.reservations.find? planned = some r ∧
      (r.state = .planned ∨ r.state = .validated → r.ExpiryFits (.ofInt64 rr.timestampNs))
  | .act .activate ba =>
    ∃ r, cs.gov.reservations.find? ba.reservation = some r ∧
      (r.state = .reserved ∨ r.state = .admitted → r.ExpiryFits Timestamp.zero)
  | .act .release ba => ∃ r, cs.gov.reservations.find? ba.reservation = some r
  | .decide dr =>
    0 ≤ dr.requestedMw.toInt ∧
      ∀ ds ∈ cs.gov.device, ds.powerWindow.Spans ∧
        (ds.lastObserved.isZero = true ∨ Timestamp.zero.ElapsedFits ds.lastObserved)

/-! ## Observations -/

section Measured

variable {unit : UnitTag} {present : Bool} {v : ℚ} {q : Option (Quantity unit)}

theorem measured_returns_iff :
    (∃ q : Option (Quantity unit), measured present v = .ok q) ↔
      (present = true → unit.dim.Admits v) := by
  unfold measured
  cases present with
  | false => exact ⟨fun _ absent => (nomatch absent), fun _ => ⟨none, rfl⟩⟩
  | true =>
      rw [if_pos rfl, ← Quantity.construct_returns_iff]
      constructor
      · rintro ⟨q, returned⟩ _
        obtain ⟨quantity, constructed, _⟩ := bind_eq_ok.mp returned
        exact ⟨quantity, constructed⟩
      · intro constructs
        obtain ⟨quantity, constructed⟩ := constructs rfl
        exact ⟨some quantity, bind_eq_ok.mpr ⟨quantity, constructed, rfl⟩⟩

theorem isSome_of_measured (returned : measured present v = .ok q) : q.isSome = present := by
  unfold measured at returned
  cases present with
  | false =>
      obtain rfl := Except.ok.inj returned
      rfl
  | true =>
      rw [if_pos rfl] at returned
      obtain ⟨quantity, _, ended⟩ := bind_eq_ok.mp returned
      obtain rfl := Except.ok.inj ended
      rfl

end Measured

/-- A scaled integer is non-negative when the integer is. -/
theorem scaled_nonneg_iff {n : Int} {scale : ℚ} (positive : 0 < scale) :
    0 ≤ (n : ℚ) / scale ↔ 0 ≤ n := by
  rw [le_div_iff₀ positive, zero_mul, Int.cast_nonneg_iff]

theorem PowerObsMsg.sample_returns_iff {po : PowerObsMsg} :
    (∃ sample, po.sample = .ok sample) ↔ po.Physical := by
  have powerRange : (UnitTag.dim .watts).Admits ((po.powerMw.toInt : ℚ) / 1000) ↔
      0 ≤ po.powerMw.toInt := scaled_nonneg_iff (by norm_num)
  have tempRange : (UnitTag.dim .celsius).Admits ((po.tempCenti.toInt : ℚ) / 100) ↔
      -27315 ≤ po.tempCenti.toInt := by
    show (-27315 / 100 : ℚ) ≤ (po.tempCenti.toInt : ℚ) / 100 ↔ _
    rw [div_le_div_iff_of_pos_right (by norm_num)]
    exact_mod_cast Iff.rfl
  have utilRange : (UnitTag.dim .utilization).Admits ((po.utilizationBp.toNat : ℚ) / 10000) ↔
      po.utilizationBp.toNat ≤ 10000 := by
    show 0 ≤ (po.utilizationBp.toNat : ℚ) / 10000 ∧ (po.utilizationBp.toNat : ℚ) / 10000 ≤ 1 ↔ _
    rw [and_iff_right (div_nonneg (Nat.cast_nonneg _) (by norm_num)), div_le_iff₀ (by norm_num),
      one_mul]
    exact_mod_cast Iff.rfl
  constructor
  · rintro ⟨sample, returned⟩
    obtain ⟨power, powered, returned⟩ := bind_eq_ok.mp returned
    obtain ⟨temp, heated, returned⟩ := bind_eq_ok.mp returned
    obtain ⟨util, used, _⟩ := bind_eq_ok.mp returned
    exact
      { power := fun has => powerRange.mp (measured_returns_iff.mp ⟨power, powered⟩ has)
        temp := fun has => tempRange.mp (measured_returns_iff.mp ⟨temp, heated⟩ has)
        util := fun has => utilRange.mp (measured_returns_iff.mp ⟨util, used⟩ has) }
  · intro physical
    obtain ⟨power, powered⟩ :=
      measured_returns_iff.mpr fun has => powerRange.mpr (physical.power has)
    obtain ⟨temp, heated⟩ := measured_returns_iff.mpr fun has => tempRange.mpr (physical.temp has)
    obtain ⟨util, used⟩ := measured_returns_iff.mpr fun has => utilRange.mpr (physical.util has)
    exact ⟨_, bind_eq_ok.mpr ⟨power, powered, bind_eq_ok.mpr ⟨temp, heated,
      bind_eq_ok.mpr ⟨util, used, rfl⟩⟩⟩⟩

theorem PowerObsMsg.isSome_power {po : PowerObsMsg} {sample : BackendSample}
    (returned : po.sample = .ok sample) : sample.power.isSome = po.hasPower := by
  obtain ⟨power, powered, returned⟩ := bind_eq_ok.mp returned
  obtain ⟨temp, _, returned⟩ := bind_eq_ok.mp returned
  obtain ⟨util, _, ended⟩ := bind_eq_ok.mp returned
  obtain rfl := Except.ok.inj ended
  exact isSome_of_measured powered

namespace Governor

variable {g : Governor}

/-- An observation returns unless the window refuses its power. -/
theorem observeBackend_returns_iff (ordered : g.live.powerWindow.Ordered) (sample : BackendSample)
    (now : Timestamp) :
    (Governor.observeBackend sample now).Returns g ↔
      (sample.power.isSome = true → g.live.powerWindow.Takes now) := by
  have returns : (Governor.observeBackend sample now).Returns g ↔
      ((DeviceState.ingest sample now).exec g.live).1.isOk = true := by
    rw [← (exec_observeBackend sample now g).2]
    unfold Stateful.Returns
    cases ((Governor.observeBackend sample now).exec g).1 with
    | error fault => exact ⟨fun ⟨_, other⟩ => (nomatch other), nofun⟩
    | ok id => exact ⟨fun _ => rfl, fun _ => ⟨id, rfl⟩⟩
  rw [returns, DeviceState.exec_ingest]
  cases sample.power with
  | none => exact ⟨fun _ absent => (nomatch absent), fun _ => rfl⟩
  | some power =>
      rw [← PowerWindow.record_returns_iff ordered (p := power)]
      dsimp only
      cases (g.live.powerWindow.record now power).2 with
      | error fault => exact ⟨nofun, fun taken => nomatch taken rfl⟩
      | ok _ => exact ⟨fun _ _ => rfl, fun _ => rfl⟩

/-- At time zero no elapsed time since an earlier decision overflows. -/
theorem evaluate_returns (serving : g.Serving) (input : DecisionInput) :
    ∃ decided, g.engine.evaluate g.ids input Timestamp.zero = .ok decided := by
  have held : ∀ outcome, ∃ final, g.engine.hold input Timestamp.zero outcome = .ok final := by
    intro outcome
    unfold DecisionEngine.hold
    cases last : g.engine.last with
    | none => exact ⟨outcome, rfl⟩
    | some previous =>
        dsimp only
        rw [serving.decided previous last]
        split
        · exact ⟨outcome, rfl⟩
        · dsimp only [Timestamp.elapsedSince]
          rw [if_neg (lt_irrefl _)]
          dsimp only [bind, Except.bind]
          repeat' split
          all_goals exact ⟨_, rfl⟩
  have resolved : ∃ final, g.engine.resolve input Timestamp.zero = .ok final := by
    unfold DecisionEngine.resolve
    cases input.stages with
    | returned outcome => exact ⟨outcome, rfl⟩
    | defaultAllow outcome => exact held outcome
  obtain ⟨outcome, resolves⟩ := resolved
  exact ⟨_, bind_eq_ok.mpr ⟨outcome, resolves, rfl⟩⟩

/-- The device can fill in a decision at time zero. -/
theorem filledInput_returns_iff (serving : g.Serving) (budget : BudgetId)
    (cls : WorkloadPowerClass) (requested : Watts) (requestedEnergy : Joules) :
    (∃ input, g.filledInput budget cls requested requestedEnergy Timestamp.zero = .ok input) ↔
      ∀ ds ∈ g.device, ds.powerWindow.Spans ∧
        (ds.lastObserved.isZero = true ∨ Timestamp.zero.ElapsedFits ds.lastObserved) := by
  unfold filledInput
  cases found : g.device with
  | none => exact ⟨fun _ _ absent => (nomatch absent), fun _ => ⟨_, rfl⟩⟩
  | some ds =>
      have live : g.live = ds := by
        unfold Governor.live
        rw [found]
        rfl
      rw [Option.isSome_some, if_pos rfl,
        DeviceState.filled_returns_iff serving.stock serving.ordered, live]
      simp

/-- A decision at time zero returns exactly when the device can fill it in. -/
theorem decideFor_returns_iff (serving : g.Serving) (budget : BudgetId) (workload : WorkloadId)
    (cls : WorkloadPowerClass) (requested : Watts) (requestedEnergy : Joules) (duration : ℚ) :
    (Governor.decideFor budget workload cls requested requestedEnergy duration
        Timestamp.zero).Returns g ↔
      ∀ ds ∈ g.device, ds.powerWindow.Spans ∧
        (ds.lastObserved.isZero = true ∨ Timestamp.zero.ElapsedFits ds.lastObserved) := by
  rw [← filledInput_returns_iff serving budget cls requested requestedEnergy]
  unfold Stateful.Returns
  rw [exec_decideFor_of_disabled serving.stock.burst]
  cases returned : g.filledInput budget cls requested requestedEnergy Timestamp.zero with
  | error fault => exact ⟨fun ⟨_, other⟩ => (nomatch other), fun ⟨_, other⟩ => (nomatch other)⟩
  | ok input =>
      obtain ⟨decided, evaluated⟩ := evaluate_returns serving input
      refine ⟨fun _ => ⟨input, rfl⟩, fun _ => ⟨decided.1, ?_⟩⟩
      show (g.commit (g.engine.evaluate g.ids input Timestamp.zero)).1 = _
      rw [evaluated]
      rfl

/-- A planned reservation is known, and it was created at the time of the plan. -/
theorem find?_of_planReservation {workload : WorkloadId} {powerClass : WorkloadPowerClass}
    {scope : PowerDomainId} {budget : BudgetId} {power : Watts} {energy : Joules}
    {policyGen : PolicyGeneration} {deviceGen : DeviceGeneration} {now : Timestamp}
    {validity : Duration}
    (ok : (g.planReservation workload powerClass scope budget power energy policyGen deviceGen now
      validity).2.ok = true) :
    ∃ r, (g.planReservation workload powerClass scope budget power energy policyGen deviceGen now
        validity).1.reservations.find? (g.planReservation workload powerClass scope budget power
          energy policyGen deviceGen now validity).2.id = some r ∧ r.created = now := by
  unfold Governor.planReservation ReservationManager.plan at *
  dsimp only at *
  cases taken : g.reservations.map.contains g.ids.allocateReservation.1 with
  | true =>
      rw [taken] at ok
      cases ok
  | false =>
      have fresh := Option.isNone_iff_eq_none.mp (Option.isSome_eq_false_iff.mp taken)
      rw [if_neg Bool.false_ne_true]
      refine ⟨_, (Keyed.find?_emplace fresh _).trans (if_pos rfl), rfl⟩

end Governor

/-! ## Sections -/

namespace CoordShared

variable {cs : CoordShared} {α : Type}

theorem call_returns_iff {operation : Governor → Except Fault (Governor × α)} :
    (call operation).Returns cs ↔ ∃ outcome, operation cs.gov = .ok outcome := by
  unfold Stateful.Returns
  rw [exec_call]
  cases operation cs.gov with
  | error fault => exact ⟨fun ⟨_, other⟩ => (nomatch other), fun ⟨_, other⟩ => (nomatch other)⟩
  | ok outcome => exact ⟨fun _ => ⟨outcome, rfl⟩, fun _ => ⟨outcome.2, rfl⟩⟩

end CoordShared

namespace Pending

variable {cs : CoordShared}

theorem observeSection_returns_iff (serving : cs.gov.Serving) (po : PowerObsMsg) :
    (observeSection po).Returns cs ↔ cs.Harmless (.observe po) := by
  show (observeSection po).Returns cs ↔ po.Physical ∧ _
  unfold observeSection
  rw [Stateful.returns_ofExcept_bind_iff, ← PowerObsMsg.sample_returns_iff]
  have observes : ∀ sample, po.sample = .ok sample →
      ((do
        let _ ← CoordShared.onGov (Governor.observeBackend sample (.ofInt64 po.timestampNs))
        return sendAck po.obsGen.raw true (.text "accepted") :
          Stateful Fault CoordShared Reply).Returns cs ↔
        (po.hasPower = true → cs.gov.live.powerWindow.Takes (.ofInt64 po.timestampNs))) := by
    intro sample returned
    rw [Stateful.returns_bind_of_forall fun _ _ => Stateful.returns_pure _ _,
      ← PowerObsMsg.isSome_power returned]
    exact Stateful.returns_zoom_iff.trans
      (Governor.observeBackend_returns_iff serving.ordered sample _)
  constructor
  · rintro ⟨sample, returned, observed⟩
    exact ⟨⟨sample, returned⟩, (observes sample returned).mp observed⟩
  · rintro ⟨⟨sample, returned⟩, takes⟩
    exact ⟨sample, returned, (observes sample returned).mpr takes⟩

theorem reserveSection_returns_iff (rr : ReserveMsg) (planned : ReservationId) :
    (reserveSection rr planned).Returns cs ↔ cs.Harmless (.reserve rr planned) := by
  unfold reserveSection
  rw [Stateful.returns_bind_of_forall fun _ _ => Stateful.returns_pure _ _,
    CoordShared.call_returns_iff]
  exact returns_bind_ok_iff.trans ReservationManager.reserve_returns_iff

theorem actSection_returns_iff (action : BudgetAction) (ba : BudgetActionMsg) :
    (actSection action ba).Returns cs ↔ cs.Harmless (.act action ba) := by
  unfold actSection
  rw [Stateful.returns_bind_of_forall fun _ _ => Stateful.returns_pure _ _,
    CoordShared.call_returns_iff]
  cases action with
  | activate => exact returns_bind_ok_iff.trans ReservationManager.activate_returns_iff
  | release => exact returns_bind_ok_iff.trans ReservationManager.release_returns_iff

theorem decideSection_returns_iff (serving : cs.gov.Serving) (dr : ReserveMsg) :
    (decideSection dr).Returns cs ↔ cs.Harmless (.decide dr) := by
  have range : (UnitTag.dim .watts).Admits ((dr.requestedMw.toInt : ℚ) / 1000) ↔
      0 ≤ dr.requestedMw.toInt := scaled_nonneg_iff (by norm_num)
  have decides : ∀ power : Watts, (do
      let dec ← CoordShared.onGov (Governor.decideFor dr.budget dr.workload .throughput power
        Joules.zero 1 Timestamp.zero)
      return sendAck dr.workload.raw true (.decision dec) :
        Stateful Fault CoordShared Reply).Returns cs ↔
      ∀ ds ∈ cs.gov.device, ds.powerWindow.Spans ∧
        (ds.lastObserved.isZero = true ∨ Timestamp.zero.ElapsedFits ds.lastObserved) := by
    intro power
    rw [Stateful.returns_bind_of_forall fun _ _ => Stateful.returns_pure _ _]
    exact Stateful.returns_zoom_iff.trans
      (Governor.decideFor_returns_iff serving _ dr.workload _ power _ _)
  show (decideSection dr).Returns cs ↔ 0 ≤ dr.requestedMw.toInt ∧ _
  unfold decideSection
  rw [Stateful.returns_ofExcept_bind_iff, ← range, ← Quantity.construct_returns_iff]
  constructor
  · rintro ⟨power, constructed, decided⟩
    exact ⟨⟨power, constructed⟩, (decides power).mp decided⟩
  · rintro ⟨⟨power, constructed⟩, fits⟩
    exact ⟨power, constructed, (decides power).mpr fits⟩

/-- A plan is followed by the reserve of a reservation created at the same time, so
only the conversions of the message can throw. -/
theorem complete_plan_returns_iff (rr : ReserveMsg) :
    (complete (.plan rr)).Returns cs ↔ rr.Physical := by
  have powerRange : (UnitTag.dim .watts).Admits ((rr.requestedMw.toInt : ℚ) / 1000) ↔
      0 ≤ rr.requestedMw.toInt := scaled_nonneg_iff (by norm_num)
  have energyRange : (UnitTag.dim .joules).Admits ((rr.requestedMj.toInt : ℚ) / 1000) ↔
      0 ≤ rr.requestedMj.toInt := scaled_nonneg_iff (by norm_num)
  unfold complete
  rw [Stateful.returns_bind_iff]
  constructor
  · rintro ⟨planned, after, first, _⟩
    obtain ⟨power, energy, validity, powered, energized, valid⟩ := planSection_returns first
    exact
      { power := powerRange.mp (Quantity.construct_returns_iff.mp ⟨power, powered⟩)
        energy := energyRange.mp (Quantity.construct_returns_iff.mp ⟨energy, energized⟩)
        validity := Duration.construct_returns_iff.mp ⟨validity, valid⟩ }
  · intro physical
    obtain ⟨power, powered⟩ := Quantity.construct_returns_iff.mpr (powerRange.mpr physical.power)
    obtain ⟨energy, energized⟩ :=
      Quantity.construct_returns_iff.mpr (energyRange.mpr physical.energy)
    obtain ⟨validity, valid⟩ := Duration.construct_returns_iff.mpr physical.validity
    have ran := exec_planSection powered energized valid cs
    generalize outcome : cs.gov.planReservation rr.workload .throughput rr.scope rr.budget power
      energy .first .first (.ofInt64 rr.timestampNs) validity = planned at ran
    refine ⟨_, _, ran, ?_⟩
    cases ok : planned.2.ok with
    | false => exact Stateful.returns_pure _ _
    | true =>
        rw [← outcome] at ok
        obtain ⟨r, found, created⟩ := Governor.find?_of_planReservation ok
        rw [outcome] at found
        apply (reserveSection_returns_iff rr planned.2.id).mpr
        refine ⟨r, found, fun _ => .inr ?_⟩
        unfold Timestamp.ElapsedFits
        rw [created, sub_self]
        decide

/-- The sections that are left answer exactly when they are harmless. -/
theorem complete_returns_iff (serving : cs.gov.Serving) (p : Pending) :
    p.complete.Returns cs ↔ cs.Harmless p := by
  cases p with
  | welcome worker => exact ⟨fun _ => trivial, fun _ => ⟨_, rfl⟩⟩
  | observe po => exact observeSection_returns_iff serving po
  | plan rr => exact complete_plan_returns_iff rr
  | reserve rr planned => exact reserveSection_returns_iff rr planned
  | act action ba => exact actSection_returns_iff action ba
  | decide dr => exact decideSection_returns_iff serving dr

end Pending

/-! ## Frames -/

/-- Some decoder of the message loop takes the payload. -/
def Frame.Decodes (m : Frame) : Prop :=
  (decodePowerObs m).isSome = true ∨ (decodeThermalObs m).isSome = true ∨
    (decodeReserve m).isSome = true ∨ (decodeBudgetAction m).isSome = true

instance (m : Frame) : Decidable m.Decodes := by
  unfold Frame.Decodes
  infer_instance

namespace Coordinator

variable {s : Coordinator}

theorem exec_handleFrame (m : Frame) (cs : CoordShared) :
    (handleFrame m).exec cs =
      match (cs.receive m).1 with
      | .replied reply => (.ok reply, (cs.receive m).2)
      | .pending next => next.complete.exec (cs.receive m).2 := by
  unfold handleFrame
  rw [Stateful.exec_bind_of_ok (Stateful.exec_get _)]
  generalize cs.receive m = received
  obtain ⟨progress, after⟩ := received
  dsimp only
  rw [Stateful.exec_bind_of_ok (Stateful.exec_set _ _)]
  cases progress <;> rfl

theorem harmless_congr {left right : CoordShared} (same : left.gov = right.gov) (p : Pending) :
    left.Harmless p ↔ right.Harmless p := by
  unfold CoordShared.Harmless
  rw [same]

/-- A coordinator answers a frame exactly when the message that passes the fence in
it, if there is one, is harmless. -/
theorem answers_iff (reached : (runs fun _ _ => True).Reachable s) (m : Frame) :
    (handleFrame m).Returns s.shared ↔
      ∀ next, s.shared.Accepts m next → s.shared.Harmless next := by
  have serving : s.shared.gov.Serving := serving_invariant.of_reachable reached
  have gov : (s.shared.receive m).2.gov = s.shared.gov :=
    CoordShared.view_receive CoordShared.gov fun _ _ _ => rfl
  have accepts := fun next => @CoordShared.receive_eq_pending s.shared m next
  unfold Stateful.Returns
  rw [exec_handleFrame]
  cases left : (s.shared.receive m).1 with
  | replied reply =>
      refine ⟨fun _ next accepted => ?_, fun _ => ⟨reply, rfl⟩⟩
      have pending := (accepts next).mpr accepted
      rw [left] at pending
      cases pending
  | pending next =>
      have completes := Pending.complete_returns_iff (gov ▸ serving) next
      rw [harmless_congr gov] at completes
      refine completes.trans ⟨fun harmless other accepted => ?_, fun harmless => ?_⟩
      · have pending := (accepts other).mpr accepted
        rw [left] at pending
        cases pending
        exact harmless
      · exact harmless next ((accepts next).mp left)

/-- Worker 1 registers under boot 10. -/
def registering : List Event := [.connect 1 (registerFrame 1 10), .proceed 1]

theorem answers_reserve : (handleFrame (reserveFrame 10)).Returns
    (registering.foldl after start).shared := by
  apply (answers_iff (.foldl (.start rfl) (along_true _ _)) (reserveFrame 10)).mpr
  intro next accepted
  have decodes : decodeReserve (reserveFrame 10) = some (reserveMsg 10) := by decide +kernel
  cases accepted with
  | observe type decoded passed => cases type
  | plan type decoded passed =>
      rw [decodes] at decoded
      cases decoded
      exact ⟨by decide, by decide, by decide⟩
  | @act action ba type decoded passed => cases action <;> cases type
  | decide type decoded passed => cases type

/-- An ACTIVATE of a reservation that does not exist throws out of the handler. -/
theorem unknown_reservation_ends :
    ¬ ∀ s, (runs fun _ _ => True).Reachable s → ∀ m : Frame, m.Decodes →
      (handleFrame m).Returns s.shared := by
  intro answers
  obtain ⟨reply, answered⟩ := answers (registering.foldl after start)
    (.foldl (.start rfl) (along_true _ _)) (activateFrame 10) (by decide +kernel)
  have ends : ((handleFrame (activateFrame 10)).exec
      (registering.foldl after start).shared).1.isOk = false := by decide +kernel
  rw [answered] at ends
  cases ends

end Coordinator

end PowerGovernor
