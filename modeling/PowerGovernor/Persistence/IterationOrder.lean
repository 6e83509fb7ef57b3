import PowerGovernor.Library.ListOrder
import PowerGovernor.Persistence.Digest

/-!
The state encoding and the order in which maps are iterated.

Owns the orders in which the three maps of a Governor may be iterated, the encoding
in such an order, and the exact condition under which equal logical states are
encoded alike in all of them: only the reservations are sorted before they are
written.
-/

set_option autoImplicit false

namespace PowerGovernor

/-- The order `all` puts reservations in. -/
def ReservationManager.byId (reservations : List Reservation) : List Reservation :=
  reservations.insertionSort fun a b => a.id.raw ≤ b.id.raw

/-- An order in which `states_`, `map_` and `workload_meter_` may be iterated. -/
structure IterationOrder (g : Governor) where
  budgets : List PowerBudget
  reservations : List Reservation
  meters : List WorkloadMeter
  ofBudgets : budgets.Perm g.budgets.snapshots
  ofReservations : reservations.Perm g.reservations.map.entries
  ofMeters : meters.Perm g.workloadMeters.entries

namespace Governor

/-- The order of insertion. -/
def inserted (g : Governor) : IterationOrder g :=
  ⟨_, _, _, .refl g.budgets.snapshots, .refl g.reservations.map.entries,
    .refl g.workloadMeters.entries⟩

/-- `encode_state` in a given order. -/
def encodeIn (g : Governor) (order : IterationOrder g) : Except Fault Bytes :=
  concat [encodeHeader g, encodeCaps g.policy, encodeSection encodeBudget order.budgets,
    encodeSection encodeReservation (ReservationManager.byId order.reservations),
    encodeSection encodeMeter order.meters]

theorem encodeIn_inserted (g : Governor) : g.encodeIn g.inserted = g.encodeState := rfl

/-- `state_digest` in a given order. -/
def digestIn (g : Governor) (order : IterationOrder g) : Except Fault Bytes :=
  (g.encodeIn order).map digestHex

end Governor

/-- The workload and the energy that is encoded of a meter. -/
def WorkloadMeter.energy (m : WorkloadMeter) : WorkloadId × Joules := (m.workload, m.meter.total)

/-- The same configuration, policy, budgets, reservations and workload energies. -/
structure SameLogicalState (left right : Governor) : Prop where
  cfg : left.cfg = right.cfg
  policy : left.policy = right.policy
  budgets : ∀ b, b ∈ left.budgets.snapshots ↔ b ∈ right.budgets.snapshots
  reservations : ∀ r, r ∈ left.reservations.map.entries ↔ r ∈ right.reservations.map.entries
  energies : ∀ e, e ∈ left.workloadMeters.entries.map WorkloadMeter.energy ↔
    e ∈ right.workloadMeters.entries.map WorkloadMeter.energy

/-! ## Distinct keys -/

theorem distinct_snapshots (m : BudgetManager) : (m.snapshots.map PowerBudget.id).Nodup := by
  unfold BudgetManager.snapshots
  rw [List.map_map]
  exact m.states.distinct

/-- Reservations are written in one order. -/
theorem ReservationManager.byId_eq_of_perm (rm : ReservationManager) {left right : List Reservation}
    (leftOrder : left.Perm rm.map.entries) (rightOrder : right.Perm rm.map.entries) :
    byId left = byId right := by
  have injective : Function.Injective (StrongId.raw : ReservationId → UInt64) := by
    intro a b same
    cases a
    cases b
    exact congrArg StrongId.mk same
  have ids : (right.map Reservation.id).Nodup :=
    (rightOrder.map Reservation.id).nodup_iff.mpr rm.map.distinct
  have raws := ids.map injective
  rw [List.map_map] at raws
  exact ListOrder.insertionSort_eq_of_perm UInt64.le_total (fun _ _ _ => UInt64.le_trans)
    (fun _ _ => UInt64.le_antisymm) raws (leftOrder.trans rightOrder.symm)

theorem distinct_energies (meters : Keyed WorkloadMeter.workload) :
    ((meters.entries.map WorkloadMeter.energy).map Prod.fst).Nodup := by
  rw [List.map_map]
  exact meters.distinct

/-! ## One order -/

/-- Bytes that start with two sections of equally many records start with equal ones. -/
theorem section_of_append_eq {α β : Type} {encode : β → Except Fault Bytes} {reader : BinReader α}
    {decoded : β → α} (encodes : ∀ item, Encodes (encode item) reader (decoded item))
    {items items' : List β} (length : items.length = items'.length)
    {bytes bytes' rest rest' : Bytes} (encoded : encodeSection encode items = .ok bytes)
    (encoded' : encodeSection encode items' = .ok bytes') (same : bytes ++ rest = bytes' ++ rest') :
    items.map decoded = items'.map decoded ∧ rest = rest' := by
  obtain ⟨records, recordsOk, rfl⟩ := encodeSection_eq_ok.mp encoded
  obtain ⟨records', recordsOk', rfl⟩ := encodeSection_eq_ok.mp encoded'
  rw [length, List.append_assoc, List.append_assoc] at same
  exact ByteReader.records_of_append_eq encodes length recordsOk recordsOk'
    (List.append_cancel_left same)

namespace Governor

variable {g : Governor} {blob : Bytes}

/-- The sections of an encoding. -/
theorem encodeIn_eq_ok {order : IterationOrder g} (encoded : g.encodeIn order = .ok blob) :
    ∃ header caps budgets reservations meters, encodeHeader g = .ok header ∧
      encodeCaps g.policy = .ok caps ∧ encodeSection encodeBudget order.budgets = .ok budgets ∧
      encodeSection encodeReservation (ReservationManager.byId order.reservations) =
        .ok reservations ∧
      encodeSection encodeMeter order.meters = .ok meters ∧
      blob = header ++ (caps ++ (budgets ++ (reservations ++ meters))) := by
  obtain ⟨header, fromCaps, headerOk, fromCapsOk, rfl⟩ := concat_cons_eq_ok.mp encoded
  obtain ⟨caps, fromBudgets, capsOk, fromBudgetsOk, rfl⟩ := concat_cons_eq_ok.mp fromCapsOk
  obtain ⟨budgets, fromReservations, budgetsOk, fromReservationsOk, rfl⟩ :=
    concat_cons_eq_ok.mp fromBudgetsOk
  obtain ⟨reservations, fromMeters, reservationsOk, fromMetersOk, rfl⟩ :=
    concat_cons_eq_ok.mp fromReservationsOk
  obtain ⟨meters, nothing, metersOk, nothingOk, rfl⟩ := concat_cons_eq_ok.mp fromMetersOk
  refine ⟨header, caps, budgets, reservations, meters, headerOk, capsOk, budgetsOk,
    reservationsOk, metersOk, ?_⟩
  rw [← Except.ok.inj nothingOk, List.append_nil]

/-- Equal bytes name the budgets and the workloads in the same order. -/
theorem order_of_encodeIn {order order' : IterationOrder g}
    (encoded : g.encodeIn order = .ok blob) (encoded' : g.encodeIn order' = .ok blob) :
    order.budgets = order'.budgets ∧ order.meters = order'.meters := by
  obtain ⟨header, caps, budgets, reservations, meters, headerOk, capsOk, budgetsOk,
    reservationsOk, metersOk, rfl⟩ := encodeIn_eq_ok encoded
  obtain ⟨header', caps', budgets', reservations', meters', headerOk', capsOk', budgetsOk',
    reservationsOk', metersOk', same⟩ := encodeIn_eq_ok encoded'
  obtain rfl := Except.ok.inj (headerOk.symm.trans headerOk')
  obtain rfl := Except.ok.inj (capsOk.symm.trans capsOk')
  rw [g.reservations.byId_eq_of_perm order.ofReservations order'.ofReservations] at reservationsOk
  obtain rfl := Except.ok.inj (reservationsOk.symm.trans reservationsOk')
  have fromBudgets := List.append_cancel_left (List.append_cancel_left same)
  have budgetOrder := order.ofBudgets.trans order'.ofBudgets.symm
  have meterOrder := order.ofMeters.trans order'.ofMeters.symm
  obtain ⟨stored, fromReservations⟩ := section_of_append_eq encodes_budget budgetOrder.length_eq
    budgetsOk budgetsOk' fromBudgets
  have endings : meters ++ [] = meters' ++ [] := by
    rw [List.append_cancel_left fromReservations]
  obtain ⟨storedMeters, _⟩ := section_of_append_eq encodes_meter meterOrder.length_eq metersOk
    metersOk' endings
  constructor
  · have distinct := order'.ofBudgets.map PowerBudget.id |>.nodup_iff.mpr
      (distinct_snapshots g.budgets)
    apply ListOrder.eq_of_perm_of_keys distinct budgetOrder
    have ids := congrArg (List.map PowerBudget.id) stored
    rw [List.map_map, List.map_map] at ids
    exact ids
  · have distinct := order'.ofMeters.map WorkloadMeter.workload |>.nodup_iff.mpr
      g.workloadMeters.distinct
    apply ListOrder.eq_of_perm_of_keys distinct meterOrder
    have workloads := congrArg (List.map Prod.fst) storedMeters
    rw [List.map_map, List.map_map] at workloads
    exact workloads

end Governor

/-! ## All orders -/

/-- A meter is encoded by its workload and its energy. -/
def encodeEnergy (e : WorkloadId × Joules) : Except Fault Bytes :=
  concat [.ok (BinWriter.u64 e.1.raw), BinWriter.f64 e.2.value]

namespace SameLogicalState

variable {left right : Governor}

theorem budgetOrders (same : SameLogicalState left right) :
    left.budgets.snapshots.Perm right.budgets.snapshots :=
  ListOrder.perm_of_mem_iff (distinct_snapshots _) (distinct_snapshots _) same.budgets

theorem reservationOrders (same : SameLogicalState left right) :
    left.reservations.map.entries.Perm right.reservations.map.entries :=
  ListOrder.perm_of_mem_iff left.reservations.map.distinct right.reservations.map.distinct
    same.reservations

theorem energyOrders (same : SameLogicalState left right) :
    (left.workloadMeters.entries.map WorkloadMeter.energy).Perm
      (right.workloadMeters.entries.map WorkloadMeter.energy) :=
  ListOrder.perm_of_mem_iff (distinct_energies _) (distinct_energies _) same.energies

/-- With at most one budget and one meter the bytes are the same. -/
theorem encodeIn_eq (same : SameLogicalState left right)
    (oneBudget : right.budgets.snapshots.length ≤ 1)
    (oneMeter : right.workloadMeters.entries.length ≤ 1) (order : IterationOrder left)
    (order' : IterationOrder right) : left.encodeIn order = right.encodeIn order' := by
  have header : encodeHeader left = encodeHeader right := by
    unfold encodeHeader
    rw [same.cfg, same.policy]
  have budgets : order.budgets = order'.budgets := by
    rw [ListOrder.eq_of_perm order'.ofBudgets oneBudget]
    exact ListOrder.eq_of_perm (order.ofBudgets.trans same.budgetOrders) oneBudget
  have reservations : ReservationManager.byId order.reservations =
      ReservationManager.byId order'.reservations :=
    right.reservations.byId_eq_of_perm (order.ofReservations.trans same.reservationOrders)
      order'.ofReservations
  have energies :
      order.meters.map WorkloadMeter.energy = order'.meters.map WorkloadMeter.energy := by
    have single : (right.workloadMeters.entries.map WorkloadMeter.energy).length ≤ 1 := by
      rw [List.length_map]
      exact oneMeter
    rw [ListOrder.eq_of_perm (order'.ofMeters.map _) single]
    exact ListOrder.eq_of_perm ((order.ofMeters.map _).trans same.energyOrders) single
  have one : ∀ m : WorkloadMeter, encodeEnergy m.energy = encodeMeter m := fun _ => rfl
  have byEnergy : ∀ meters : List WorkloadMeter, encodeSection encodeMeter meters =
      encodeSection encodeEnergy (meters.map WorkloadMeter.energy) :=
    fun meters => (encodeSection_map fun m _ => one m).symm
  unfold Governor.encodeIn
  rw [header, same.policy, budgets, reservations, byEnergy, energies, ← byEnergy]

end SameLogicalState

namespace Governor

/-- Equal logical states have the same bytes and the same digest in all iteration orders exactly
when there is at most one budget and at most one workload meter. -/
theorem encoding_canonical_iff {left right : Governor} (same : SameLogicalState left right)
    {blob : Bytes} (encoded : left.encodeState = .ok blob) :
    (∀ (order : IterationOrder left) (order' : IterationOrder right),
        left.encodeIn order = right.encodeIn order' ∧
          left.digestIn order = right.digestIn order') ↔
      left.budgets.snapshots.length ≤ 1 ∧ left.workloadMeters.entries.length ≤ 1 := by
  constructor
  · intro canonical
    have all : ∀ order : IterationOrder left, left.encodeIn order = .ok blob := by
      intro order
      calc left.encodeIn order = right.encodeIn right.inserted := (canonical order _).1
        _ = left.encodeIn left.inserted := (canonical left.inserted _).1.symm
        _ = .ok blob := encoded
    constructor
    · apply (ListOrder.forall_perm_eq_iff (distinct_snapshots left.budgets).of_map).mp
      intro budgets perm
      exact (order_of_encodeIn (all { left.inserted with budgets := budgets, ofBudgets := perm })
        (all left.inserted)).1
    · apply (ListOrder.forall_perm_eq_iff left.workloadMeters.distinct.of_map).mp
      intro meters perm
      exact (order_of_encodeIn (all { left.inserted with meters := meters, ofMeters := perm })
        (all left.inserted)).2
  · rintro ⟨oneBudget, oneMeter⟩ order order'
    rw [same.budgetOrders.length_eq] at oneBudget
    have meters := same.energyOrders.length_eq
    rw [List.length_map, List.length_map] at meters
    rw [meters] at oneMeter
    have bytes := same.encodeIn_eq oneBudget oneMeter order order'
    exact ⟨bytes, congrArg (Except.map digestHex) bytes⟩

/-- The budgets 1 and 2, in this order or the other. -/
def twoBudgets (first second : UInt64) : Governor :=
  (GovernorCall.installBudget { PowerBudget.blank with id := ⟨second⟩ }).after
    (afterInstall { PowerBudget.blank with id := ⟨first⟩ })

theorem reachable_twoBudgets (first second : UInt64) :
    governorRuns.Reachable (twoBudgets first second, ⟨none, none⟩) := by
  have start : governorRuns.Reachable (firstGovernor, ⟨none, none⟩) := .start ⟨_, _, rfl⟩
  exact reachable_foldl start [.installBudget { PowerBudget.blank with id := ⟨first⟩ },
    .installBudget { PowerBudget.blank with id := ⟨second⟩ }]

/-- One budget is encoded in one way. -/
theorem encoding_canonical_iff_one : ∃ blob, rootGovernor.encodeState = .ok blob ∧
    ∀ order order' : IterationOrder rootGovernor,
      rootGovernor.encodeIn order = rootGovernor.encodeIn order' ∧
        rootGovernor.digestIn order = rootGovernor.digestIn order' := by
  have same : SameLogicalState rootGovernor rootGovernor :=
    ⟨rfl, rfl, fun _ => Iff.rfl, fun _ => Iff.rfl, fun _ => Iff.rfl⟩
  have encodes : rootGovernor.encodeState.isOk = true := by decide +kernel
  cases encoded : rootGovernor.encodeState with
  | error fault =>
      rw [encoded] at encodes
      cases encodes
  | ok blob =>
      exact ⟨blob, rfl, (encoding_canonical_iff same encoded).mpr (by decide +kernel)⟩

/-- Two budgets are written in the order in which they were installed. -/
theorem encoding_follows_insertion :
    ¬ ∀ (left right : Governor) (seen seen' : Telemetry), governorRuns.Reachable (left, seen) →
      governorRuns.Reachable (right, seen') → SameLogicalState left right →
        ∀ (order : IterationOrder left) (order' : IterationOrder right),
          left.encodeIn order = right.encodeIn order' ∧
            left.digestIn order = right.digestIn order' := by
  intro canonical
  have same : SameLogicalState (twoBudgets 1 2) (twoBudgets 2 1) := by
    refine ⟨rfl, rfl, ?_, fun _ => Iff.rfl, fun _ => Iff.rfl⟩
    have swapped : (twoBudgets 1 2).budgets.snapshots.Perm (twoBudgets 2 1).budgets.snapshots :=
      List.Perm.swap _ _ []
    exact fun _ => swapped.mem_iff
  have equal := (canonical _ _ _ _ (reachable_twoBudgets 1 2) (reachable_twoBudgets 2 1) same
    (twoBudgets 1 2).inserted (twoBudgets 2 1).inserted).1
  rw [encodeIn_inserted, encodeIn_inserted] at equal
  exact absurd equal (by decide +kernel)

end Governor

end PowerGovernor
