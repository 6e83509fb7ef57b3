import PowerGovernor.Persistence.StateCodec

/-!
What the decoder reads back of a saved state.

Owns the record each encoded header, cap, budget, reservation and meter decodes
to, with the round trip of its encoder, and the bound on the number of records a
blob can hold. Fields that are not stored come back as their defaults, a missing
parent as the null id and every amount truncated to thousandths.
-/

set_option autoImplicit false

namespace PowerGovernor

/-! ## Readers that consume nothing -/

theorem BinReader.construct_of_ok {α : Type} {result : Except Fault α} {a : α}
    (constructed : result = .ok a) : BinReader.construct result = pure a := by
  rw [constructed]
  rfl

theorem BinReader.rejectIf_of_not {condition : Prop} [Decidable condition]
    (passes : ¬ condition) : BinReader.rejectIf condition = pure () := if_neg passes

theorem BinReader.enumerator_of_some {α : Type} {enumerator? : Option α} {value : α}
    (known : enumerator? = some value) : BinReader.enumerator enumerator? = pure value := by
  rw [known]
  rfl

theorem Watts.construct_truncated (power : Watts) :
    Quantity.construct (ofMilli (toMilli power.value)) = .ok power.truncated :=
  Quantity.construct_eq_ok.mpr rfl

theorem Joules.construct_truncated (energy : Joules) :
    Quantity.construct (ofMilli (toMilli energy.value)) = .ok energy.truncated :=
  Quantity.construct_eq_ok.mpr rfl

theorem Watts.not_truncated_neg (power : Watts) : ¬ ofMilli (toMilli power.value) < 0 :=
  not_lt.mpr power.truncated.nonneg

theorem Joules.not_truncated_neg (energy : Joules) : ¬ ofMilli (toMilli energy.value) < 0 :=
  not_lt.mpr energy.truncated.nonneg

/-- A duration fits the stored integer. -/
theorem Duration.construct_stored (duration : Duration) :
    Duration.construct (Int64.ofInt duration.ns).toInt = .ok duration := by
  have lower := duration.nonneg
  have upper := duration.bounded
  unfold kMaxNs at upper
  apply Duration.construct_eq_ok.mpr
  exact (Int64.toInt_ofInt_of_le (by omega) (by omega)).symm

theorem Timestamp.ofInt64_stored (time : Timestamp) :
    Timestamp.ofInt64 (Int64.ofInt time.ns) = time := by
  have lower := time.lower
  have upper := time.upper
  apply Timestamp.ext
  exact Int64.toInt_ofInt_of_le (by omega) (by omega)

/-! ## Records -/

/-- The header that is read back. -/
def storedHeader (g : Governor) : StateHeader :=
  ⟨g.cfg.epoch, g.cfg.boot, g.cfg.node, g.policy.generation, g.policy.name⟩

theorem encodes_header (g : Governor) :
    Encodes (encodeHeader g) decodeHeader (storedHeader g) := by
  unfold encodeHeader decodeHeader
  apply Encodes.cons (.of_carries (carries_u64 _))
  apply Encodes.cons (.of_carries (carries_u64 _))
  apply Encodes.cons (.of_carries (carries_u64 _))
  apply Encodes.cons (.of_carries (carries_u64 _))
  apply Encodes.cons (encodes_str _)
  exact Encodes.nil fun _ => rfl

theorem encodes_cap (cap : Option Watts) :
    Encodes (encodeCap cap) decodeCap (cap.map Watts.truncated) := by
  unfold decodeCap
  cases cap with
  | none =>
      unfold encodeCap
      apply Encodes.cons (.of_carries (carries_bool false))
      exact Encodes.nil fun _ => rfl
  | some cap =>
      unfold encodeCap
      apply Encodes.cons (.of_carries (carries_bool true))
      apply Encodes.cons (encodes_f64 _)
      apply Encodes.skip (BinReader.construct_of_ok cap.construct_truncated)
      exact Encodes.nil fun _ => rfl

/-- The policy that is read back with the given id. -/
def storedPolicy (g : Governor) (id : PolicyId) : PowerPolicy :=
  { PowerPolicy.defaults id g.policy.name with
    generation := g.policy.generation
    fleetHardCap := g.policy.fleetHardCap.map Watts.truncated
    nodeHardCap := g.policy.nodeHardCap.map Watts.truncated
    deviceHardCap := g.policy.deviceHardCap.map Watts.truncated
    softTarget := g.policy.softTarget.map Watts.truncated }

theorem encodes_caps (g : Governor) (id : PolicyId) :
    Encodes (encodeCaps g.policy) (decodePolicy id (storedHeader g)) (storedPolicy g id) := by
  unfold encodeCaps decodePolicy
  apply Encodes.cons (encodes_cap _)
  apply Encodes.cons (encodes_cap _)
  apply Encodes.cons (encodes_cap _)
  apply Encodes.cons (encodes_cap _)
  exact Encodes.nil fun _ => rfl

/-- The budget that is read back; the policy generation is not stored. -/
def PowerBudget.stored (b : PowerBudget) : PowerBudget :=
  { b with
    policyGeneration := .null
    parent := some ⟨parentRaw b⟩
    hardMax := b.hardMax.truncated
    softTarget := b.softTarget.truncated
    minReserve := b.minReserve.truncated
    burstAllowance := b.burstAllowance.truncated }

/-- The stored parent climbs as the original. -/
theorem PowerBudget.filter_stored_parent (b : PowerBudget) :
    b.stored.parent.filter StrongId.isValid = b.parent.filter StrongId.isValid := by
  show (some (⟨parentRaw b⟩ : BudgetId)).filter StrongId.isValid = _
  unfold parentRaw
  cases b.parent with
  | none => rfl
  | some parent =>
      dsimp only
      cases valid : parent.isValid with
      | false =>
          rw [if_neg Bool.false_ne_true, Option.filter_some, Option.filter_some, valid]
          rfl
      | true => rw [if_pos rfl]

theorem encodes_budget (b : PowerBudget) : Encodes (encodeBudget b) decodeBudget b.stored := by
  unfold encodeBudget decodeBudget
  apply Encodes.cons (.of_carries (carries_u64 _))
  apply Encodes.cons (.of_carries (carries_u64 _))
  apply Encodes.cons (.of_carries (carries_u64 _))
  apply Encodes.cons (.of_carries (carries_u64 _))
  apply Encodes.cons (encodes_str _)
  apply Encodes.cons (encodes_f64 _)
  apply Encodes.cons (encodes_f64 _)
  apply Encodes.cons (encodes_f64 _)
  apply Encodes.cons (encodes_f64 _)
  apply Encodes.cons (.of_carries (carries_i64 _))
  apply Encodes.cons (.of_carries (carries_i64 _))
  apply Encodes.cons (.of_carries (carries_i32 _))
  apply Encodes.cons (.of_carries (carries_bool _))
  have nonneg : ¬ (ofMilli (toMilli b.hardMax.value) < 0 ∨
      ofMilli (toMilli b.softTarget.value) < 0 ∨ ofMilli (toMilli b.minReserve.value) < 0 ∨
      ofMilli (toMilli b.burstAllowance.value) < 0) := by
    simp only [Watts.not_truncated_neg, or_self, not_false_eq_true]
  apply Encodes.skip (BinReader.rejectIf_of_not nonneg)
  apply Encodes.skip (BinReader.construct_of_ok b.hardMax.construct_truncated)
  apply Encodes.skip (BinReader.construct_of_ok b.softTarget.construct_truncated)
  apply Encodes.skip (BinReader.construct_of_ok b.minReserve.construct_truncated)
  apply Encodes.skip (BinReader.construct_of_ok b.burstAllowance.construct_truncated)
  apply Encodes.skip (BinReader.construct_of_ok b.burstWindow.construct_stored)
  apply Encodes.skip (BinReader.construct_of_ok b.recovery.construct_stored)
  exact Encodes.nil fun _ => rfl

/-- The reservation that is read back, with the fields that are not stored at
their defaults. -/
def Reservation.stored (r : Reservation) : Reservation :=
  { Reservation.blank with
    id := r.id
    budget := r.budget
    workload := r.workload
    powerClass := r.powerClass
    requestedPower := r.requestedPower.truncated
    requestedEnergy := r.requestedEnergy.truncated
    policyGeneration := r.policyGeneration
    deviceGeneration := r.deviceGeneration
    budgetGeneration := r.budgetGeneration
    authority := { AuthorityEnvelope.blank with
      epoch := r.authority.epoch
      boot := r.authority.boot }
    created := r.created
    validity := r.validity
    state := r.state
    reservedPower := r.reservedPower.truncated
    energyUsed := r.energyUsed.truncated }

theorem encodes_reservation (r : Reservation) :
    Encodes (encodeReservation r) decodeReservation r.stored := by
  unfold encodeReservation decodeReservation
  apply Encodes.cons (.of_carries (carries_u64 _))
  apply Encodes.cons (.of_carries (carries_u64 _))
  apply Encodes.cons (.of_carries (carries_u64 _))
  apply Encodes.cons (.of_carries (carries_u8 _))
  apply Encodes.cons (encodes_f64 _)
  apply Encodes.cons (encodes_f64 _)
  apply Encodes.cons (.of_carries (carries_u64 _))
  apply Encodes.cons (.of_carries (carries_u64 _))
  apply Encodes.cons (.of_carries (carries_u64 _))
  apply Encodes.cons (.of_carries (carries_u64 _))
  apply Encodes.cons (.of_carries (carries_u64 _))
  apply Encodes.cons (.of_carries (carries_i64 _))
  apply Encodes.cons (.of_carries (carries_i64 _))
  apply Encodes.cons (.of_carries (carries_u8 _))
  apply Encodes.cons (encodes_f64 _)
  apply Encodes.cons (encodes_f64 _)
  apply Encodes.skip (BinReader.enumerator_of_some (WorkloadPowerClass.ofByte?_toByte _))
  apply Encodes.skip (BinReader.enumerator_of_some (ReservationState.ofByte?_toByte _))
  have nonneg : ¬ (ofMilli (toMilli r.requestedPower.value) < 0 ∨
      ofMilli (toMilli r.reservedPower.value) < 0 ∨ ofMilli (toMilli r.energyUsed.value) < 0) := by
    simp only [Watts.not_truncated_neg, Joules.not_truncated_neg, or_self, not_false_eq_true]
  apply Encodes.skip (BinReader.rejectIf_of_not nonneg)
  apply Encodes.skip (BinReader.construct_of_ok r.requestedPower.construct_truncated)
  apply Encodes.skip (BinReader.construct_of_ok r.requestedEnergy.construct_truncated)
  apply Encodes.skip (BinReader.construct_of_ok r.validity.construct_stored)
  apply Encodes.skip (BinReader.construct_of_ok r.reservedPower.construct_truncated)
  apply Encodes.skip (BinReader.construct_of_ok r.energyUsed.construct_truncated)
  apply Encodes.nil
  intro _
  rw [Timestamp.ofInt64_stored]
  rfl

/-- The meter record that is read back. -/
def WorkloadMeter.stored (m : WorkloadMeter) : WorkloadId × Joules :=
  (m.workload, m.meter.total.truncated)

theorem encodes_meter (m : WorkloadMeter) : Encodes (encodeMeter m) decodeMeter m.stored := by
  unfold encodeMeter decodeMeter
  apply Encodes.cons (.of_carries (carries_u64 _))
  apply Encodes.cons (encodes_f64 _)
  apply Encodes.skip (BinReader.rejectIf_of_not m.meter.total.not_truncated_neg)
  apply Encodes.skip (BinReader.construct_of_ok m.meter.total.construct_truncated)
  exact Encodes.nil fun _ => rfl

/-! ## Counted sections -/

theorem encodeSection_eq_ok {α : Type} {encode : α → Except Fault Bytes} {items : List α}
    {bytes : Bytes} : encodeSection encode items = .ok bytes ↔
      ∃ records, concat (items.map encode) = .ok records ∧
        bytes = BinWriter.u32 (UInt32.ofNat items.length) ++ records := by
  unfold encodeSection
  rw [concat_cons_eq_ok]
  constructor
  · rintro ⟨count, tail, same, tailOk, rfl⟩
    obtain ⟨records, rest, recordsOk, restOk, rfl⟩ := concat_cons_eq_ok.mp tailOk
    rw [← Except.ok.inj same, ← Except.ok.inj restOk]
    exact ⟨records, recordsOk, by rw [List.append_nil]⟩
  · rintro ⟨records, recordsOk, rfl⟩
    refine ⟨_, records ++ [], rfl, ?_, by rw [List.append_nil]⟩
    exact concat_cons_eq_ok.mpr ⟨records, [], recordsOk, rfl, rfl⟩

theorem run_decodeCount (n : UInt32) (rest : Bytes) :
    decodeCount.run (BinWriter.u32 n ++ rest) =
      if 100000 < n.toNat then .error .rejected else .ok (n.toNat, rest) := by
  have counted : decodeCount.run (BinWriter.u32 n ++ rest) =
      (BinReader.rejectIf (100000 < n.toNat) >>= fun _ => pure n.toNat).run rest := by
    unfold decodeCount
    rw [StateT.run_bind, carries_u32 n rest]
    rfl
  rw [counted]
  by_cases large : 100000 < n.toNat
  · rw [if_pos large, BinReader.rejectIf, if_pos large]
    rfl
  · rw [if_neg large, BinReader.rejectIf_of_not large]
    rfl

/-- A record that starts with a 64-bit word is not empty. -/
theorem concat_u64_ne_nil (word : UInt64) (fields : List (Except Fault Bytes)) :
    concat (.ok (BinWriter.u64 word) :: fields) ≠ .ok [] := by
  intro empty
  obtain ⟨first, rest, same, _, nil⟩ := concat_cons_eq_ok.mp empty
  rw [← Except.ok.inj same] at nil
  have length := congrArg List.length nil
  simp only [List.length_append, BinWriter.u64, LittleEndian.length_encode, List.length_nil]
    at length
  omega

/-- A saved section is applied record by record, unless there are too many. -/
theorem exec_counted {α β S : Type} {encode : β → Except Fault Bytes} {reader : BinReader α}
    {apply : α → Stateful Exit S Unit} {decoded : β → α} {items : List β} {bytes : Bytes}
    {view : Governor → S} {put : S → Governor → Governor} {g : Governor} {s' : S}
    (encodes : ∀ item, Encodes (encode item) reader (decoded item))
    (nonempty : ∀ item, encode item ≠ .ok [])
    (encoded : encodeSection encode items = .ok bytes) (small : bytes.length ≤ persistMax)
    (applied : (ByteReader.applyAll apply (items.map decoded)).exec (view g) = (.ok (), s'))
    (rest : Bytes) :
    (Governor.read decodeCount (bytes ++ rest) >>= fun counted =>
      Stateful.zoom view put (ByteReader.sections reader apply counted.1 counted.2)).exec g =
        if 100000 < items.length then (.error .rejected, g) else (.ok rest, put s' g) := by
  obtain ⟨records, recordsOk, rfl⟩ := encodeSection_eq_ok.mp encoded
  have few : items.length ≤ records.length := by
    have bound :=
      length_le_of_concat (List.forall_mem_map.mpr fun item _ => nonempty item) recordsOk
    rwa [List.length_map] at bound
  have kept : (UInt32.ofNat items.length).toNat = items.length := by
    apply UInt32.toNat_ofNat_of_lt'
    rw [List.length_append] at small
    unfold persistMax at small
    show items.length < 4294967296
    omega
  unfold Governor.read
  rw [List.append_assoc, run_decodeCount, kept]
  by_cases many : 100000 < items.length
  · rw [if_pos many, if_pos many]
    rfl
  · rw [if_neg many, if_neg many, Stateful.exec_bind_of_ok (Stateful.exec_ofExcept _ _),
      Stateful.exec_zoom, ByteReader.exec_sections (fun item _ => encodes item) recordsOk,
      Stateful.exec_bind_of_ok applied]
    rfl

/-! ## The saved blob -/

/-- The sections of a saved state. -/
structure SavedParts (g : Governor) where
  header : Bytes
  caps : Bytes
  budgets : Bytes
  reservations : Bytes
  meters : Bytes
  headerOk : encodeHeader g = .ok header
  capsOk : encodeCaps g.policy = .ok caps
  budgetsOk : encodeSection encodeBudget g.budgets.snapshots = .ok budgets
  reservationsOk : encodeSection encodeReservation g.reservations.all = .ok reservations
  metersOk : encodeSection encodeMeter g.workloadMeters.entries = .ok meters

namespace SavedParts

variable {g : Governor}

def blob (parts : SavedParts g) : Bytes :=
  parts.header ++ (parts.caps ++ (parts.budgets ++ (parts.reservations ++ parts.meters)))

end SavedParts

theorem Governor.encodeState_eq_ok {g : Governor} {blob : Bytes}
    (encoded : g.encodeState = .ok blob) : ∃ parts : SavedParts g, parts.blob = blob := by
  obtain ⟨header, fromCaps, headerOk, fromCapsOk, rfl⟩ := concat_cons_eq_ok.mp encoded
  obtain ⟨caps, fromBudgets, capsOk, fromBudgetsOk, rfl⟩ := concat_cons_eq_ok.mp fromCapsOk
  obtain ⟨budgets, fromReservations, budgetsOk, fromReservationsOk, rfl⟩ :=
    concat_cons_eq_ok.mp fromBudgetsOk
  obtain ⟨reservations, fromMeters, reservationsOk, fromMetersOk, rfl⟩ :=
    concat_cons_eq_ok.mp fromReservationsOk
  obtain ⟨meters, nothing, metersOk, nothingOk, rfl⟩ := concat_cons_eq_ok.mp fromMetersOk
  refine ⟨⟨header, caps, budgets, reservations, meters, headerOk, capsOk, budgetsOk,
    reservationsOk, metersOk⟩, ?_⟩
  rw [← Except.ok.inj nothingOk, List.append_nil]
  rfl

/-- A saved file has a valid envelope around the sections, which are not longer
than an envelope may be. -/
theorem Governor.save_eq_ok {g : Governor} {bytes : Bytes} (saved : g.save = .ok bytes) :
    ∃ parts : SavedParts g, decodeEnvelope bytes = .ok ⟨persistSchema, parts.blob⟩ ∧
      parts.blob.length ≤ persistMax := by
  obtain ⟨blob, encoded, enveloped⟩ := bind_eq_ok.mp saved
  obtain ⟨parts, rfl⟩ := encodeState_eq_ok encoded
  refine ⟨parts, decodeEnvelope_encodeEnvelope enveloped, ?_⟩
  unfold encodeEnvelope at enveloped
  split at enveloped
  · cases enveloped
  · rename_i notLarge
    exact not_lt.mp notLarge

end PowerGovernor
