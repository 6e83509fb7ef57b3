import PowerGovernor.Json
import PowerGovernor.Persistence.Reload
import PowerGovernor.Persistence.Replay

/-!
The digest of the persisted state.

Owns `state_digest`, what a Governor encodes after it has loaded a saved file, and the
condition under which the digest survives: the epoch and the boot of the header are
those of the configuration, which a recovery does not restore, and an amount that loses
a thousandth each time it is stored is encoded differently.
-/

set_option autoImplicit false

namespace PowerGovernor

/-- `state_digest`. -/
def Governor.stateDigest (g : Governor) : Except Fault Bytes := do
  let b ← g.encodeState
  return digestHex b

/-! ## The hash -/

/-- A step of FNV-1a can be undone: the prime is odd. -/
theorem fnv_step_injective (c : UInt8) :
    Function.Injective fun h : UInt64 => (h ^^^ c.toUInt64) * 1099511628211 := by
  intro left right same
  have undo : ∀ h : UInt64, h * 1099511628211 * 14886173955864302971 = h := by
    intro h
    rw [UInt64.mul_assoc]
    exact UInt64.mul_one h
  have plain : left ^^^ c.toUInt64 = right ^^^ c.toUInt64 := by
    rw [← undo (left ^^^ c.toUInt64), ← undo (right ^^^ c.toUInt64)]
    exact congrArg (· * 14886173955864302971) same
  exact (UInt64.xor_left_inj _).mp plain

/-- Texts with a common end hash alike exactly when their beginnings do. -/
theorem fnv1a64_append_iff (left right suffix : Bytes) :
    fnv1a64 (left ++ suffix) = fnv1a64 (right ++ suffix) ↔ fnv1a64 left = fnv1a64 right := by
  have fold : ∀ l r : UInt64,
      suffix.foldl (fun h c => (h ^^^ c.toUInt64) * 1099511628211) l =
        suffix.foldl (fun h c => (h ^^^ c.toUInt64) * 1099511628211) r ↔ l = r := by
    induction suffix with
    | nil => exact fun _ _ => Iff.rfl
    | cons c rest inductionHypothesis =>
        intro l r
        rw [List.foldl_cons, List.foldl_cons, inductionHypothesis]
        exact (fnv_step_injective c).eq_iff
  unfold fnv1a64
  rw [List.foldl_append, List.foldl_append, fold]

theorem hexDigit_injective : ∀ a < 16, ∀ b < 16, hexDigit a = hexDigit b → a = b := by decide

/-- A bit is one of its digit. -/
theorem testBit_hexDigit (n j : Nat) :
    n.testBit j = (n >>> (4 * (j / 4)) % 16).testBit (j % 4) := by
  have inside : j % 4 < 4 := Nat.mod_lt j (by decide)
  rw [show 16 = 2 ^ 4 from rfl, Nat.testBit_mod_two_pow, Nat.testBit_shiftRight,
    Nat.div_add_mod j 4, decide_eq_true inside, Bool.true_and]

/-- The sixteen digits determine the value. -/
theorem toHex_injective : Function.Injective toHex := by
  intro v w same
  have digits : ∀ k < 16, v.toNat >>> (4 * k) % 16 = w.toNat >>> (4 * k) % 16 := by
    intro k bound
    have digit := List.map_inj_left.mp same (15 - k) (List.mem_range.mpr (by omega))
    have back : 15 - (15 - k) = k := by omega
    rw [back] at digit
    exact hexDigit_injective _ (Nat.mod_lt _ (by decide)) _ (Nat.mod_lt _ (by decide)) digit
  have above : ∀ (u : UInt64) (j : Nat), ¬ j < 64 → u.toNat.testBit j = false := by
    intro u j outside
    apply Nat.testBit_lt_two_pow
    calc u.toNat < 2 ^ 64 := u.toNat_lt
      _ ≤ 2 ^ j := Nat.pow_le_pow_right (by decide) (not_lt.mp outside)
  apply UInt64.toNat_inj.mp
  apply Nat.eq_of_testBit_eq
  intro j
  by_cases inside : j < 64
  · rw [testBit_hexDigit v.toNat, testBit_hexDigit w.toNat, digits (j / 4) (by omega)]
  · rw [above v j inside, above w j inside]

theorem digestHex_append_iff (left right suffix : Bytes) :
    digestHex (left ++ suffix) = digestHex (right ++ suffix) ↔ fnv1a64 left = fnv1a64 right :=
  toHex_injective.eq_iff.trans (fnv1a64_append_iff left right suffix)

/-! ## Encoding what was read back -/

/-- The thousandths that are written of a value are written again of what is read back. -/
def KeepsThousandths (v : ℚ) : Prop := toMilli (ofMilli (toMilli v)) = toMilli v

instance (v : ℚ) : Decidable (KeepsThousandths v) := inferInstanceAs (Decidable (_ = _))

theorem f64_truncated {v : ℚ} (keeps : KeepsThousandths v) :
    BinWriter.f64 (ofMilli (toMilli v)) = BinWriter.f64 v := by
  unfold BinWriter.f64
  rw [keeps]

/-- All amounts of the encoding keep their thousandths. -/
structure Governor.Reencodes (g : Governor) : Prop where
  caps : ∀ cap ∈ [g.policy.fleetHardCap, g.policy.nodeHardCap, g.policy.deviceHardCap,
    g.policy.softTarget], ∀ power ∈ cap, KeepsThousandths power.value
  budgets : ∀ b ∈ g.budgets.snapshots, ∀ power ∈ [b.hardMax, b.softTarget, b.minReserve,
    b.burstAllowance], KeepsThousandths power.value
  reservations : ∀ r ∈ g.reservations.map.entries,
    KeepsThousandths r.requestedPower.value ∧ KeepsThousandths r.requestedEnergy.value ∧
      KeepsThousandths r.reservedPower.value ∧ KeepsThousandths r.energyUsed.value
  meters : ∀ m ∈ g.workloadMeters.entries, KeepsThousandths m.meter.total.value

theorem encodeCap_stored {cap : Option Watts}
    (keeps : ∀ power ∈ cap, KeepsThousandths power.value) :
    encodeCap (cap.map Watts.truncated) = encodeCap cap := by
  cases cap with
  | none => rfl
  | some cap =>
      show concat [.ok (BinWriter.bool true), BinWriter.f64 cap.truncated.value] = _
      rw [Watts.truncated_value, f64_truncated (keeps cap rfl)]
      rfl

theorem parentRaw_stored (b : PowerBudget) : parentRaw b.stored = parentRaw b := by
  show (if (⟨parentRaw b⟩ : BudgetId).isValid then parentRaw b else 0) = parentRaw b
  split
  · rfl
  · rename_i null
    have zero : parentRaw b = 0 := by simpa [StrongId.isValid] using null
    exact zero.symm

theorem encodeBudget_stored {b : PowerBudget} (keeps : ∀ power ∈ [b.hardMax, b.softTarget,
    b.minReserve, b.burstAllowance], KeepsThousandths power.value) :
    encodeBudget b.stored = encodeBudget b := by
  have hardMax := f64_truncated (keeps b.hardMax (by simp))
  have softTarget := f64_truncated (keeps b.softTarget (by simp))
  have minReserve := f64_truncated (keeps b.minReserve (by simp))
  have burstAllowance := f64_truncated (keeps b.burstAllowance (by simp))
  unfold encodeBudget
  rw [parentRaw_stored]
  unfold PowerBudget.stored
  simp only [Watts.truncated_value, hardMax, softTarget, minReserve, burstAllowance]

theorem encodeReservation_stored {r : Reservation}
    (keeps : KeepsThousandths r.requestedPower.value ∧ KeepsThousandths r.requestedEnergy.value ∧
      KeepsThousandths r.reservedPower.value ∧ KeepsThousandths r.energyUsed.value) :
    encodeReservation r.stored = encodeReservation r := by
  obtain ⟨requestedPower, requestedEnergy, reservedPower, energyUsed⟩ := keeps
  unfold encodeReservation Reservation.stored
  simp only [Watts.truncated_value, Joules.truncated_value, f64_truncated requestedPower,
    f64_truncated requestedEnergy, f64_truncated reservedPower, f64_truncated energyUsed]

/-- A total that could be written is read back as a finite double. -/
theorem exact_truncated_of_save {g : Governor} {bytes : Bytes} (saved : g.save = .ok bytes)
    {m : WorkloadMeter} (member : m ∈ g.workloadMeters.entries) :
    Binary64.Exact m.meter.total.truncated.value := by
  obtain ⟨blob, encoded, _⟩ := bind_eq_ok.mp saved
  obtain ⟨_, meters⟩ := ok_of_mem_concat encoded
    (encodeSection encodeMeter g.workloadMeters.entries) (by simp)
  obtain ⟨_, records⟩ := ok_of_mem_concat meters
    (concat (g.workloadMeters.entries.map encodeMeter)) (by simp)
  obtain ⟨_, record⟩ := ok_of_mem_concat records _ (List.mem_map_of_mem member)
  obtain ⟨_, written⟩ := ok_of_mem_concat record (BinWriter.f64 m.meter.total.value) (by simp)
  unfold BinWriter.f64 at written
  split at written
  · rename_i fits
    exact exact_ofMilli fits.1 fits.2
  · cases written

theorem total_restoredMeter (now : Timestamp) {m : WorkloadMeter}
    (exact : Binary64.Exact m.meter.total.truncated.value) :
    (restoredMeter now m.stored).meter.total = m.meter.total.truncated := by
  show Joules.clampedDouble (0 + m.meter.total.truncated.value) = _
  rw [zero_add, Joules.clampedDouble_of_exact exact]
  exact Quantity.ext (max_eq_right m.meter.total.truncated.nonneg)

/-- What a recovery makes of a meter is encoded as before. -/
theorem encodeMeter_restored (now : Timestamp) {m : WorkloadMeter}
    (exact : Binary64.Exact m.meter.total.truncated.value)
    (keeps : KeepsThousandths m.meter.total.value) :
    encodeMeter (restoredMeter now m.stored) = encodeMeter m := by
  unfold encodeMeter
  rw [total_restoredMeter now exact, Joules.truncated_value, f64_truncated keeps]
  rfl

theorem encodeSection_map {α β : Type} {encode : α → Except Fault Bytes}
    {encode' : β → Except Fault Bytes} {f : β → α} {items : List β}
    (same : ∀ b ∈ items, encode (f b) = encode' b) :
    encodeSection encode (items.map f) = encodeSection encode' items := by
  unfold encodeSection
  rw [List.length_map, List.map_map]
  exact congrArg (fun chunks => concat [_, concat chunks]) (List.map_congr_left same)

/-! ## The sections of a recovered Governor -/

theorem entries_storedReservations (g : Governor) :
    g.storedReservations.reservations.map.entries = g.reservations.all.map Reservation.stored := by
  unfold Governor.storedReservations
  rw [Governor.reservations_foldl_add, Keyed.entries_foldl_emplace g.fresh_stored]
  rfl

theorem pairwise_all (rm : ReservationManager) :
    rm.all.Pairwise fun a b => a.id.raw ≤ b.id.raw := by
  have total : Std.Total fun a b : Reservation => a.id.raw ≤ b.id.raw :=
    ⟨fun a b => UInt64.le_total a.id.raw b.id.raw⟩
  have transitive : IsTrans Reservation fun a b => a.id.raw ≤ b.id.raw :=
    ⟨fun _ _ _ => UInt64.le_trans⟩
  exact List.pairwise_insertionSort _ _

/-- The recovered reservations are in order already. -/
theorem all_storedReservations (g : Governor) :
    g.storedReservations.reservations.all = g.reservations.all.map Reservation.stored := by
  unfold ReservationManager.all
  rw [entries_storedReservations]
  apply List.Pairwise.insertionSort_eq
  exact List.pairwise_map.mpr (pairwise_all g.reservations)

theorem snapshots_storedReservations (g : Governor) :
    g.storedReservations.budgets.snapshots = g.budgets.snapshots.map PowerBudget.stored := by
  rw [Governor.budgets_storedReservations, ← List.foldl_map,
    BudgetManager.snapshots_foldl_reclaim]
  exact g.snapshots_storedBudgets

theorem entries_storedMeters (g : Governor) (now : Timestamp) :
    (g.storedMeters now).entries =
      g.workloadMeters.entries.map fun m => restoredMeter now m.stored := by
  have fresh : (Keyed.empty : Keyed WorkloadMeter.workload).Fresh
      (g.workloadMeters.entries.map fun m => restoredMeter now m.stored) := by
    apply Keyed.fresh_empty
    rw [List.map_map]
    exact g.workloadMeters.distinct
  unfold Governor.storedMeters
  rw [List.foldl_map, ← List.foldl_map, Keyed.entries_foldl_assign fresh]
  rfl

/-! ## The recovered state -/

/-- The bytes of the epoch and the boot, with which every encoding starts. -/
def GovernorConfig.identity (cfg : GovernorConfig) : Bytes :=
  BinWriter.u64 cfg.epoch.raw ++ BinWriter.u64 cfg.boot.raw

theorem concat_prepend (start : Bytes) (chunk : Except Fault Bytes)
    (chunks : List (Except Fault Bytes)) :
    concat (chunk.map (start ++ ·) :: chunks) = (concat (chunk :: chunks)).map (start ++ ·) := by
  cases chunk with
  | error fault => rfl
  | ok bytes =>
      show concat (.ok (start ++ bytes) :: chunks) = _
      unfold concat
      cases concat chunks with
      | error fault => rfl
      | ok rest => exact congrArg Except.ok (List.append_assoc start bytes rest)

namespace Governor

/-- What is encoded after the epoch and the boot. -/
def encodeRest (g : Governor) : Except Fault Bytes :=
  concat [concat [.ok (BinWriter.u64 g.cfg.node.raw), .ok (BinWriter.u64 g.policy.generation.raw),
      BinWriter.str g.policy.name], encodeCaps g.policy,
    encodeSection encodeBudget g.budgets.snapshots,
    encodeSection encodeReservation g.reservations.all,
    encodeSection encodeMeter g.workloadMeters.entries]

theorem encodeState_eq (g : Governor) :
    g.encodeState = g.encodeRest.map (g.cfg.identity ++ ·) := by
  have header : encodeHeader g = (concat [.ok (BinWriter.u64 g.cfg.node.raw),
      .ok (BinWriter.u64 g.policy.generation.raw), BinWriter.str g.policy.name]).map
        (g.cfg.identity ++ ·) := by
    unfold encodeHeader GovernorConfig.identity
    cases BinWriter.str g.policy.name with
    | error fault => rfl
    | ok name => exact congrArg Except.ok (List.append_assoc _ _ _).symm
  unfold encodeState encodeRest
  rw [header, concat_prepend]

variable {g : Governor}

/-- A recovered Governor encodes all but the epoch and the boot as the saved one. -/
theorem encodeRest_reloaded {bytes : Bytes} (saved : g.save = .ok bytes) (reencodes : g.Reencodes)
    (g₀ : Governor) (now : Timestamp) : (reloaded g₀ g now).encodeRest = g.encodeRest := by
  have caps : encodeCaps (reloaded g₀ g now).policy = encodeCaps g.policy := by
    show concat [encodeCap (g.policy.fleetHardCap.map _), encodeCap (g.policy.nodeHardCap.map _),
      encodeCap (g.policy.deviceHardCap.map _), encodeCap (g.policy.softTarget.map _)] = _
    have keeps := reencodes.caps
    simp only [List.forall_mem_cons] at keeps
    obtain ⟨fleet, node, device, soft, _⟩ := keeps
    rw [encodeCap_stored fleet, encodeCap_stored node, encodeCap_stored device,
      encodeCap_stored soft]
    rfl
  have budgets : encodeSection encodeBudget (reloaded g₀ g now).budgets.snapshots =
      encodeSection encodeBudget g.budgets.snapshots := by
    show encodeSection encodeBudget g.storedReservations.budgets.snapshots = _
    rw [snapshots_storedReservations]
    exact encodeSection_map fun b member => encodeBudget_stored (reencodes.budgets b member)
  have reservations : encodeSection encodeReservation (reloaded g₀ g now).reservations.all =
      encodeSection encodeReservation g.reservations.all := by
    show encodeSection encodeReservation g.storedReservations.reservations.all = _
    rw [all_storedReservations]
    refine encodeSection_map fun r member => encodeReservation_stored ?_
    exact reencodes.reservations r ((List.mem_insertionSort _).mp member)
  have meters : encodeSection encodeMeter (reloaded g₀ g now).workloadMeters.entries =
      encodeSection encodeMeter g.workloadMeters.entries := by
    show encodeSection encodeMeter (g.storedMeters now).entries = _
    rw [entries_storedMeters]
    refine encodeSection_map fun m member => encodeMeter_restored now ?_ (reencodes.meters m member)
    exact exact_truncated_of_save saved member
  unfold encodeRest
  rw [caps, budgets, reservations, meters]
  rfl

/-- Only what is hashed first can differ between a saved state and the loaded one. -/
theorem digests_of_loaded {bytes : Bytes} (saved : g.save = .ok bytes) (reencodes : g.Reencodes)
    {cfg : GovernorConfig}
    {ids : Allocators} {now : Timestamp} {g₂ : Governor}
    (loaded : (construct cfg ids).load (some bytes) now = (.ok true, g₂)) :
    ∃ rest, g.stateDigest = .ok (digestHex (g.cfg.identity ++ rest)) ∧
      g₂.stateDigest = .ok (digestHex (cfg.identity ++ rest)) := by
  have recovered := eq_reloaded saved loaded
  obtain ⟨blob, encoded, _⟩ := bind_eq_ok.mp saved
  rw [encodeState_eq] at encoded
  cases remaining : g.encodeRest with
  | error fault =>
      rw [remaining] at encoded
      cases encoded
  | ok rest =>
      refine ⟨rest, ?_, ?_⟩
      · unfold stateDigest
        rw [encodeState_eq, remaining]
        rfl
      · unfold stateDigest
        rw [recovered, encodeState_eq, encodeRest_reloaded saved reencodes, remaining]
        rfl

/-- The digest of a saved state of which every amount keeps its thousandths survives the load
into a fresh Governor exactly when the configured epochs and boots hash alike. -/
theorem digest_survives_iff {bytes : Bytes} (saved : g.save = .ok bytes) (reencodes : g.Reencodes)
    {cfg : GovernorConfig}
    {ids : Allocators} {now : Timestamp} {g₂ : Governor}
    (loaded : (construct cfg ids).load (some bytes) now = (.ok true, g₂)) :
    g₂.stateDigest = g.stateDigest ↔ fnv1a64 cfg.identity = fnv1a64 g.cfg.identity := by
  obtain ⟨rest, before, after⟩ := digests_of_loaded saved reencodes loaded
  rw [before, after, Except.ok.injEq, digestHex_append_iff]

/-- A Governor with one budget, which has no parent. -/
def rootGovernor : Governor := afterInstall { orphanBudget with parent := none }

theorem rootGovernor_reencodes : rootGovernor.Reencodes := by
  constructor <;> decide +kernel

theorem rootGovernor_loads (epoch : CoordinatorEpoch) : ∃ bytes g₂,
    rootGovernor.save = .ok bytes ∧
      (construct ⟨⟨1⟩, ⟨1⟩, epoch⟩ .start).load (some bytes) Timestamp.zero = (.ok true, g₂) := by
  have loadable : rootGovernor.Loadable := by
    constructor <;> decide +kernel
  exact loads_of_loadable loadable (by decide +kernel) ⟨⟨1⟩, ⟨1⟩, epoch⟩ .start Timestamp.zero

/-- Under the same epoch and boot the digest is the same. -/
theorem digest_survives_iff_same : ∃ bytes g₂, rootGovernor.save = .ok bytes ∧
    firstGovernor.load (some bytes) Timestamp.zero = (.ok true, g₂) ∧
      g₂.stateDigest = rootGovernor.stateDigest := by
  obtain ⟨bytes, g₂, saved, loaded⟩ := rootGovernor_loads .first
  exact ⟨bytes, g₂, saved, loaded,
    (digest_survives_iff saved rootGovernor_reencodes loaded).mpr rfl⟩

/-- Under epoch 2 it is another one. -/
theorem digest_changes :
    ¬ ∀ (g : Governor) (seen : Telemetry) (bytes : Bytes) (cfg : GovernorConfig)
      (ids : Allocators) (now : Timestamp) (g₂ : Governor), governorRuns.Reachable (g, seen) →
      g.save = .ok bytes → (construct cfg ids).load (some bytes) now = (.ok true, g₂) →
        g₂.stateDigest = g.stateDigest := by
  intro survives
  obtain ⟨bytes, g₂, saved, loaded⟩ := rootGovernor_loads ⟨2⟩
  have reached : governorRuns.Reachable (rootGovernor, ⟨none, none⟩) := reachable_afterInstall _
  have same := survives _ _ bytes _ _ _ g₂ reached saved loaded
  obtain ⟨rest, before, after⟩ := digests_of_loaded saved rootGovernor_reencodes loaded
  rw [before, after, Except.ok.injEq, digestHex_append_iff] at same
  exact absurd same (by decide +kernel)

end Governor

end PowerGovernor
