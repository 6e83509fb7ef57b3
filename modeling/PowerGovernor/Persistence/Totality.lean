import PowerGovernor.Persistence.Acceptance

/-!
Which files a load answers.

Owns the exact condition under which `load` returns `true` or `false`: no
negative cap, no budget duration out of range and no negative requested energy
or validity out of range is reached. The other fields are checked before they
are constructed.
-/

set_option autoImplicit false

namespace PowerGovernor

/-! ## The condition -/

/-- No negative cap is reached. -/
def CapsFit (bytes : Bytes) : Prop :=
  ∀ k < 4, ∀ caps middle, (ByteReader.readAll decodeCap k).run bytes = .ok (caps, middle) →
    ∀ v after, rawCap.run middle = .ok (some v, after) → 0 ≤ v.value

/-- No budget that is reached, after budgets that are installed, passes the sign
check with a duration out of range. -/
def BudgetsFit (m : BudgetManager) (bytes : Bytes) : Prop :=
  ∀ count after, decodeCount.run bytes = .ok (count, after) → ∀ k < count, ∀ bs middle m',
    (ByteReader.readAll decodeBudget k).run after = .ok (bs, middle) →
    m.installAll bs = some m' → ∀ raw rest, rawBudget.run middle = .ok (raw, rest) →
      ¬ raw.Refused → DurationFits raw.bw ∧ DurationFits raw.rec_

/-- No reservation that is reached, after reservations with new ids, passes the
checks with a negative requested energy or a validity out of range. -/
def ReservationsFit (rm : ReservationManager) (bytes : Bytes) : Prop :=
  ∀ count after, decodeCount.run bytes = .ok (count, after) → ∀ k < count, ∀ rs middle,
    (ByteReader.readAll decodeReservation k).run after = .ok (rs, middle) →
    rm.map.Fresh rs → ∀ raw rest, rawReservation.run middle = .ok (raw, rest) →
      (WorkloadPowerClass.ofByte? raw.cls).isSome → (ReservationState.ofByte? raw.state).isSome →
        ¬ raw.Refused → 0 ≤ raw.energy.value ∧ DurationFits raw.validity

namespace Governor

/-- From the budget section on. -/
def FitsFromBudgets (g : Governor) (bytes : Bytes) : Prop :=
  BudgetsFit g.budgets bytes ∧
    ∀ count after bs rest m, decodeCount.run bytes = .ok (count, after) →
      (ByteReader.readAll decodeBudget count).run after = .ok (bs, rest) →
      g.budgets.installAll bs = some m → m.validHierarchy = true →
        ReservationsFit g.reservations rest

/-- Every typed value that decoding the blob reaches can be constructed. -/
def Constructible (g : Governor) (blob : Bytes) : Prop :=
  ∀ header rest, decodeHeader.run blob = .ok (header, rest) →
    CapsFit rest ∧ ∀ caps rest', (ByteReader.readAll decodeCap 4).run rest = .ok (caps, rest') →
      g.FitsFromBudgets rest'

/-! ## Section by section -/

/-- The decoding ends in an exception. -/
def Throws {α : Type} (x : Stateful Exit Governor α) (g : Governor) : Prop :=
  ∃ fault, (x.exec g).1 = .error (.threw fault)

variable {g : Governor} {now : Timestamp} {bytes : Bytes}

theorem throws_bind {α β : Type} {x : Stateful Exit Governor α}
    {rest : α → Stateful Exit Governor β} :
    Throws (x >>= rest) g ↔ Throws x g ∨ ∃ a g', x.exec g = (.ok a, g') ∧ Throws (rest a) g' := by
  unfold Throws
  simp only [Stateful.bind_eq_error]
  constructor
  · rintro ⟨fault, first | ⟨a, g', returned, second⟩⟩
    · exact .inl ⟨fault, first⟩
    · exact .inr ⟨a, g', returned, fault, second⟩
  · rintro (⟨fault, first⟩ | ⟨a, g', returned, fault, second⟩)
    · exact ⟨fault, .inl first⟩
    · exact ⟨fault, .inr ⟨a, g', returned, second⟩⟩

theorem not_throws_rejectUnless (condition : Bool) : ¬ Throws (rejectUnless condition) g := by
  rintro ⟨fault, failed⟩
  cases condition <;> cases failed

theorem not_throws_fromMeters : ¬ Throws (fromMeters now bytes) g := by
  unfold fromMeters
  rw [throws_bind]
  rintro (meters | ⟨rest, g', _, trailing⟩)
  · have quiet : ∀ record meters fault,
        ((restoreMeter now record).exec meters).1 ≠ .error (.threw fault) := fun _ _ _ => nofun
    obtain ⟨_, _, _, _, _, _, middle, _, _, _, fault, unread⟩ := (counted_threw_iff quiet).mp meters
    rw [decodeMeter_eq, run_built_threw BinReader.NeverThrows.rawMeter] at unread
    obtain ⟨raw, _, _, built⟩ := unread
    exact RawMeter.build_not_threw fault built
  · exact not_throws_rejectUnless _ trailing

theorem throws_fromReservations_iff :
    Throws (fromReservations now bytes) g ↔ ¬ ReservationsFit g.reservations bytes := by
  have section_ : Throws (fromReservations now bytes) g ↔ Throws (decodeReservations bytes) g := by
    unfold fromReservations
    rw [throws_bind]
    apply or_iff_left
    rintro ⟨rest, g', _, meters⟩
    exact not_throws_fromMeters meters
  rw [section_]
  unfold ReservationsFit
  constructor
  · intro thrown fits
    obtain ⟨count, after, header, k, below, rs, middle, s', all, applied, fault, unread⟩ :=
      (counted_threw_iff restoreReservation_not_threw).mp thrown
    obtain ⟨fresh, _⟩ := exec_restoreReservations_iff.mp applied
    rw [decodeReservation_eq, run_built_threw BinReader.NeverThrows.rawReservation] at unread
    obtain ⟨raw, rest, read, built⟩ := unread
    obtain ⟨powerClass, state, accepted, outside⟩ :=
      RawReservation.build_threw_iff.mp ⟨fault, built⟩
    exact outside
      (fits count after header k below rs middle all fresh raw rest read powerClass state accepted)
  · intro unfit
    push Not at unfit
    obtain ⟨count, after, header, k, below, rs, middle, all, fresh, raw, rest, read, powerClass,
      state, accepted, outside⟩ := unfit
    obtain ⟨fault, built⟩ := RawReservation.build_threw_iff.mpr
      ⟨powerClass, state, accepted, fun fits => outside fits.1 fits.2⟩
    have unread : decodeReservation.run middle = .error (.threw fault) := by
      rw [decodeReservation_eq, run_built_threw BinReader.NeverThrows.rawReservation]
      exact ⟨raw, rest, read, built⟩
    exact (counted_threw_iff restoreReservation_not_threw).mpr
      ⟨count, after, header, k, below, rs, middle, _, all,
        exec_restoreReservations_iff.mpr ⟨fresh, rfl⟩, fault, unread⟩

theorem throws_decodeBudgets_iff :
    Throws (decodeBudgets bytes) g ↔ ¬ BudgetsFit g.budgets bytes := by
  unfold BudgetsFit
  constructor
  · intro thrown fits
    obtain ⟨count, after, header, k, below, bs, middle, m, all, applied, fault, unread⟩ :=
      (counted_threw_iff restoreBudget_not_threw).mp thrown
    rw [decodeBudget_eq, run_built_threw BinReader.NeverThrows.rawBudget] at unread
    obtain ⟨raw, rest, read, built⟩ := unread
    obtain ⟨accepted, outside⟩ := RawBudget.build_threw_iff.mp ⟨fault, built⟩
    exact outside (fits count after header k below bs middle m all
      (BudgetManager.exec_restoreBudgets_iff.mp applied) raw rest read accepted)
  · intro unfit
    push Not at unfit
    obtain ⟨count, after, header, k, below, bs, middle, m, all, installed, raw, rest, read,
      accepted, outside⟩ := unfit
    obtain ⟨fault, built⟩ := RawBudget.build_threw_iff.mpr
      ⟨accepted, fun fits => outside fits.1 fits.2⟩
    have unread : decodeBudget.run middle = .error (.threw fault) := by
      rw [decodeBudget_eq, run_built_threw BinReader.NeverThrows.rawBudget]
      exact ⟨raw, rest, read, built⟩
    exact (counted_threw_iff restoreBudget_not_threw).mpr ⟨count, after, header, k, below, bs,
      middle, m, all, BudgetManager.exec_restoreBudgets_iff.mpr installed, fault, unread⟩

theorem throws_fromBudgets_iff :
    Throws (fromBudgets now bytes) g ↔ ¬ g.FitsFromBudgets bytes := by
  have later : ∀ m rest, Throws (do
      rejectUnless (← get).budgets.validHierarchy
      fromReservations now rest) { g with budgets := m } ↔
        m.validHierarchy = true ∧ ¬ ReservationsFit g.reservations rest := by
    intro m rest
    rw [throws_bind]
    have read : ¬ Throws (get : Stateful Exit Governor Governor) { g with budgets := m } := by
      rintro ⟨_, failed⟩
      cases failed
    rw [or_iff_right read]
    cases valid : m.validHierarchy with
    | false =>
        refine ⟨?_, fun ⟨wrong, _⟩ => nomatch wrong⟩
        rintro ⟨_, _, ⟨⟩, fault, failed⟩
        rw [valid] at failed
        cases failed
    | true =>
        constructor
        · rintro ⟨_, _, ⟨⟩, thrown⟩
          rw [valid] at thrown
          change Throws (fromReservations now rest) { g with budgets := m } at thrown
          exact ⟨rfl, (throws_fromReservations_iff (g := { g with budgets := m })).mp thrown⟩
        · rintro ⟨_, unfit⟩
          refine ⟨_, _, rfl, ?_⟩
          rw [valid]
          exact throws_fromReservations_iff.mpr unfit
  unfold fromBudgets
  rw [throws_bind, throws_decodeBudgets_iff]
  unfold FitsFromBudgets
  rw [not_and_or]
  apply or_congr_right
  constructor
  · rintro ⟨rest, _, returned, thrown⟩ fits
    obtain ⟨count, after, bs, m, header, all, installed, rfl⟩ := decodeBudgets_eq_ok.mp returned
    obtain ⟨valid, unfit⟩ := (later m rest).mp thrown
    exact unfit (fits count after bs rest m header all installed valid)
  · intro unfit
    push Not at unfit
    obtain ⟨count, after, bs, rest, m, header, all, installed, valid, unfit⟩ := unfit
    exact ⟨rest, _, decodeBudgets_eq_ok.mpr ⟨count, after, bs, m, header, all, installed, rfl⟩,
      (later m rest).mpr ⟨valid, unfit⟩⟩

/-- Reading the policy throws exactly when a negative cap is reached. -/
theorem decodePolicy_threw_iff (id : PolicyId) (header : StateHeader) (bytes : Bytes) :
    (∃ fault, (decodePolicy id header).run bytes = .error (.threw fault)) ↔ ¬ CapsFit bytes := by
  have caps : ∀ fault, (decodePolicy id header).run bytes = .error (.threw fault) ↔
      (ByteReader.readAll decodeCap 4).run bytes = .error (.threw fault) := by
    intro fault
    rw [decodePolicy_eq, StateT.run_bind]
    cases (ByteReader.readAll decodeCap 4).run bytes with
    | error e =>
        constructor
        · intro failed
          exact congrArg _ (Except.error.inj failed)
        · intro failed
          exact congrArg _ (Except.error.inj failed)
    | ok read => exact ⟨nofun, nofun⟩
  simp only [caps, ByteReader.readAll_eq_error, decodeCap_eq,
    run_built_threw BinReader.NeverThrows.rawCap]
  unfold CapsFit
  rw [decodeCap_eq]
  constructor
  · rintro ⟨fault, k, below, items, middle, all, raw, rest, read, built⟩ fits
    obtain ⟨v, rfl, negative⟩ := buildCap_threw_iff.mp ⟨fault, built⟩
    exact absurd (fits k below items middle all v rest read) (not_le.mpr negative)
  · intro unfit
    push Not at unfit
    obtain ⟨k, below, items, middle, all, v, rest, read, negative⟩ := unfit
    obtain ⟨fault, built⟩ := buildCap_threw_iff.mpr ⟨v, rfl, negative⟩
    exact ⟨fault, k, below, items, middle, all, some v, rest, read, built⟩

theorem throws_decodeSections_iff {blob : Bytes} :
    Throws (decodeSections now blob) g ↔ ¬ g.Constructible blob := by
  unfold Constructible
  rcases exec_decodeSections_cases g now blob with ⟨e, unread, exec⟩ | ⟨header, rest, read, after⟩
  · constructor
    · rintro ⟨fault, failed⟩
      rw [exec] at failed
      obtain rfl := Except.error.inj failed
      exact absurd unread (BinReader.NeverThrows.decodeHeader blob fault)
    · intro unfit
      refine absurd (fun header rest read => ?_) unfit
      rw [unread] at read
      cases read
  simp only [read, Except.ok.injEq, Prod.mk.injEq, and_imp, forall_apply_eq_imp_iff, forall_eq']
  rw [not_and_or]
  rcases after with ⟨e, unread, exec⟩ | ⟨policy, rest', read', exec⟩
  · have unreadCaps : ∀ caps rest', (ByteReader.readAll decodeCap 4).run rest ≠
        .ok (caps, rest') := by
      intro caps rest' readCaps
      rw [decodePolicy_eq_ok.mpr ⟨caps, readCaps, rfl⟩] at unread
      cases unread
    have vacuous : ¬ ¬ ∀ caps rest', (ByteReader.readAll decodeCap 4).run rest =
        .ok (caps, rest') → g.FitsFromBudgets rest' :=
      not_not.mpr fun caps rest' readCaps => absurd readCaps (unreadCaps caps rest')
    rw [or_iff_left vacuous, ← decodePolicy_threw_iff ⟨g.ids.policy + 1⟩ header]
    unfold Throws
    rw [exec, unread]
    exact exists_congr fun fault =>
      ⟨fun same => congrArg _ (Except.error.inj same),
        fun same => congrArg _ (Except.error.inj same)⟩
  · obtain ⟨caps, readCaps, _⟩ := decodePolicy_eq_ok.mp read'
    have fits : ¬ ¬ CapsFit rest := by
      rw [← decodePolicy_threw_iff ⟨g.ids.policy + 1⟩ header]
      rintro ⟨fault, failed⟩
      rw [read'] at failed
      cases failed
    rw [or_iff_right fits, readCaps]
    simp only [Except.ok.injEq, Prod.mk.injEq, and_imp, forall_apply_eq_imp_iff, forall_eq']
    have same : Throws (decodeSections now blob) g ↔
        Throws (fromBudgets now rest') ((g.withHeader header).writePolicy policy) := by
      unfold Throws
      rw [exec]
    rw [same, throws_fromBudgets_iff]
    rfl

/-- A load answers exactly when every typed value it reaches can be constructed. -/
theorem load_answers_iff (g : Governor) (bytes : Bytes) (now : Timestamp) :
    (∃ answer, (g.load (some bytes) now).1 = .ok answer) ↔
      ∀ envelope, decodeEnvelope bytes = .ok envelope → g.Constructible envelope.blob := by
  unfold load
  dsimp only
  cases decoded : decodeEnvelope bytes with
  | error text => exact ⟨fun _ _ => nofun, fun _ => ⟨false, rfl⟩⟩
  | ok envelope =>
      simp only [Except.ok.injEq, forall_eq']
      rw [← not_iff_not, ← @throws_decodeSections_iff g now envelope.blob]
      unfold Throws decodeState
      rw [Stateful.exec_bind]
      rcases (decodeSections now envelope.blob).exec g with ⟨result, left⟩
      cases result with
      | ok _ => exact ⟨fun silent => absurd ⟨true, rfl⟩ silent, fun ⟨_, failed⟩ => nomatch failed⟩
      | error exit =>
          cases exit with
          | rejected =>
              refine ⟨fun silent => absurd ⟨false, rfl⟩ silent, ?_⟩
              rintro ⟨fault, failed⟩
              cases failed
          | threw fault =>
              refine ⟨fun _ => ⟨fault, rfl⟩, fun _ => ?_⟩
              rintro ⟨answer, answered⟩
              cases answered

/-- A file with the given blob. -/
def fileOf (blob : Bytes) : Bytes :=
  let out := envelopeHeader ⟨persistSchema, blob⟩ ++ blob
  out ++ BinWriter.u32 (crc32 out)

/-- A valid file whose fleet cap is -1 W ends the load in an exception. -/
theorem load_throws_on_negative_cap :
    ¬ ∀ (g : Governor) (bytes : Bytes) (now : Timestamp),
      ∃ answer, (g.load (some bytes) now).1 = .ok answer := by
  intro claimed
  obtain ⟨answer, answered⟩ := claimed firstGovernor
    (fileOf (headerOnly 1 ++ BinWriter.bool true ++ BinWriter.i64 (-1000))) Timestamp.zero
  have thrown : (firstGovernor.load
      (some (fileOf (headerOnly 1 ++ BinWriter.bool true ++ BinWriter.i64 (-1000))))
      Timestamp.zero).1.isOk = false := by decide +kernel
  rw [answered] at thrown
  cases thrown

end Governor

end PowerGovernor
