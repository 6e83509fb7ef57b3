import PowerGovernor.Persistence.Records
import PowerGovernor.Persistence.Reload

/-!
Which records a recovery accepts.

Owns the acceptance of a list of budgets and of a list of reservations in terms
of the managers they are restored to, and the sections of a blob as reading
followed by restoring.
-/

set_option autoImplicit false

namespace PowerGovernor

/-! ## Lists of records -/

namespace BudgetManager

/-- The manager once every budget of a list is installed, or none when one of
them is refused. -/
def installAll : BudgetManager → List PowerBudget → Option BudgetManager
  | m, [] => some m
  | m, b :: rest =>
    match m.install b with
    | (m', true) => installAll m' rest
    | (_, false) => none

theorem exec_restoreBudgets_iff {m m' : BudgetManager} {bs : List PowerBudget} :
    (ByteReader.applyAll restoreBudget bs).exec m = (.ok (), m') ↔ m.installAll bs = some m' := by
  induction bs generalizing m with
  | nil =>
      constructor
      · rintro ⟨⟩
        rfl
      · rintro ⟨⟩
        rfl
  | cons b rest inductionHypothesis =>
      have exec : (restoreBudget b).exec m =
          (if (m.install b).2 then .ok () else .error .rejected, (m.install b).1) := by
        unfold restoreBudget
        rw [Stateful.exec_bind_of_ok (Stateful.exec_get m)]
        rcases m.install b with ⟨installed, ok⟩
        cases ok <;> rfl
      rw [ByteReader.applyAll, installAll, Stateful.exec_bind, exec]
      rcases m.install b with ⟨installed, ok⟩
      cases ok with
      | false =>
          constructor
          · intro refused
            cases refused
          · intro refused
            cases refused
      | true => exact inductionHypothesis

end BudgetManager

theorem restoreBudget_not_threw (b : PowerBudget) (m : BudgetManager) (fault : Fault) :
    ((restoreBudget b).exec m).1 ≠ .error (.threw fault) := by
  unfold restoreBudget
  rw [Stateful.exec_bind_of_ok (Stateful.exec_get m)]
  rcases m.install b with ⟨installed, ok⟩
  cases ok <;> exact nofun

/-- Reservations are restored exactly when their ids are new. -/
theorem exec_restoreReservations_iff {s s' : Restored} {rs : List Reservation} :
    (ByteReader.applyAll restoreReservation rs).exec s = (.ok (), s') ↔
      s.reservations.map.Fresh rs ∧ s' = rs.foldl Restored.add s := by
  constructor
  · intro applied
    have fresh : s.reservations.map.Fresh rs := by
      induction rs generalizing s with
      | nil => exact ⟨List.nodup_nil, fun _ member => nomatch member⟩
      | cons r rest inductionHypothesis =>
          rcases ReservationManager.restore_cases s.reservations r with
            ⟨_, refused⟩ | ⟨free, restored⟩
          · have stops : (restoreReservation r).exec s = (.error .rejected, s) := by
              unfold restoreReservation
              rw [Stateful.exec_bind_of_ok (Stateful.exec_get s), refused]
              rfl
            rw [ByteReader.applyAll, Stateful.exec_bind_of_error stops] at applied
            cases applied
          · have accepts : (restoreReservation r).exec s = (.ok (), s.add r) := by
              unfold restoreReservation
              rw [Stateful.exec_bind_of_ok (Stateful.exec_get s), restored]
              rfl
            rw [ByteReader.applyAll, Stateful.exec_bind_of_ok accepts] at applied
            have later := inductionHypothesis applied
            exact Keyed.Fresh.cons free later
    rw [exec_restoreReservations fresh] at applied
    exact ⟨fresh, (Prod.mk.inj applied).2.symm⟩
  · rintro ⟨fresh, rfl⟩
    exact exec_restoreReservations fresh

theorem restoreReservation_not_threw (r : Reservation) (s : Restored) (fault : Fault) :
    ((restoreReservation r).exec s).1 ≠ .error (.threw fault) := by
  unfold restoreReservation
  rw [Stateful.exec_bind_of_ok (Stateful.exec_get s)]
  rcases s.reservations.restore r with ⟨restored, ok⟩
  cases ok <;> exact nofun

/-! ## The policy -/

/-- The policy the decoder builds from the four caps. -/
def policyWithCaps (id : PolicyId) (header : StateHeader) : List (Option Watts) → PowerPolicy
  | [fleet, node, device, soft] =>
    { PowerPolicy.defaults id header.policyName with
      generation := header.policyGeneration
      fleetHardCap := fleet
      nodeHardCap := node
      deviceHardCap := device
      softTarget := soft }
  | _ => PowerPolicy.defaults id header.policyName

theorem decodePolicy_eq (id : PolicyId) (header : StateHeader) :
    decodePolicy id header =
      ByteReader.readAll decodeCap 4 >>= fun caps => pure (policyWithCaps id header caps) := by
  unfold decodePolicy
  simp only [ByteReader.readAll, bind_assoc, pure_bind]
  rfl

theorem decodePolicy_eq_ok {id : PolicyId} {header : StateHeader} {p : PowerPolicy}
    {bytes rest : Bytes} : (decodePolicy id header).run bytes = .ok (p, rest) ↔
      ∃ caps, (ByteReader.readAll decodeCap 4).run bytes = .ok (caps, rest) ∧
        p = policyWithCaps id header caps := by
  rw [decodePolicy_eq, ByteReader.run_bind_eq_ok]
  constructor
  · rintro ⟨caps, middle, read, returned⟩
    obtain ⟨rfl, rfl⟩ := Prod.mk.inj (Except.ok.inj returned)
    exact ⟨caps, read, rfl⟩
  · rintro ⟨caps, read, rfl⟩
    exact ⟨caps, rest, read, rfl⟩

theorem generation_policyWithCaps {id : PolicyId} {header : StateHeader}
    {caps : List (Option Watts)} {bytes rest : Bytes}
    (read : (ByteReader.readAll decodeCap 4).run bytes = .ok (caps, rest)) :
    (policyWithCaps id header caps).generation = header.policyGeneration := by
  obtain ⟨fleet, _, _, _, three, rfl⟩ := ByteReader.readAll_succ_eq_ok.mp read
  obtain ⟨node, _, _, _, two, rfl⟩ := ByteReader.readAll_succ_eq_ok.mp three
  obtain ⟨device, _, _, _, one, rfl⟩ := ByteReader.readAll_succ_eq_ok.mp two
  obtain ⟨soft, _, _, _, none, rfl⟩ := ByteReader.readAll_succ_eq_ok.mp one
  obtain ⟨rfl, _⟩ := Prod.mk.inj (Except.ok.inj none)
  rfl

/-! ## The sections of a blob -/

namespace Governor

section Counted

variable {α S : Type} {reader : BinReader α} {apply : α → Stateful Exit S Unit}
  {part : Governor → S} {put : S → Governor → Governor} {g g' : Governor} {bytes rest : Bytes}

variable (reader apply part put) in
/-- A section: a count, and records that are restored to one part of the state. -/
def counted (bytes : Bytes) : Stateful Exit Governor Bytes := do
  let (count, rest) ← read decodeCount bytes
  Stateful.zoom part put (ByteReader.sections reader apply count rest)

theorem exec_counted_of_count {count : Nat} {after : Bytes}
    (header : decodeCount.run bytes = .ok (count, after)) :
    (counted reader apply part put bytes).exec g =
      (Stateful.zoom part put (ByteReader.sections reader apply count after)).exec g := by
  unfold counted read
  rw [header]
  rfl

theorem counted_eq_ok : (counted reader apply part put bytes).exec g = (.ok rest, g') ↔
    ∃ count after items s', decodeCount.run bytes = .ok (count, after) ∧
      (ByteReader.readAll reader count).run after = .ok (items, rest) ∧
        (ByteReader.applyAll apply items).exec (part g) = (.ok (), s') ∧ g' = put s' g := by
  cases header : decodeCount.run bytes with
  | error e =>
      have stops : (counted reader apply part put bytes).exec g = (.error e, g) := by
        unfold counted read
        rw [header]
        rfl
      rw [stops]
      exact ⟨nofun, fun ⟨_, _, _, _, read, _⟩ => nomatch read⟩
  | ok read =>
      obtain ⟨count, after⟩ := read
      rw [exec_counted_of_count header, Stateful.exec_zoom]
      constructor
      · intro ended
        obtain ⟨succeeded, left⟩ := Prod.mk.inj ended
        obtain ⟨items, all, applied⟩ := ByteReader.sections_eq_ok.mp (Prod.ext succeeded rfl)
        exact ⟨count, after, items, _, rfl, all, applied, left.symm⟩
      · rintro ⟨_, _, items, s', same, all, applied, rfl⟩
        obtain ⟨rfl, rfl⟩ := Prod.mk.inj (Except.ok.inj same)
        rw [ByteReader.sections_eq_ok.mpr ⟨items, all, applied⟩]

/-- Where restoring throws nothing, a section throws at the first record whose
fields a constructor refuses. -/
theorem counted_threw_iff (quiet : ∀ a s fault, ((apply a).exec s).1 ≠ .error (.threw fault)) :
    (∃ fault, ((counted reader apply part put bytes).exec g).1 = .error (.threw fault)) ↔
    ∃ count after, decodeCount.run bytes = .ok (count, after) ∧ ∃ k < count,
      ∃ items middle s', (ByteReader.readAll reader k).run after = .ok (items, middle) ∧
        (ByteReader.applyAll apply items).exec (part g) = (.ok (), s') ∧
          ∃ fault, reader.run middle = .error (.threw fault) := by
  cases header : decodeCount.run bytes with
  | error e =>
      have stops : (counted reader apply part put bytes).exec g = (.error e, g) := by
        unfold counted read
        rw [header]
        rfl
      rw [stops]
      constructor
      · rintro ⟨fault, failed⟩
        obtain rfl := Except.error.inj failed
        exact absurd header (BinReader.NeverThrows.decodeCount bytes fault)
      · rintro ⟨_, _, read, _⟩
        cases read
  | ok read =>
      obtain ⟨count, after⟩ := read
      rw [exec_counted_of_count header, Stateful.exec_zoom]
      constructor
      · rintro ⟨fault, failed⟩
        obtain ⟨k, below, items, middle, s', all, applied, stops⟩ :=
          ByteReader.sections_eq_error.mp failed
        refine ⟨count, after, rfl, k, below, items, middle, s', all, applied, fault, ?_⟩
        rcases stops with unread | ⟨a, _, _, refused⟩
        · exact unread
        · exact absurd refused (quiet a s' fault)
      · rintro ⟨_, _, same, k, below, items, middle, s', all, applied, fault, unread⟩
        obtain ⟨rfl, rfl⟩ := Prod.mk.inj (Except.ok.inj same)
        exact ⟨fault, ByteReader.sections_eq_error.mpr
          ⟨k, below, items, middle, s', all, applied, .inl unread⟩⟩

end Counted

variable {g g' : Governor} {bytes rest : Bytes}

/-- The budget section succeeds when every record is read and installed. -/
theorem decodeBudgets_eq_ok : (decodeBudgets bytes).exec g = (.ok rest, g') ↔
    ∃ count after bs m, decodeCount.run bytes = .ok (count, after) ∧
      (ByteReader.readAll decodeBudget count).run after = .ok (bs, rest) ∧
        g.budgets.installAll bs = some m ∧ g' = { g with budgets := m } := by
  simp only [← BudgetManager.exec_restoreBudgets_iff]
  exact counted_eq_ok

/-- The reservation section succeeds when every record is read and has a new id. -/
theorem decodeReservations_eq_ok : (decodeReservations bytes).exec g = (.ok rest, g') ↔
    ∃ count after rs, decodeCount.run bytes = .ok (count, after) ∧
      (ByteReader.readAll decodeReservation count).run after = .ok (rs, rest) ∧
        g.reservations.map.Fresh rs ∧ g' = writeRestored (rs.foldl Restored.add g.restored) g := by
  constructor
  · intro succeeded
    obtain ⟨count, after, rs, s', header, all, applied, rfl⟩ := counted_eq_ok.mp succeeded
    obtain ⟨fresh, rfl⟩ := exec_restoreReservations_iff.mp applied
    exact ⟨count, after, rs, header, all, fresh, rfl⟩
  · rintro ⟨count, after, rs, header, all, fresh, rfl⟩
    exact counted_eq_ok.mpr
      ⟨count, after, rs, _, header, all, exec_restoreReservations_iff.mpr ⟨fresh, rfl⟩, rfl⟩

/-- The meters once every record of a list is written. -/
def restoredMeters (now : Timestamp) (meters : Keyed WorkloadMeter.workload)
    (records : List (WorkloadId × Joules)) : Keyed WorkloadMeter.workload :=
  records.foldl (fun meters record => meters.assign (restoredMeter now record)) meters

/-- The meter section succeeds when every record is read. -/
theorem decodeMeters_eq_ok {now : Timestamp} :
    (decodeMeters now bytes).exec g = (.ok rest, g') ↔
    ∃ count after records, decodeCount.run bytes = .ok (count, after) ∧
      (ByteReader.readAll decodeMeter count).run after = .ok (records, rest) ∧
        g' = { g with workloadMeters := restoredMeters now g.workloadMeters records } := by
  constructor
  · intro succeeded
    obtain ⟨count, after, records, s', header, all, applied, rfl⟩ := counted_eq_ok.mp succeeded
    rw [exec_restoreMeters] at applied
    obtain rfl := (Prod.mk.inj applied).2
    exact ⟨count, after, records, header, all, rfl⟩
  · rintro ⟨count, after, records, header, all, rfl⟩
    exact counted_eq_ok.mpr ⟨count, after, records, _, header, all, exec_restoreMeters _ _ _, rfl⟩

end Governor

end PowerGovernor
