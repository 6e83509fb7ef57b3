import PowerGovernor.Persistence.StateFile

/-!
What any load leaves behind.

Owns the records a load restores before it ends, whether it succeeds or not, in
any Governor: some of the budgets, and the first reservations once all budgets
are installed.
-/

set_option autoImplicit false

namespace PowerGovernor

/-! ## Refused records -/

theorem restoreBudget_frugal (b : PowerBudget) (m : BudgetManager) (e : Exit) (m' : BudgetManager)
    (refused : (restoreBudget b).exec m = (.error e, m')) : m' = m := by
  rcases restoreBudget_cases b m with ⟨_, e', same⟩ | ⟨_, m'', accepted, _⟩
  · exact (Prod.mk.inj (refused.symm.trans same)).2
  · cases refused.symm.trans accepted

theorem restoreReservation_frugal (r : Reservation) (s : Restored) (e : Exit) (s' : Restored)
    (refused : (restoreReservation r).exec s = (.error e, s')) : s' = s := by
  rcases restoreReservation_cases r s with ⟨_, e', same⟩ | ⟨_, s'', accepted, _⟩
  · exact (Prod.mk.inj (refused.symm.trans same)).2
  · cases refused.symm.trans accepted

namespace Governor

variable {g g' : Governor} {now : Timestamp} {bytes rest : Bytes}

/-! ## The sections -/

theorem exists_decodeBudgets (g : Governor) (bytes : Bytes) :
    ∃ budgets m, g.budgets.installAll budgets = some m ∧
      ((decodeBudgets bytes).exec g).2 = { g with budgets := m } := by
  cases counted : decodeCount.run bytes with
  | error e =>
      refine ⟨[], g.budgets, rfl, ?_⟩
      unfold decodeBudgets read
      rw [counted]
      rfl
  | ok read =>
      obtain ⟨count, after⟩ := read
      obtain ⟨_, _, budgets, _, _, applied⟩ :=
        ByteReader.exists_prefix_of_sections decodeBudget restoreBudget_frugal count after g.budgets
      refine ⟨budgets, _, BudgetManager.exec_restoreBudgets_iff.mp applied, ?_⟩
      unfold decodeBudgets Governor.read
      rw [counted]
      rfl

/-- These are the first reservations of the section, each with a new id. -/
def RestoresFirst (g : Governor) (bytes : Bytes) (reservations : List Reservation) : Prop :=
  g.reservations.map.Fresh reservations ∧
    (reservations = [] ∨ ∃ count after, decodeCount.run bytes = .ok (count, after) ∧ ∃ k ≤ count,
      ∃ middle, (ByteReader.readAll decodeReservation k).run after = .ok (reservations, middle))

theorem restoresFirst_nil (g : Governor) (bytes : Bytes) : g.RestoresFirst bytes [] :=
  ⟨⟨List.nodup_nil, fun _ member => nomatch member⟩, .inl rfl⟩

theorem exists_decodeReservations (g : Governor) (bytes : Bytes) :
    ∃ reservations, g.RestoresFirst bytes reservations ∧
      ((decodeReservations bytes).exec g).2 =
        writeRestored (reservations.foldl Restored.add g.restored) g := by
  cases counted : decodeCount.run bytes with
  | error e =>
      refine ⟨[], g.restoresFirst_nil bytes, ?_⟩
      unfold decodeReservations read
      rw [counted]
      rfl
  | ok read =>
      obtain ⟨count, after⟩ := read
      obtain ⟨k, below, reservations, middle, all, applied⟩ :=
        ByteReader.exists_prefix_of_sections decodeReservation restoreReservation_frugal count after
          g.restored
      obtain ⟨fresh, left⟩ := exec_restoreReservations_iff.mp applied
      refine ⟨reservations, ⟨fresh, .inr ⟨count, after, counted, k, below, middle, all⟩⟩, ?_⟩
      rw [← left]
      unfold decodeReservations Governor.read
      rw [counted]
      rfl

/-- All budgets are installed, their hierarchy is valid, and these are the first
reservations after them. -/
def ReachesReservations (g : Governor) (bytes : Bytes) (reservations : List Reservation) : Prop :=
  ∃ budgets rest m, (readRecords decodeBudget).run bytes = .ok (budgets, rest) ∧
    g.budgets.installAll budgets = some m ∧ m.validHierarchy = true ∧
      g.RestoresFirst rest reservations

theorem restored_fromReservations (g : Governor) (now : Timestamp) (bytes : Bytes) :
    ∃ reservations, g.RestoresFirst bytes reservations ∧
      ((fromReservations now bytes).exec g).2.restored =
        reservations.foldl Restored.add g.restored := by
  obtain ⟨reservations, first, left⟩ := exists_decodeReservations g bytes
  refine ⟨reservations, first, ?_⟩
  have kept : ((fromReservations now bytes).exec g).2.restored =
      ((decodeReservations bytes).exec g).2.restored :=
    Stateful.view_bind (fun rest => keeps_fromMeters (fun _ _ => rfl) now rest) g
  rw [kept, left]
  rfl

/-- From the budget section on, a load restores some budgets, and reservations only
where it reaches them. -/
theorem restored_fromBudgets (g : Governor) (now : Timestamp) (bytes : Bytes) :
    ∃ budgets m reservations, g.budgets.installAll budgets = some m ∧
      (reservations = [] ∨ g.ReachesReservations bytes reservations) ∧
      g.reservations.map.Fresh reservations ∧
      ((fromBudgets now bytes).exec g).2.restored =
        reservations.foldl Restored.add ⟨g.reservations, g.resIndex, m⟩ := by
  obtain ⟨budgets, m, installed, left⟩ := exists_decodeBudgets g bytes
  have nothing := (g.restoresFirst_nil bytes).1
  cases ended : (decodeBudgets bytes).exec g with
  | mk result after =>
      rw [ended] at left
      obtain rfl : after = { g with budgets := m } := left
      cases result with
      | error e =>
          have exec : (fromBudgets now bytes).exec g = (.error e, { g with budgets := m }) :=
            Stateful.exec_bind_of_error ended _
          rw [exec]
          exact ⟨budgets, m, [], installed, .inl rfl, nothing, rfl⟩
      | ok rest =>
          have exec : (fromBudgets now bytes).exec g =
              (rejectUnless m.validHierarchy >>= fun _ => fromReservations now rest).exec
                { g with budgets := m } := Stateful.exec_bind_of_ok ended _
          rw [exec]
          cases valid : m.validHierarchy with
          | false => exact ⟨budgets, m, [], installed, .inl rfl, nothing, rfl⟩
          | true =>
              obtain ⟨_, _, bs, m', header, all, installedAll, same⟩ := decodeBudgets_eq_ok.mp ended
              obtain rfl : m = m' := congrArg Governor.budgets same
              obtain ⟨reservations, first, restored⟩ :=
                restored_fromReservations { g with budgets := m } now rest
              exact ⟨budgets, m, reservations, installed,
                .inr ⟨bs, rest, m, readRecords_eq_ok.mpr ⟨_, _, header, all⟩, installedAll, valid,
                  first⟩, first.1, restored⟩

/-! ## Records that are reached -/

/-- The first reservations of a section are restored, whatever comes after them. -/
theorem RestoresFirst.restored {reservations : List Reservation}
    (first : g.RestoresFirst bytes reservations) {r : Reservation} (member : r ∈ reservations) :
    r ∈ ((decodeReservations bytes).exec g).2.reservations.map.entries := by
  obtain ⟨fresh, none | ⟨count, after, counted, k, below, middle, all⟩⟩ := first
  · rw [none] at member
    cases member
  have applied := exec_restoreReservations (s := g.restored) fresh
  obtain ⟨_, _, more, _, _, appliedMore⟩ := ByteReader.exists_prefix_of_sections decodeReservation
    restoreReservation_frugal (count - k) middle (reservations.foldl Restored.add g.restored)
  obtain ⟨freshMore, left⟩ := exec_restoreReservations_iff.mp appliedMore
  have entries : ((decodeReservations bytes).exec g).2.reservations.map =
      more.foldl Keyed.emplace (reservations.foldl Keyed.emplace g.reservations.map) := by
    unfold decodeReservations read
    rw [counted, Stateful.exec_bind_of_ok (Stateful.exec_ofExcept _ _), Stateful.exec_zoom,
      ByteReader.exec_sections_of_prefix below all applied, left]
    refine (reservations_foldl_add _ more).trans (congrArg (more.foldl Keyed.emplace) ?_)
    exact reservations_foldl_add g.restored reservations
  rw [entries, Keyed.entries_foldl_emplace, Keyed.entries_foldl_emplace fresh]
  · exact List.mem_append_left more (List.mem_append_right _ member)
  · rw [reservations_foldl_add] at freshMore
    exact freshMore

theorem ReachesReservations.restored {reservations : List Reservation}
    (reaches : g.ReachesReservations bytes reservations) (now : Timestamp) {r : Reservation}
    (member : r ∈ reservations) :
    r ∈ ((fromBudgets now bytes).exec g).2.reservations.map.entries := by
  obtain ⟨budgets, rest, m, read, installed, valid, first⟩ := reaches
  obtain ⟨count, after, counted, all⟩ := readRecords_eq_ok.mp read
  have ended : (decodeBudgets bytes).exec g = (.ok rest, { g with budgets := m }) :=
    decodeBudgets_eq_ok.mpr ⟨count, after, budgets, m, counted, all, installed, rfl⟩
  have exec : (fromBudgets now bytes).exec g =
      (fromReservations now rest).exec { g with budgets := m } := by
    unfold fromBudgets
    rw [Stateful.exec_bind_of_ok ended, Stateful.exec_bind_of_ok (Stateful.exec_get _), valid]
    rfl
  have kept : ((fromReservations now rest).exec { g with budgets := m }).2.reservations =
      ((decodeReservations rest).exec { g with budgets := m }).2.reservations :=
    Stateful.view_bind (fun rest => keeps_fromMeters (fun _ _ => rfl) now rest) _
  rw [exec, kept]
  exact RestoresFirst.restored (g := { g with budgets := m }) first member

/-! ## Whole loads -/

/-- What invalidated telemetry does not change is as the decoding left it. -/
theorem view_load {T : Type} (view : Governor → T)
    (ignores : ∀ g, view (invalidateLiveTelemetry g) = view g) {envelope : PersistEnvelope}
    (decoded : decodeEnvelope bytes = .ok envelope) (g : Governor) (now : Timestamp) :
    view (g.load (some bytes) now).2 = view ((decodeSections now envelope.blob).exec g).2 := by
  unfold load
  dsimp only
  rw [decoded]
  show view (concludeLoad ((decodeState now envelope.blob).exec g)).2 = _
  unfold decodeState
  rw [Stateful.exec_bind]
  rcases (decodeSections now envelope.blob).exec g with ⟨result, left⟩
  cases result with
  | ok _ => exact ignores left
  | error exit => cases exit <;> rfl

end Governor

end PowerGovernor
