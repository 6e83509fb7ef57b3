import Mathlib.Tactic.Abel
import PowerGovernor.Budget.Chain
import PowerGovernor.Governor.Run

/-!
What a failed recovery leaves behind.

Owns the recovered part of the state, the sections of `decode_state` as they
follow each other, and the exact condition under which a load that returns
`false` changes nothing: it fails before its first effective write.
-/

set_option autoImplicit false

namespace PowerGovernor

/-- Two states agree on everything a recovery writes. -/
structure SameRecovered (g g' : Governor) : Prop where
  epoch : g'.authority.epoch = g.authority.epoch
  boot : g'.authority.boot = g.authority.boot
  node : g'.cfg.node = g.cfg.node
  policy : g'.policy = g.policy
  budgets : g'.budgets = g.budgets
  reservations : g'.reservations = g.reservations
  resIndex : g'.resIndex = g.resIndex
  workloadMeters : g'.workloadMeters = g.workloadMeters

/-! ## Applying one record -/

/-- A measure that every accepted budget increases. -/
def BudgetManager.issued (m : BudgetManager) : Int :=
  m.states.total fun s => 1 + (s.cfg.generation.raw.toNat : Int)

theorem restoreBudget_cases (b : PowerBudget) (m : BudgetManager) :
    ((∃ s, m.state? b.id = some s ∧ b.generation ≤ s.cfg.generation) ∧
      ∃ e, (restoreBudget b).exec m = (.error e, m)) ∨
    ((∀ s, m.state? b.id = some s → ¬ b.generation ≤ s.cfg.generation) ∧
      ∃ m', (restoreBudget b).exec m = (.ok (), m') ∧ m.issued < m'.issued) := by
  have exec : ∀ m', m.install b = (m', true) → (restoreBudget b).exec m = (.ok (), m') := by
    intro m' installed
    unfold restoreBudget
    rw [Stateful.exec_bind_of_ok (Stateful.exec_get m), installed]
    rfl
  rcases BudgetManager.install_cases m b with
    ⟨fresh, installed⟩ | ⟨s, found, older, refused⟩ | ⟨s, found, newer, installed⟩
  · refine .inr ⟨fun s found => ?_, _, exec _ installed, ?_⟩
    · rw [fresh] at found
      cases found
    · have absent : m.states.find? ((fun s : BudgetState => s.cfg.id)
          ⟨b, Watts.zero, Watts.zero⟩) = none := fresh
      unfold BudgetManager.issued
      rw [Keyed.total_emplace absent]
      omega
  · refine .inl ⟨⟨s, found, older⟩, .rejected, ?_⟩
    unfold restoreBudget
    rw [Stateful.exec_bind_of_ok (Stateful.exec_get m), refused]
    rfl
  · refine .inr ⟨fun other same => ?_, _, exec _ installed, ?_⟩
    · rw [found] at same
      rw [← Option.some.inj same]
      exact newer
    · have grows : s.cfg.generation.raw.toNat < b.generation.raw.toNat :=
        not_le.mp fun le => newer le
      unfold BudgetManager.issued
      rw [Keyed.total_modify found]
      dsimp only
      omega

theorem restoreReservation_cases (r : Reservation) (s : Restored) :
    (s.reservations.find? r.id ≠ none ∧ ∃ e, (restoreReservation r).exec s = (.error e, s)) ∨
    (s.reservations.find? r.id = none ∧ ∃ s', (restoreReservation r).exec s = (.ok (), s') ∧
      s.reservations.map.size < s'.reservations.map.size) := by
  rcases ReservationManager.restore_cases s.reservations r with
    ⟨taken, refused⟩ | ⟨free, accepted⟩
  · refine .inl ⟨taken, .rejected, ?_⟩
    unfold restoreReservation
    rw [Stateful.exec_bind_of_ok (Stateful.exec_get s), refused]
    rfl
  · refine .inr ⟨free, { s with
      reservations := ⟨s.reservations.map.emplace r⟩
      resIndex := s.resIndex.add ⟨r.id, r.budget, r.workload, r.state⟩
      budgets := reclaim s.budgets r }, ?_, ?_⟩
    · unfold restoreReservation
      rw [Stateful.exec_bind_of_ok (Stateful.exec_get s), accepted]
      rfl
    · show s.reservations.map.entries.length < (s.reservations.map.emplace r).entries.length
      rw [Keyed.entries_emplace free, List.length_append, List.length_singleton]
      omega

namespace Governor

variable {g : Governor} {now : Timestamp} {bytes rest : Bytes} {count : Nat}

/-! ## The sections as they follow each other -/

/-- `decode_state` from the meter section on. -/
def fromMeters (now : Timestamp) (bytes : Bytes) : Stateful Exit Governor Unit := do
  let rest ← decodeMeters now bytes
  rejectUnless rest.isEmpty

/-- `decode_state` from the reservation section on. -/
def fromReservations (now : Timestamp) (bytes : Bytes) : Stateful Exit Governor Unit := do
  let rest ← decodeReservations bytes
  fromMeters now rest

/-- `decode_state` from the budget section on. -/
def fromBudgets (now : Timestamp) (bytes : Bytes) : Stateful Exit Governor Unit := do
  let rest ← decodeBudgets bytes
  rejectUnless (← get).budgets.validHierarchy
  fromReservations now rest

theorem decodeSections_eq (now : Timestamp) (blob : Bytes) :
    decodeSections now blob = (do
      let (header, rest) ← read decodeHeader blob
      modify fun g => g.writeHeader header
      let policyId ← drawPolicyId
      let (policy, rest) ← read (decodePolicy policyId header) rest
      modify fun g => g.writePolicy policy
      fromBudgets now rest) := rfl

/-! ## The conditions -/

/-- Every workload of the meter records that are read already has the meter its
last record writes. -/
def MetersRestated (g : Governor) (now : Timestamp) (bytes : Bytes) : Prop :=
  ∀ count rest, decodeCount.run bytes = .ok (count, rest) → ∀ workload record,
    ((decodeMeter.collect count rest).reverse.find? fun record => record.1 = workload) =
      some record →
    g.workloadMeters.find? workload =
      some ⟨workload, EnergyMeter.blank.add record.2 .derived now⟩

/-- The first reservation is unreadable or its id is taken. -/
def FirstReservationRefused (g : Governor) (bytes : Bytes) : Prop :=
  ∀ r rest, decodeReservation.run bytes = .ok (r, rest) → g.reservations.find? r.id ≠ none

/-- The first budget is unreadable or not newer than the installed one. -/
def FirstBudgetRefused (g : Governor) (bytes : Bytes) : Prop :=
  ∀ b rest, decodeBudget.run bytes = .ok (b, rest) →
    ∃ s, g.budgets.state? b.id = some s ∧ b.generation ≤ s.cfg.generation

/-- No reservation is accepted, and the meters that follow are restated. -/
def NoTraceFromReservations (g : Governor) (now : Timestamp) (bytes : Bytes) : Prop :=
  ∀ count rest, decodeCount.run bytes = .ok (count, rest) →
    (count ≠ 0 → g.FirstReservationRefused rest) ∧ (count = 0 → g.MetersRestated now rest)

/-- No budget is accepted, and what follows leaves no trace. -/
def NoTraceFromBudgets (g : Governor) (now : Timestamp) (bytes : Bytes) : Prop :=
  ∀ count rest, decodeCount.run bytes = .ok (count, rest) →
    (count ≠ 0 → g.FirstBudgetRefused rest) ∧
    (count = 0 → g.budgets.validHierarchy = true → g.NoTraceFromReservations now rest)

/-- The blob fails before its first effective write: what is written of the
header and the policy is what the Governor has. -/
def LeavesNoTrace (g : Governor) (now : Timestamp) (blob : Bytes) : Prop :=
  ∀ header rest, decodeHeader.run blob = .ok (header, rest) →
    header.epoch = g.authority.epoch ∧ header.boot = g.authority.boot ∧
      header.node = g.cfg.node ∧
    ∀ policy rest', (decodePolicy ⟨g.ids.policy + 1⟩ header).run rest = .ok (policy, rest') →
      policy = g.policy ∧ g.NoTraceFromBudgets now rest'

/-! ## Section by section -/

theorem keeps_fromMeters {T : Type} {view : Governor → T}
    (ignores : ∀ g meters, view { g with workloadMeters := meters } = view g) (now : Timestamp)
    (bytes : Bytes) : Stateful.Keeps view (fromMeters now bytes) := by
  apply Stateful.keeps_bind (keeps_decodeMeters ignores now bytes)
  exact fun rest => keeps_rejectUnless _

theorem keeps_fromReservations {T : Type} {view : Governor → T}
    (meters : ∀ g meters, view { g with workloadMeters := meters } = view g)
    (restored : ∀ g s, view (writeRestored s g) = view g) (now : Timestamp) (bytes : Bytes) :
    Stateful.Keeps view (fromReservations now bytes) := by
  apply Stateful.keeps_bind (keeps_decodeReservations restored bytes)
  exact fun rest => keeps_fromMeters meters now rest

theorem keeps_fromBudgets {T : Type} {view : Governor → T}
    (meters : ∀ g meters, view { g with workloadMeters := meters } = view g)
    (restored : ∀ g s, view (writeRestored s g) = view g)
    (budgets : ∀ g budgets, view { g with budgets := budgets } = view g) (now : Timestamp)
    (bytes : Bytes) : Stateful.Keeps view (fromBudgets now bytes) := by
  apply Stateful.keeps_bind (keeps_decodeBudgets budgets bytes)
  intro rest
  apply Stateful.keeps_bind Stateful.keeps_get
  intro g
  apply Stateful.keeps_bind (keeps_rejectUnless _)
  exact fun _ => keeps_fromReservations meters restored now rest

theorem state_decodeMeters (counted : decodeCount.run bytes = .ok (count, rest)) :
    ((decodeMeters now bytes).exec g).2.workloadMeters =
      ((decodeMeter.collect count rest).map fun record : WorkloadId × Joules =>
        (⟨record.1, EnergyMeter.blank.add record.2 .derived now⟩ : WorkloadMeter)).foldl
          Keyed.assign g.workloadMeters := by
  have total : ∀ record meters, (restoreMeter now record).exec meters =
      (.ok (), meters.assign ⟨record.1, EnergyMeter.blank.add record.2 .derived now⟩) :=
    fun _ _ => rfl
  unfold decodeMeters read
  rw [counted, Stateful.exec_bind_of_ok (Stateful.exec_ofExcept _ _), Stateful.exec_zoom,
    List.foldl_map]
  exact ByteReader.state_sections decodeMeter (restoreMeter now) total count rest g.workloadMeters

theorem fromMeters_unchanged_iff :
    ((fromMeters now bytes).exec g).2.workloadMeters = g.workloadMeters ↔
      g.MetersRestated now bytes := by
  have final : ((fromMeters now bytes).exec g).2.workloadMeters =
      ((decodeMeters now bytes).exec g).2.workloadMeters :=
    Stateful.view_bind (fun rest => keeps_rejectUnless _) g
  rw [final]
  unfold MetersRestated
  cases counted : decodeCount.run bytes with
  | error e =>
      have unread : (decodeMeters now bytes).exec g = (.error e, g) := by
        unfold decodeMeters read
        rw [counted]
        rfl
      rw [unread]
      exact ⟨fun _ => nofun, fun _ => rfl⟩
  | ok read =>
      obtain ⟨count, rest⟩ := read
      rw [state_decodeMeters counted, Keyed.foldl_assign_eq_self_iff]
      simp only [← List.map_reverse, List.find?_map, Function.comp_def]
      constructor
      · intro stored count' rest' same workload record last
        obtain ⟨rfl, rfl⟩ := Prod.mk.inj (Except.ok.inj same)
        have found := stored workload ⟨record.1, EnergyMeter.blank.add record.2 .derived now⟩
          (by rw [last]; rfl)
        have named : record.1 = workload := by simpa using List.find?_some last
        rw [found, named]
      · intro restated workload meter last
        obtain ⟨record, found, rfl⟩ := Option.map_eq_some_iff.mp last
        have named : record.1 = workload := by simpa using List.find?_some found
        rw [restated count rest rfl workload record found, named]

/-- A reservation section adds nothing, stops at its first record, or adds a
reservation. -/
theorem decodeReservations_cases (counted : decodeCount.run bytes = .ok (count, rest)) :
    (count = 0 ∧ (decodeReservations bytes).exec g = (.ok rest, g)) ∨
    (count ≠ 0 ∧ (∃ e, (decodeReservations bytes).exec g = (.error e, g)) ∧
      g.FirstReservationRefused rest) ∨
    (count ≠ 0 ∧ ¬ g.FirstReservationRefused rest ∧
      ((decodeReservations bytes).exec g).2.reservations ≠ g.reservations) := by
  have exec : (decodeReservations bytes).exec g =
      (((ByteReader.sections decodeReservation restoreReservation count rest).exec
        g.restored).1,
      writeRestored ((ByteReader.sections decodeReservation restoreReservation count rest).exec
        g.restored).2 g) := by
    unfold decodeReservations read
    rw [counted]
    rfl
  rw [exec]
  have step : ∀ r s, (∃ e, (restoreReservation r).exec s = (.error e, s)) ∨
      ∃ s', (restoreReservation r).exec s = (.ok (), s') ∧
        s.reservations.map.size < s'.reservations.map.size := by
    intro r s
    rcases restoreReservation_cases r s with ⟨_, refused⟩ | ⟨_, accepted⟩
    · exact .inl refused
    · exact .inr accepted
  rcases ByteReader.sections_cases decodeReservation restoreReservation
    (fun s s' => s.reservations.map.size < s'.reservations.map.size)
    (fun _ _ _ => Nat.lt_trans) step count rest g.restored with
    ⟨none, same⟩ | ⟨some, ⟨e, stopped⟩, refused⟩ | ⟨some, ⟨r, after, s', read, applied⟩, more⟩
  · rw [same]
    exact .inl ⟨none, rfl⟩
  · rw [stopped]
    refine .inr (.inl ⟨some, ⟨e, rfl⟩, fun r after read => ?_⟩)
    obtain ⟨e', stops⟩ := refused r after read
    rcases restoreReservation_cases r g.restored with ⟨taken, _⟩ | ⟨_, _, accepted, _⟩
    · exact taken
    · rw [stops] at accepted
      cases accepted
  · refine .inr (.inr ⟨some, fun refused => ?_, fun same => ?_⟩)
    · have taken := refused r after read
      rcases restoreReservation_cases r g.restored with ⟨_, _, stops⟩ | ⟨free, _⟩
      · rw [stops] at applied
        cases applied
      · exact taken free
    · have size := congrArg (fun rm : ReservationManager => rm.map.size) same
      exact absurd size (Nat.ne_of_gt more)

/-- The same for the budget section. -/
theorem decodeBudgets_cases (counted : decodeCount.run bytes = .ok (count, rest)) :
    (count = 0 ∧ (decodeBudgets bytes).exec g = (.ok rest, g)) ∨
    (count ≠ 0 ∧ (∃ e, (decodeBudgets bytes).exec g = (.error e, g)) ∧
      g.FirstBudgetRefused rest) ∨
    (count ≠ 0 ∧ ¬ g.FirstBudgetRefused rest ∧
      ((decodeBudgets bytes).exec g).2.budgets ≠ g.budgets) := by
  have exec : (decodeBudgets bytes).exec g =
      (((ByteReader.sections decodeBudget restoreBudget count rest).exec g.budgets).1,
      { g with budgets :=
        ((ByteReader.sections decodeBudget restoreBudget count rest).exec g.budgets).2 }) := by
    unfold decodeBudgets read
    rw [counted]
    rfl
  rw [exec]
  have step : ∀ b m, (∃ e, (restoreBudget b).exec m = (.error e, m)) ∨
      ∃ m', (restoreBudget b).exec m = (.ok (), m') ∧ m.issued < m'.issued := by
    intro b m
    rcases restoreBudget_cases b m with ⟨_, refused⟩ | ⟨_, accepted⟩
    · exact .inl refused
    · exact .inr accepted
  rcases ByteReader.sections_cases decodeBudget restoreBudget (fun m m' => m.issued < m'.issued)
    (fun _ _ _ => Int.lt_trans) step count rest g.budgets with
    ⟨none, same⟩ | ⟨some, ⟨e, stopped⟩, refused⟩ | ⟨some, ⟨b, after, m', read, applied⟩, more⟩
  · rw [same]
    exact .inl ⟨none, rfl⟩
  · rw [stopped]
    refine .inr (.inl ⟨some, ⟨e, rfl⟩, fun b after read => ?_⟩)
    obtain ⟨e', stops⟩ := refused b after read
    rcases restoreBudget_cases b g.budgets with ⟨older, _⟩ | ⟨_, _, accepted, _⟩
    · exact older
    · rw [stops] at accepted
      cases accepted
  · refine .inr (.inr ⟨some, fun refused => ?_, fun same => ?_⟩)
    · obtain ⟨s, installed, older⟩ := refused b after read
      rcases restoreBudget_cases b g.budgets with ⟨_, _, stops⟩ | ⟨newer, _⟩
      · rw [stops] at applied
        cases applied
      · exact newer s installed older
    · rw [show ((ByteReader.sections decodeBudget restoreBudget count rest).exec g.budgets).2 =
        g.budgets from same] at more
      exact absurd more (lt_irrefl _)

theorem exec_of_uncounted {e : Exit} (uncounted : decodeCount.run bytes = .error e) :
    (fromReservations now bytes).exec g = (.error e, g) ∧
      (fromBudgets now bytes).exec g = (.error e, g) := by
  unfold fromReservations fromBudgets decodeReservations decodeBudgets read
  rw [uncounted]
  exact ⟨rfl, rfl⟩

/-- What the reservation section and the ones after it change. -/
def SameSections (g g' : Governor) : Prop :=
  g'.restored = g.restored ∧ g'.workloadMeters = g.workloadMeters

theorem fromReservations_unchanged_iff :
    g.SameSections ((fromReservations now bytes).exec g).2 ↔
      g.NoTraceFromReservations now bytes := by
  unfold NoTraceFromReservations SameSections
  cases counted : decodeCount.run bytes with
  | error e =>
      rw [(exec_of_uncounted counted).1]
      exact ⟨fun _ => nofun, fun _ => ⟨rfl, rfl⟩⟩
  | ok read =>
      obtain ⟨count, rest⟩ := read
      simp only [Except.ok.injEq, Prod.mk.injEq, and_imp, forall_apply_eq_imp_iff, forall_eq']
      rcases decodeReservations_cases (g := g) counted with
        ⟨none, read⟩ | ⟨some, ⟨e, stopped⟩, refused⟩ | ⟨some, accepted, changed⟩
      · have exec : (fromReservations now bytes).exec g = (fromMeters now rest).exec g :=
          Stateful.exec_bind_of_ok read _
        have kept : ((fromMeters now rest).exec g).2.restored = g.restored :=
          keeps_fromMeters (fun _ _ => rfl) now rest g
        rw [exec, fromMeters_unchanged_iff]
        exact ⟨fun same => ⟨fun some => absurd none some, fun _ => same.2⟩,
          fun noTrace => ⟨kept, noTrace.2 none⟩⟩
      · have exec : (fromReservations now bytes).exec g = (.error e, g) :=
          Stateful.exec_bind_of_error stopped _
        rw [exec]
        exact ⟨fun _ => ⟨fun _ => refused, fun none => absurd none some⟩, fun _ => ⟨rfl, rfl⟩⟩
      · have final : ((fromReservations now bytes).exec g).2.reservations =
            ((decodeReservations bytes).exec g).2.reservations :=
          Stateful.view_bind (fun rest => keeps_fromMeters (fun _ _ => rfl) now rest) g
        constructor
        · intro same
          have unchanged := congrArg Restored.reservations same.1
          exact absurd (final.symm.trans unchanged) changed
        · intro noTrace
          exact absurd (noTrace.1 some) accepted

/-- Claiming capacity again only follows an added reservation. -/
theorem fromReservations_budgets
    (same : ((fromReservations now bytes).exec g).2.reservations = g.reservations) :
    ((fromReservations now bytes).exec g).2.budgets = g.budgets := by
  cases counted : decodeCount.run bytes with
  | error e => rw [(exec_of_uncounted counted).1]
  | ok read =>
      obtain ⟨count, rest⟩ := read
      have final : ((fromReservations now bytes).exec g).2.restored =
          ((decodeReservations bytes).exec g).2.restored :=
        Stateful.view_bind (fun rest => keeps_fromMeters (fun _ _ => rfl) now rest) g
      rw [show ((fromReservations now bytes).exec g).2.reservations = _ from
        congrArg Restored.reservations final] at same
      rw [show ((fromReservations now bytes).exec g).2.budgets = _ from
        congrArg Restored.budgets final]
      rcases decodeReservations_cases (g := g) counted with
        ⟨_, read⟩ | ⟨_, ⟨e, stopped⟩, _⟩ | ⟨_, _, changed⟩
      · rw [read]
        rfl
      · rw [stopped]
        rfl
      · exact absurd same changed

theorem fromBudgets_unchanged_iff :
    g.SameSections ((fromBudgets now bytes).exec g).2 ↔ g.NoTraceFromBudgets now bytes := by
  unfold NoTraceFromBudgets
  cases counted : decodeCount.run bytes with
  | error e =>
      rw [(exec_of_uncounted counted).2]
      exact ⟨fun _ => nofun, fun _ => ⟨rfl, rfl⟩⟩
  | ok read =>
      obtain ⟨count, rest⟩ := read
      simp only [Except.ok.injEq, Prod.mk.injEq, and_imp, forall_apply_eq_imp_iff, forall_eq']
      rcases decodeBudgets_cases (g := g) counted with
        ⟨none, read⟩ | ⟨some, ⟨e, stopped⟩, refused⟩ | ⟨some, accepted, changed⟩
      · have exec : (fromBudgets now bytes).exec g =
            (rejectUnless g.budgets.validHierarchy >>= fun _ => fromReservations now rest).exec g :=
          Stateful.exec_bind_of_ok read _
        rw [exec]
        cases valid : g.budgets.validHierarchy with
        | false => exact ⟨fun _ => ⟨fun some => absurd none some, nofun⟩, fun _ => ⟨rfl, rfl⟩⟩
        | true =>
            rw [← fromReservations_unchanged_iff]
            exact ⟨fun same => ⟨fun some => absurd none some, fun _ _ => same⟩,
              fun noTrace => noTrace.2 none rfl⟩
      · have exec : (fromBudgets now bytes).exec g = (.error e, g) :=
          Stateful.exec_bind_of_error stopped _
        rw [exec]
        exact ⟨fun _ => ⟨fun _ => refused, fun none => absurd none some⟩, fun _ => ⟨rfl, rfl⟩⟩
      · constructor
        · rintro ⟨same, _⟩
          exfalso
          have kept : ((decodeBudgets bytes).exec g).2.reservations = g.reservations :=
            keeps_decodeBudgets (fun _ _ => rfl) bytes g
          apply changed
          unfold fromBudgets at same
          rw [Stateful.exec_bind] at same
          generalize (decodeBudgets bytes).exec g = ended at same kept
          obtain ⟨result, g₁⟩ := ended
          cases result with
          | error e => exact congrArg Restored.budgets same
          | ok rest' =>
              change Governor.restored ((rejectUnless g₁.budgets.validHierarchy >>= fun _ =>
                fromReservations now rest').exec g₁).2 = g.restored at same
              cases valid : g₁.budgets.validHierarchy with
              | false =>
                  rw [valid] at same
                  exact congrArg Restored.budgets same
              | true =>
                  rw [valid] at same
                  have budgets := fromReservations_budgets
                    ((congrArg Restored.reservations same).trans kept.symm)
                  exact budgets.symm.trans (congrArg Restored.budgets same)
        · intro noTrace
          exact absurd (noTrace.1 some) accepted

/-! ## The whole recovery -/

theorem sameRecovered_iff {g' : Governor} :
    SameRecovered g g' ↔ (g'.authority.epoch = g.authority.epoch ∧
      g'.authority.boot = g.authority.boot ∧ g'.cfg.node = g.cfg.node) ∧
      g'.policy = g.policy ∧ g.SameSections g' := by
  constructor
  · rintro ⟨epoch, boot, node, policy, budgets, reservations, resIndex, meters⟩
    refine ⟨⟨epoch, boot, node⟩, policy, ?_, meters⟩
    unfold restored
    rw [budgets, reservations, resIndex]
  · rintro ⟨⟨epoch, boot, node⟩, policy, restored, meters⟩
    exact ⟨epoch, boot, node, policy, congrArg Restored.budgets restored,
      congrArg Restored.reservations restored, congrArg Restored.resIndex restored, meters⟩

/-- The Governor after the header and the two policy ids it draws. -/
def withHeader (g : Governor) (header : StateHeader) : Governor :=
  { g.writeHeader header with ids := g.ids.allocatePolicy.2.allocatePolicy.2 }

/-- The blob ends in the header, in the policy, or reaches the sections. -/
theorem exec_decodeSections_cases (g : Governor) (now : Timestamp) (blob : Bytes) :
    (∃ e, decodeHeader.run blob = .error e ∧ (decodeSections now blob).exec g = (.error e, g)) ∨
    ∃ header rest, decodeHeader.run blob = .ok (header, rest) ∧
      ((∃ e, (decodePolicy ⟨g.ids.policy + 1⟩ header).run rest = .error e ∧
        (decodeSections now blob).exec g = (.error e, g.withHeader header)) ∨
      ∃ policy rest', (decodePolicy ⟨g.ids.policy + 1⟩ header).run rest = .ok (policy, rest') ∧
        (decodeSections now blob).exec g =
          (fromBudgets now rest').exec ((g.withHeader header).writePolicy policy)) := by
  rw [decodeSections_eq]
  unfold Governor.read
  cases headerRead : decodeHeader.run blob with
  | error e => exact .inl ⟨e, rfl, rfl⟩
  | ok read =>
      refine .inr ⟨read.1, read.2, rfl, ?_⟩
      rw [Stateful.exec_bind_of_ok (Stateful.exec_ofExcept _ _),
        Stateful.exec_bind_of_ok (Stateful.exec_modify _ _)]
      have drawn : drawPolicyId.exec (g.writeHeader read.1) =
        (.ok ⟨g.ids.policy + 1⟩, g.withHeader read.1) := rfl
      rw [Stateful.exec_bind_of_ok drawn]
      cases policyRead : (decodePolicy ⟨g.ids.policy + 1⟩ read.1).run read.2 with
      | error e =>
          exact .inl ⟨e, rfl, Stateful.exec_bind_of_error (Stateful.exec_ofExcept _ _) _⟩
      | ok decoded =>
          refine .inr ⟨decoded.1, decoded.2, rfl, ?_⟩
          rw [Stateful.exec_bind_of_ok (Stateful.exec_ofExcept _ _),
            Stateful.exec_bind_of_ok (Stateful.exec_modify _ _)]

/-- What the sections after the policy leave alone. -/
def identity (g : Governor) : AuthorityGate × GovernorConfig × PowerPolicy :=
  (g.authority, g.cfg, g.policy)

theorem keeps_identity (now : Timestamp) (bytes : Bytes) :
    Stateful.Keeps identity (fromBudgets now bytes) :=
  keeps_fromBudgets (fun _ _ => rfl) (fun _ _ => rfl) (fun _ _ => rfl) now bytes

/-- From a Governor that has the sections of `g`, what it differs in before and
what the sections change decide together. -/
theorem fromBudgets_sameRecovered_iff {g₁ : Governor} (before : g.SameSections g₁) :
    SameRecovered g ((fromBudgets now bytes).exec g₁).2 ↔
      (g₁.authority.epoch = g.authority.epoch ∧ g₁.authority.boot = g.authority.boot ∧
        g₁.cfg.node = g.cfg.node) ∧ g₁.policy = g.policy ∧ g₁.NoTraceFromBudgets now bytes := by
  have kept := keeps_identity now bytes g₁
  rw [← fromBudgets_unchanged_iff, sameRecovered_iff]
  generalize ((fromBudgets now bytes).exec g₁).2 = final at kept
  unfold identity at kept
  obtain ⟨authority, cfg, policy⟩ : final.authority = g₁.authority ∧ final.cfg = g₁.cfg ∧
      final.policy = g₁.policy := by simpa using kept
  rw [authority, cfg, policy]
  unfold SameSections
  rw [before.1, before.2]

theorem decodeSections_unchanged_iff {blob : Bytes} :
    SameRecovered g ((decodeSections now blob).exec g).2 ↔ g.LeavesNoTrace now blob := by
  unfold LeavesNoTrace
  rcases exec_decodeSections_cases g now blob with ⟨e, unread, exec⟩ | ⟨header, rest, read, after⟩
  · rw [unread, exec]
    exact ⟨fun _ => nofun, fun _ => sameRecovered_iff.mpr ⟨⟨rfl, rfl, rfl⟩, rfl, rfl, rfl⟩⟩
  rw [read]
  simp only [Except.ok.injEq, Prod.mk.injEq, and_imp, forall_apply_eq_imp_iff, forall_eq']
  rcases after with ⟨e, unread, exec⟩ | ⟨policy, rest', read', exec⟩
  · rw [exec, sameRecovered_iff]
    constructor
    · rintro ⟨⟨epoch, boot, node⟩, _⟩
      refine ⟨epoch, boot, node, fun policy rest' read' => ?_⟩
      rw [unread] at read'
      cases read'
    · rintro ⟨epoch, boot, node, _⟩
      exact ⟨⟨epoch, boot, node⟩, rfl, rfl, rfl⟩
  · have sections : g.SameSections ((g.withHeader header).writePolicy policy) := ⟨rfl, rfl⟩
    rw [read', exec, fromBudgets_sameRecovered_iff sections]
    simp only [Except.ok.injEq, Prod.mk.injEq, and_imp, forall_apply_eq_imp_iff, forall_eq']
    exact and_assoc.trans (and_congr Iff.rfl and_assoc)

/-- A load that returns `false` changes nothing exactly when the blob of the file
leaves no trace; a file without a valid envelope has none. -/
theorem failed_load_unchanged_iff {g' : Governor} {file : Option Bytes}
    (failed : g.load file now = (.ok false, g')) :
    SameRecovered g g' ↔ ∀ bytes envelope, file = some bytes →
      decodeEnvelope bytes = .ok envelope → g.LeavesNoTrace now envelope.blob := by
  have same : SameRecovered g g := sameRecovered_iff.mpr ⟨⟨rfl, rfl, rfl⟩, rfl, rfl, rfl⟩
  cases file with
  | none =>
      cases failed
      exact ⟨fun _ _ _ => nofun, fun _ => same⟩
  | some bytes =>
      unfold load at failed
      dsimp only at failed
      cases decoded : decodeEnvelope bytes with
      | error text =>
          rw [decoded] at failed
          cases failed
          refine ⟨fun _ other envelope => ?_, fun _ => same⟩
          rintro ⟨⟩ valid
          rw [decoded] at valid
          cases valid
      | ok envelope =>
          rw [decoded] at failed
          have state : ((decodeSections now envelope.blob).exec g).2 = g' := by
            change concludeLoad ((decodeState now envelope.blob).exec g) = _ at failed
            unfold decodeState at failed
            rw [Stateful.exec_bind] at failed
            generalize (decodeSections now envelope.blob).exec g = ended at failed
            obtain ⟨result, left⟩ := ended
            cases result with
            | ok _ => cases failed
            | error exit =>
                cases exit with
                | rejected =>
                    cases failed
                    rfl
                | threw fault => cases failed
          rw [← state, decodeSections_unchanged_iff]
          constructor
          · rintro noTrace _ other ⟨⟩ valid
            rw [decoded] at valid
            rw [← Except.ok.inj valid]
            exact noTrace
          · intro noTrace
            exact noTrace bytes envelope rfl decoded

/-- Epoch, boot 1, node 1, no policy generation and no name, and nothing after
them. -/
def headerOnly (epoch : UInt64) : Bytes :=
  BinWriter.u64 epoch ++ BinWriter.u64 1 ++ BinWriter.u64 1 ++ BinWriter.u64 0 ++ BinWriter.u32 0

/-- The file with that blob. -/
def headerOnlyFile (epoch : UInt64) : Bytes :=
  let out := envelopeHeader ⟨persistSchema, headerOnly epoch⟩ ++ headerOnly epoch
  out ++ BinWriter.u32 (crc32 out)

/-- A Governor of epoch 1, boot 1 and node 1. -/
def firstGovernor : Governor := .construct ⟨⟨1⟩, ⟨1⟩, .first⟩ .start

/-- A load that answers false, paired with the Governor it leaves. -/
theorem load_eq_of_false {g : Governor} {file : Option Bytes} {now : Timestamp}
    (refused : (g.load file now).1 = .ok false) :
    g.load file now = (.ok false, (g.load file now).2) :=
  Prod.ext refused rfl

/-- A header that restates what the Governor has, and a truncated policy. -/
theorem failed_load_unchanged_iff_restated :
    SameRecovered firstGovernor
      (firstGovernor.load (some (headerOnlyFile 1)) Timestamp.zero).2 := by
  have failed : (firstGovernor.load (some (headerOnlyFile 1)) Timestamp.zero).1 = .ok false := by
    decide +kernel
  have valid : decodeEnvelope (headerOnlyFile 1) = .ok ⟨persistSchema, headerOnly 1⟩ := by
    decide +kernel
  have header : decodeHeader.run (headerOnly 1) = .ok (⟨⟨1⟩, ⟨1⟩, ⟨1⟩, ⟨0⟩, []⟩, []) := by
    decide +kernel
  apply (failed_load_unchanged_iff (load_eq_of_false failed)).mpr
  rintro bytes envelope ⟨⟩ decoded
  rw [valid] at decoded
  rw [← Except.ok.inj decoded]
  intro stored rest read
  rw [header] at read
  obtain ⟨rfl, rfl⟩ := Prod.mk.inj (Except.ok.inj read)
  refine ⟨rfl, rfl, rfl, fun policy rest' read' => ?_⟩
  cases read'

/-- The same file with epoch 9 is refused and has changed the epoch. -/
theorem failed_load_changes_epoch :
    ¬ ∀ (g : Governor) (file : Option Bytes) (now : Timestamp) (g' : Governor),
      g.load file now = (.ok false, g') → SameRecovered g g' := by
  intro claimed
  have failed : (firstGovernor.load (some (headerOnlyFile 9)) Timestamp.zero).1 = .ok false := by
    decide +kernel
  have epoch := (claimed firstGovernor _ _ _ (load_eq_of_false failed)).epoch
  have written : (firstGovernor.load (some (headerOnlyFile 9)) Timestamp.zero).2.authority.epoch =
      ⟨9⟩ := by decide +kernel
  rw [written] at epoch
  cases epoch

end Governor

end PowerGovernor
