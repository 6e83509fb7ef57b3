import PowerGovernor.Persistence.Recovery
import PowerGovernor.Persistence.RoundTrip

/-!
Loading a saved file into a fresh Governor.

Owns the state each section of a saved blob leaves behind, and the outcome of the
whole load: it succeeds exactly when no section has more than 100000 records and
the saved budgets pass the hierarchy check, which the operations that install
them do not make.
-/

set_option autoImplicit false

namespace PowerGovernor

/-! ## Restoring records with new ids -/

/-- A budget as the recovery installs it. -/
def unbooked (b : PowerBudget) : BudgetState := ⟨b, Watts.zero, Watts.zero⟩

/-- Budgets with new ids are all installed, none of them booked. -/
theorem exec_restoreBudgets {m : BudgetManager} {bs : List PowerBudget}
    (fresh : m.states.Fresh (bs.map unbooked)) :
    (ByteReader.applyAll restoreBudget bs).exec m =
      (.ok (), bs.foldl (fun m b => ⟨m.states.emplace (unbooked b)⟩) m) := by
  apply ByteReader.exec_applyAll (fun m bs => m.states.Fresh (bs.map unbooked)) _ fresh
  intro b rest m fresh
  refine ⟨?_, fresh.tail⟩
  have absent : m.state? b.id = none := fresh.head
  have installed : m.install b = (⟨m.states.emplace (unbooked b)⟩, true) := by
    unfold BudgetManager.install
    rw [absent]
    rfl
  unfold restoreBudget
  rw [Stateful.exec_bind_of_ok (Stateful.exec_get m), installed]
  rfl

/-- What a reservation of the file adds. -/
def Restored.add (s : Restored) (r : Reservation) : Restored where
  reservations := ⟨s.reservations.map.emplace r⟩
  resIndex := s.resIndex.add ⟨r.id, r.budget, r.workload, r.state⟩
  budgets := reclaim s.budgets r

/-- Reservations with new ids are all restored, and claim their capacity. -/
theorem exec_restoreReservations {s : Restored} {rs : List Reservation}
    (fresh : s.reservations.map.Fresh rs) :
    (ByteReader.applyAll restoreReservation rs).exec s = (.ok (), rs.foldl Restored.add s) := by
  apply ByteReader.exec_applyAll (fun s rs => s.reservations.map.Fresh rs) _ fresh
  intro r rest s fresh
  refine ⟨?_, fresh.tail⟩
  have absent : s.reservations.map.contains r.id = false := by
    unfold Keyed.contains
    rw [fresh.head]
    rfl
  have restored : s.reservations.restore r = (⟨s.reservations.map.emplace r⟩, true) := by
    unfold ReservationManager.restore
    rw [absent]
    rfl
  unfold restoreReservation
  rw [Stateful.exec_bind_of_ok (Stateful.exec_get s), restored]
  rfl

/-- A workload's meter as the recovery writes it. -/
def restoredMeter (now : Timestamp) (record : WorkloadId × Joules) : WorkloadMeter :=
  ⟨record.1, EnergyMeter.blank.add record.2 .derived now⟩

theorem exec_restoreMeters (now : Timestamp) (meters : Keyed WorkloadMeter.workload)
    (records : List (WorkloadId × Joules)) :
    (ByteReader.applyAll (restoreMeter now) records).exec meters =
      (.ok (), records.foldl (fun meters record => meters.assign (restoredMeter now record))
        meters) :=
  ByteReader.exec_applyAll (fun _ _ => True) (fun _ _ _ _ => ⟨rfl, trivial⟩) trivial

namespace Governor

/-! ## What the sections of a saved blob leave behind -/

/-- The budgets of the file, none of them booked. -/
def storedBudgets (g : Governor) : BudgetManager :=
  (g.budgets.snapshots.map PowerBudget.stored).foldl
    (fun m b => ⟨m.states.emplace (unbooked b)⟩) .empty

/-- The reservations of the file in the order of their ids, with their index
entries and the capacity they claim. -/
def storedReservations (g : Governor) : Restored :=
  (g.reservations.all.map Reservation.stored).foldl Restored.add
    ⟨.empty, .empty, g.storedBudgets⟩

def storedMeters (g : Governor) (now : Timestamp) : Keyed WorkloadMeter.workload :=
  (g.workloadMeters.entries.map WorkloadMeter.stored).foldl
    (fun meters record => meters.assign (restoredMeter now record)) Keyed.empty

variable {g : Governor}

theorem fresh_unbooked (g : Governor) :
    BudgetManager.empty.states.Fresh
      ((g.budgets.snapshots.map PowerBudget.stored).map unbooked) := by
  apply Keyed.fresh_empty
  have same : ((g.budgets.snapshots.map PowerBudget.stored).map unbooked).map
      (fun s : BudgetState => s.cfg.id) = g.budgets.states.entries.map fun s => s.cfg.id := by
    unfold BudgetManager.snapshots
    simp only [List.map_map]
    rfl
  rw [same]
  exact g.budgets.states.distinct

theorem states_foldl_unbooked (m : BudgetManager) (bs : List PowerBudget) :
    (bs.foldl (fun m b => (⟨m.states.emplace (unbooked b)⟩ : BudgetManager)) m).states =
      (bs.map unbooked).foldl Keyed.emplace m.states := by
  rw [List.foldl_map]
  exact (List.foldl_hom BudgetManager.states fun _ _ => rfl).symm

theorem entries_storedBudgets (g : Governor) :
    g.storedBudgets.states.entries =
      g.budgets.states.entries.map fun s => unbooked s.cfg.stored := by
  have states : g.storedBudgets.states =
      ((g.budgets.snapshots.map PowerBudget.stored).map unbooked).foldl Keyed.emplace
        BudgetManager.empty.states := states_foldl_unbooked _ _
  rw [states, Keyed.entries_foldl_emplace g.fresh_unbooked]
  unfold BudgetManager.snapshots
  simp only [List.map_map]
  rfl

theorem snapshots_storedBudgets (g : Governor) :
    g.storedBudgets.snapshots = g.budgets.snapshots.map PowerBudget.stored := by
  unfold BudgetManager.snapshots
  rw [entries_storedBudgets, List.map_map, List.map_map]
  rfl

theorem state?_storedBudgets (g : Governor) (k : BudgetId) :
    g.storedBudgets.state? k = (g.budgets.state? k).map fun s => unbooked s.cfg.stored := by
  apply Keyed.find?_of_perm_map
  · exact fun _ => rfl
  · rw [entries_storedBudgets]

theorem fresh_stored (g : Governor) :
    ReservationManager.empty.map.Fresh (g.reservations.all.map Reservation.stored) := by
  apply Keyed.fresh_empty
  rw [List.map_map]
  have sorted : g.reservations.all.Perm g.reservations.map.entries := List.perm_insertionSort _ _
  exact (sorted.map Reservation.id).nodup_iff.mpr g.reservations.map.distinct

theorem reservations_foldl_add (s : Restored) (rs : List Reservation) :
    (rs.foldl Restored.add s).reservations.map = rs.foldl Keyed.emplace s.reservations.map :=
  (List.foldl_hom (fun s : Restored => s.reservations.map) fun _ _ => rfl).symm

theorem find?_storedReservations (g : Governor) (id : ReservationId) :
    g.storedReservations.reservations.find? id =
      (g.reservations.find? id).map Reservation.stored := by
  apply Keyed.find?_of_perm_map
  · exact fun _ => rfl
  · unfold storedReservations
    rw [reservations_foldl_add, Keyed.entries_foldl_emplace g.fresh_stored]
    exact (List.perm_insertionSort _ _).map _

theorem budgets_storedReservations (g : Governor) :
    g.storedReservations.budgets =
      g.reservations.all.foldl (fun m r => reclaim m r.stored) g.storedBudgets := by
  have budgets : g.storedReservations.budgets =
      (g.reservations.all.map Reservation.stored).foldl reclaim g.storedBudgets :=
    (List.foldl_hom Restored.budgets fun _ _ => rfl).symm
  rw [budgets, List.foldl_map]

/-! ## The hierarchy check -/

/-- An invalid parent ends a climb like none. -/
theorem climb_filter (m : BudgetManager) (self : BudgetId) (steps : Nat) (cur : Option BudgetId) :
    m.climb self steps (cur.filter StrongId.isValid) = m.climb self steps cur := by
  cases cur with
  | none => rfl
  | some b =>
      cases valid : b.isValid with
      | true => rw [Option.filter_some, if_pos valid]
      | false =>
          rw [Option.filter_some, valid, if_neg Bool.false_ne_true]
          unfold BudgetManager.climb
          rw [valid]
          rfl

/-- A climb depends only on the valid parents. -/
theorem climb_congr {m m' : BudgetManager}
    (same : ∀ k, (m'.state? k).map (fun s => s.cfg.parent.filter StrongId.isValid) =
      (m.state? k).map fun s => s.cfg.parent.filter StrongId.isValid)
    (self : BudgetId) (steps : Nat) (cur : Option BudgetId) :
    m'.climb self steps cur = m.climb self steps cur := by
  induction steps generalizing cur with
  | zero =>
      cases cur with
      | none => rfl
      | some b =>
          have present := same b
          unfold BudgetManager.climb
          cases found : m.state? b <;> cases found' : m'.state? b <;>
            simp [found, found'] at present ⊢
  | succ steps inductionHypothesis =>
      cases cur with
      | none => rfl
      | some b =>
          have present := same b
          unfold BudgetManager.climb
          cases found : m.state? b with
          | none =>
              have absent : m'.state? b = none := by simpa [found] using present
              rw [absent]
          | some s =>
              rw [found] at present
              obtain ⟨s', found', parents⟩ := Option.map_eq_some_iff.mp present
              rw [found']
              dsimp only
              rw [← climb_filter m', parents, climb_filter, inductionHypothesis]

/-- The saved budgets pass the check exactly when the original ones do. -/
theorem validHierarchy_storedBudgets (g : Governor) :
    g.storedBudgets.validHierarchy = g.budgets.validHierarchy := by
  have has : g.storedBudgets.has = g.budgets.has := by
    funext k
    show (g.storedBudgets.state? k).isSome = (g.budgets.state? k).isSome
    rw [state?_storedBudgets, Option.isSome_map]
  have climbs : ∀ b : PowerBudget, g.storedBudgets.climb b.id 256 b.stored.parent =
      g.budgets.climb b.id 256 b.parent := by
    intro b
    rw [← climb_filter, b.filter_stored_parent, climb_filter]
    apply climb_congr
    intro k
    rw [state?_storedBudgets, Option.map_map]
    congr 1
    funext s
    exact s.cfg.filter_stored_parent
  unfold BudgetManager.validHierarchy
  rw [snapshots_storedBudgets, has, List.all_map, List.all_map]
  congr 1
  · congr 1
    funext b
    exact congrArg (fun parent => Option.all g.budgets.has parent) b.filter_stored_parent
  · congr 1
    funext b
    exact climbs b

/-! ## The whole load -/

/-- The sections of a Governor that has restored nothing yet. -/
structure Blank (g : Governor) : Prop where
  budgets : g.budgets = .empty
  restored : g.restored = ⟨.empty, .empty, .empty⟩
  workloadMeters : g.workloadMeters = Keyed.empty

/-- What the decoder requires of a saved state. -/
structure Loadable (g : Governor) : Prop where
  budgets : g.budgets.snapshots.length ≤ 100000
  hierarchy : g.budgets.validHierarchy = true
  reservations : g.reservations.all.length ≤ 100000
  meters : g.workloadMeters.entries.length ≤ 100000

/-- A blank Governor with the sections of a saved one. -/
def withSections (g₀ g : Governor) (now : Timestamp) : Governor :=
  { writeRestored g.storedReservations g₀ with workloadMeters := g.storedMeters now }

variable {g₀ : Governor} {now : Timestamp}

theorem exec_decodeBudgets_saved (blank : Blank g₀) (parts : SavedParts g)
    (small : parts.budgets.length ≤ persistMax) (rest : Bytes) :
    (decodeBudgets (parts.budgets ++ rest)).exec g₀ =
      if 100000 < g.budgets.snapshots.length then (.error .rejected, g₀)
      else (.ok rest, { g₀ with budgets := g.storedBudgets }) := by
  have applied : (ByteReader.applyAll restoreBudget
      (g.budgets.snapshots.map PowerBudget.stored)).exec g₀.budgets =
        (.ok (), g.storedBudgets) := by
    rw [blank.budgets]
    exact exec_restoreBudgets g.fresh_unbooked
  exact exec_counted encodes_budget (fun _ => concat_u64_ne_nil _ _) parts.budgetsOk small applied
    rest

theorem exec_decodeReservations_saved {g₁ : Governor}
    (blank : g₁.restored = ⟨.empty, .empty, g.storedBudgets⟩) (parts : SavedParts g)
    (small : parts.reservations.length ≤ persistMax) (rest : Bytes) :
    (decodeReservations (parts.reservations ++ rest)).exec g₁ =
      if 100000 < g.reservations.all.length then (.error .rejected, g₁)
      else (.ok rest, writeRestored g.storedReservations g₁) := by
  have applied : (ByteReader.applyAll restoreReservation
      (g.reservations.all.map Reservation.stored)).exec g₁.restored =
        (.ok (), g.storedReservations) := by
    rw [blank]
    exact exec_restoreReservations g.fresh_stored
  exact exec_counted encodes_reservation (fun _ => concat_u64_ne_nil _ _) parts.reservationsOk
    small applied rest

theorem exec_decodeMeters_saved (now : Timestamp) {g₁ : Governor}
    (blank : g₁.workloadMeters = Keyed.empty)
    (parts : SavedParts g) (small : parts.meters.length ≤ persistMax) (rest : Bytes) :
    (decodeMeters now (parts.meters ++ rest)).exec g₁ =
      if 100000 < g.workloadMeters.entries.length then (.error .rejected, g₁)
      else (.ok rest, { g₁ with workloadMeters := g.storedMeters now }) := by
  have applied : (ByteReader.applyAll (restoreMeter now)
      (g.workloadMeters.entries.map WorkloadMeter.stored)).exec g₁.workloadMeters =
        (.ok (), g.storedMeters now) := by
    rw [blank]
    exact exec_restoreMeters now _ _
  exact exec_counted encodes_meter (fun _ => concat_u64_ne_nil _ _) parts.metersOk small applied
    rest

/-- The saved sections are restored, or refused for their size or their hierarchy. -/
theorem exec_fromBudgets_saved (blank : Blank g₀) (parts : SavedParts g)
    (small : parts.blob.length ≤ persistMax) :
    (g.Loadable ∧ (fromBudgets now (parts.budgets ++ (parts.reservations ++ parts.meters))).exec
      g₀ = (.ok (), withSections g₀ g now)) ∨
    (¬ g.Loadable ∧ ∃ g', (fromBudgets now
      (parts.budgets ++ (parts.reservations ++ parts.meters))).exec g₀ =
        (.error .rejected, g')) := by
  unfold SavedParts.blob at small
  simp only [List.length_append] at small
  have budgets := exec_decodeBudgets_saved blank parts (by omega)
    (parts.reservations ++ parts.meters)
  unfold fromBudgets
  by_cases manyBudgets : 100000 < g.budgets.snapshots.length
  · rw [if_pos manyBudgets] at budgets
    exact .inr ⟨fun loadable => absurd loadable.budgets (not_le.mpr manyBudgets), _,
      Stateful.exec_bind_of_error budgets _⟩
  rw [if_neg manyBudgets] at budgets
  rw [Stateful.exec_bind_of_ok budgets, Stateful.exec_bind_of_ok (Stateful.exec_get _)]
  dsimp only
  rw [validHierarchy_storedBudgets]
  cases valid : g.budgets.validHierarchy with
  | false =>
      refine .inr ⟨fun loadable => ?_, _, rfl⟩
      rw [loadable.hierarchy] at valid
      cases valid
  | true =>
      show _ ∧ (fromReservations now (parts.reservations ++ parts.meters)).exec _ = _ ∨ _ ∧
        ∃ g', (fromReservations now (parts.reservations ++ parts.meters)).exec _ = _
      have restored : ({ g₀ with budgets := g.storedBudgets } : Governor).restored =
          ⟨.empty, .empty, g.storedBudgets⟩ := by
        have nothing := blank.restored
        unfold Governor.restored at nothing ⊢
        rw [(Restored.mk.inj nothing).1, (Restored.mk.inj nothing).2.1]
      have reservations := exec_decodeReservations_saved restored parts (by omega) parts.meters
      unfold fromReservations
      by_cases manyReservations : 100000 < g.reservations.all.length
      · rw [if_pos manyReservations] at reservations
        exact .inr ⟨fun loadable => absurd loadable.reservations (not_le.mpr manyReservations), _,
          Stateful.exec_bind_of_error reservations _⟩
      rw [if_neg manyReservations] at reservations
      rw [Stateful.exec_bind_of_ok reservations]
      have noMeters : (writeRestored g.storedReservations
          { g₀ with budgets := g.storedBudgets }).workloadMeters = Keyed.empty :=
        blank.workloadMeters
      have meters := exec_decodeMeters_saved now noMeters parts (by omega) []
      rw [List.append_nil] at meters
      unfold fromMeters
      by_cases manyMeters : 100000 < g.workloadMeters.entries.length
      · rw [if_pos manyMeters] at meters
        exact .inr ⟨fun loadable => absurd loadable.meters (not_le.mpr manyMeters), _,
          Stateful.exec_bind_of_error meters _⟩
      rw [if_neg manyMeters] at meters
      rw [Stateful.exec_bind_of_ok meters]
      exact .inl ⟨⟨not_lt.mp manyBudgets, valid, not_lt.mp manyReservations, not_lt.mp manyMeters⟩,
        rfl⟩

/-- What a Governor is once it has loaded a saved one. -/
def reloaded (g₀ g : Governor) (now : Timestamp) : Governor :=
  (withSections ((g₀.withHeader (storedHeader g)).writePolicy
    (storedPolicy g ⟨g₀.ids.policy + 1⟩)) g now).invalidateLiveTelemetry

theorem blank_construct (cfg : GovernorConfig) (ids : Allocators) : Blank (construct cfg ids) :=
  ⟨rfl, rfl, rfl⟩

/-- Loading a saved file succeeds exactly for what the decoder accepts. -/
theorem load_saved (blank : Blank g₀) {bytes : Bytes} (saved : g.save = .ok bytes) :
    (g.Loadable ∧ g₀.load (some bytes) now = (.ok true, reloaded g₀ g now)) ∨
    (¬ g.Loadable ∧ (g₀.load (some bytes) now).1 = .ok false) := by
  obtain ⟨parts, enveloped, small⟩ := save_eq_ok saved
  have header := encodes_header g parts.header parts.headerOk
    (parts.caps ++ (parts.budgets ++ (parts.reservations ++ parts.meters)))
  have policy := encodes_caps g ⟨g₀.ids.policy + 1⟩ parts.caps parts.capsOk
    (parts.budgets ++ (parts.reservations ++ parts.meters))
  have sections : (decodeSections now parts.blob).exec g₀ =
      (fromBudgets now (parts.budgets ++ (parts.reservations ++ parts.meters))).exec
        ((g₀.withHeader (storedHeader g)).writePolicy (storedPolicy g ⟨g₀.ids.policy + 1⟩)) := by
    rcases exec_decodeSections_cases g₀ now parts.blob with
      ⟨e, unread, _⟩ | ⟨other, rest, read, after⟩
    · cases unread.symm.trans header
    obtain ⟨rfl, rfl⟩ := Prod.mk.inj (Except.ok.inj (read.symm.trans header))
    rcases after with ⟨e, unread, _⟩ | ⟨otherPolicy, rest', read', exec⟩
    · cases unread.symm.trans policy
    obtain ⟨rfl, rfl⟩ := Prod.mk.inj (Except.ok.inj (read'.symm.trans policy))
    exact exec
  have start : Blank ((g₀.withHeader (storedHeader g)).writePolicy
      (storedPolicy g ⟨g₀.ids.policy + 1⟩)) :=
    ⟨blank.budgets, blank.restored, blank.workloadMeters⟩
  unfold load
  dsimp only
  rw [enveloped]
  dsimp only
  unfold decodeState
  rw [Stateful.exec_bind, sections]
  rcases exec_fromBudgets_saved start parts small with ⟨loadable, exec⟩ | ⟨refused, g', exec⟩
  · rw [exec]
    exact .inl ⟨loadable, rfl⟩
  · rw [exec]
    exact .inr ⟨refused, rfl⟩

/-- A fresh Governor that has loaded a saved file. -/
theorem eq_reloaded {bytes : Bytes} (saved : g.save = .ok bytes) {cfg : GovernorConfig}
    {ids : Allocators} {g₂ : Governor}
    (loaded : (construct cfg ids).load (some bytes) now = (.ok true, g₂)) :
    g₂ = reloaded (construct cfg ids) g now := by
  rcases load_saved (blank_construct cfg ids) saved with ⟨_, accepted⟩ | ⟨_, refused⟩
  · exact congrArg Prod.snd (loaded.symm.trans accepted)
  · rw [loaded] at refused
    cases refused

/-- A fresh Governor loads what was saved exactly when the saved state is within
the limits of the decoder. -/
theorem load_saved_iff {bytes : Bytes} (saved : g.save = .ok bytes) (cfg : GovernorConfig)
    (ids : Allocators) (now : Timestamp) :
    ((construct cfg ids).load (some bytes) now).1 = .ok true ↔ g.Loadable := by
  rcases load_saved (blank_construct cfg ids) saved with
    ⟨loadable, outcome⟩ | ⟨refused, outcome⟩
  · rw [outcome]
    exact ⟨fun _ => loadable, fun _ => rfl⟩
  · rw [outcome]
    refine ⟨fun same => ?_, fun loadable => absurd loadable refused⟩
    cases same

/-- A state that can be saved and is within the limits is loaded. -/
theorem loads_of_loadable (loadable : g.Loadable) (savable : g.save.isOk = true)
    (cfg : GovernorConfig) (ids : Allocators) (now : Timestamp) : ∃ bytes g₂,
    g.save = .ok bytes ∧ (construct cfg ids).load (some bytes) now = (.ok true, g₂) := by
  cases saved : g.save with
  | error fault =>
      rw [saved] at savable
      cases savable
  | ok bytes =>
      exact ⟨bytes, _, rfl, Prod.ext ((load_saved_iff saved cfg ids now).mpr loadable) rfl⟩

/-- The only call of a run that installs a budget. -/
def afterInstall (b : PowerBudget) : Governor := (GovernorCall.installBudget b).after firstGovernor

theorem reachable_afterInstall (b : PowerBudget) :
    governorRuns.Reachable (afterInstall b, ⟨none, none⟩) := by
  have start : governorRuns.Reachable (firstGovernor, ⟨none, none⟩) := .start ⟨_, _, rfl⟩
  exact reachable_foldl start [.installBudget b]

/-- A budget below budget 7. -/
def orphanBudget : PowerBudget := { PowerBudget.blank with id := ⟨2⟩, parent := some ⟨7⟩ }

/-- Two levels of budgets, a reservation that is held, and a meter. -/
def twoLevelCalls : List GovernorCall :=
  [.installBudget { PowerBudget.blank with
      id := ⟨1⟩, generation := .first, hardMax := Watts.clamped 300 },
    .installBudget { PowerBudget.blank with
      id := ⟨2⟩, generation := .first, parent := some ⟨1⟩, hardMax := Watts.clamped 200 },
    .planReservation ⟨100⟩ .throughput ⟨1⟩ ⟨2⟩ (Watts.clamped 50) Joules.zero .first .first
      Timestamp.zero Duration.zero,
    .reserveReservation ⟨1⟩ .first Timestamp.zero,
    .accountEnergy ⟨100⟩ (Joules.clamped 7) .measured Timestamp.zero]

/-- A Governor at work loads. -/
theorem load_saved_iff_twoLevels :
    (twoLevelCalls.foldl GovernorCall.after firstGovernor).budgets.reserved ⟨1⟩ =
        Watts.clamped 50 ∧
      ∃ bytes, (twoLevelCalls.foldl GovernorCall.after firstGovernor).save = .ok bytes ∧
        (firstGovernor.load (some bytes) Timestamp.zero).1 = .ok true := by
  refine ⟨by decide +kernel, ?_⟩
  have loadable : (twoLevelCalls.foldl GovernorCall.after firstGovernor).Loadable := by
    constructor <;> decide +kernel
  have savable : (twoLevelCalls.foldl GovernorCall.after firstGovernor).save.isOk = true := by
    decide +kernel
  cases saved : (twoLevelCalls.foldl GovernorCall.after firstGovernor).save with
  | error fault =>
      rw [saved] at savable
      cases savable
  | ok bytes => exact ⟨bytes, rfl, (load_saved_iff saved _ _ _).mpr loadable⟩

/-- A budget whose parent was never installed is saved and not loaded. -/
theorem saved_orphan_refused :
    ¬ ∀ (g : Governor) (seen : Telemetry) (bytes : Bytes) (cfg : GovernorConfig)
      (ids : Allocators) (now : Timestamp), governorRuns.Reachable (g, seen) →
      g.save = .ok bytes → ((construct cfg ids).load (some bytes) now).1 = .ok true := by
  intro claimed
  have orphan : (afterInstall orphanBudget).budgets.validHierarchy = false := by decide +kernel
  have savable : (afterInstall orphanBudget).save.isOk = true := by decide +kernel
  cases saved : (afterInstall orphanBudget).save with
  | error fault =>
      rw [saved] at savable
      cases savable
  | ok bytes =>
      have loads := claimed _ _ bytes ⟨⟨1⟩, ⟨1⟩, .first⟩ .start Timestamp.zero
        (reachable_afterInstall orphanBudget) saved
      rcases load_saved (blank_construct _ _) saved with ⟨loadable, _⟩ | ⟨_, refused⟩
      · rw [loadable.hierarchy] at orphan
        cases orphan
      · rw [refused] at loads
        cases loads

end Governor

end PowerGovernor
