import PowerGovernor.Persistence.StateFile

/-!
The states a fresh Governor loads.

Owns what is well formed about every accepted state, and the condition on the file
under which the rest is, exact for the files whose replay rounds nothing: the decoder
compares neither workload ids nor newer budgets with earlier records, accepts null ids
and generations, and ignores whether a reservation gets its capacity back.
-/

set_option autoImplicit false

namespace PowerGovernor

/-! ## Well-formed states -/

/-- The hierarchy is a forest of installed budgets. -/
structure BudgetManager.SoundForest (m : BudgetManager) : Prop where
  parents : ∀ b ∈ m.snapshots, ∀ up ∈ b.parent, up.isValid = true → m.has up = true
  acyclic : ∀ id up, m.parentOf id = some up → ¬ m.InSubtree up id

/-- Nothing is named twice or by a null id, the budgets form a forest, and they hold
what the holding reservations reserved within their maxima. -/
structure WellFormed (file : StateFile) (g : Governor) : Prop where
  budgetIds : (file.budgets.map PowerBudget.id).Nodup
  reservationIds : (file.reservations.map Reservation.id).Nodup
  workloadIds : (file.meters.map Prod.fst).Nodup
  budgetsNamed : ∀ b ∈ file.budgets, b.id.isValid = true ∧ b.generation.isNull = false
  reservationsNamed : ∀ r ∈ file.reservations, r.id.isValid = true
  sound : g.budgets.SoundForest
  within : ∀ s ∈ g.budgets.states.entries, s.reserved.value + s.used.value ≤ s.cfg.hardMax.value
  backed : ∀ r ∈ g.reservations.map.entries, r.state.holds = true →
    g.budgets.has r.budget = true ∧ ∀ b ∈ g.budgets.chain r.budget,
      g.budgets.room.demand (g.reservations.map.entries.filter (·.state.holds)) b ≤
        (g.budgets.reserved b).value

/-- The condition on a file: what the decoder does not check. -/
structure StateFile.Clean (file : StateFile) : Prop where
  budgetIds : (file.budgets.map PowerBudget.id).Nodup
  workloadIds : (file.meters.map Prod.fst).Nodup
  budgetsNamed : ∀ b ∈ file.budgets, b.id.isValid = true ∧ b.generation.isNull = false
  reservationsNamed : ∀ r ∈ file.reservations, r.id.isValid = true
  claims : ∀ r ∈ file.holding, ∃ b ∈ file.budgets, b.id = r.budget ∧
    (0 < r.reservedPower.value → b.generation = r.budgetGeneration ∧ b.authoritative = true)
  room : ∀ b ∈ file.budgets, file.installed.room.demand file.holding b.id ≤ b.hardMax.value

namespace Accepted

variable {file : StateFile} {g : Governor} {m : BudgetManager}

/-- The hierarchy of every accepted state is sound. -/
theorem sound (accepted : Accepted file g m) : g.budgets.SoundForest := by
  have same : g.budgets.snapshots = m.snapshots := by
    rw [accepted.budgets]
    exact m.snapshots_foldl_reclaim file.reservations
  have cfg : ∀ k, (g.budgets.state? k).map BudgetState.cfg = (m.state? k).map BudgetState.cfg := by
    intro k
    rw [BudgetManager.cfg_state?_eq, BudgetManager.cfg_state?_eq, same]
  have parentOf : g.budgets.parentOf = m.parentOf := BudgetManager.parentOf_congr cfg
  constructor
  · intro b member up parent validUp
    rw [same] at member
    have checked := List.all_eq_true.mp (Bool.and_eq_true_iff.mp accepted.valid).1 b member
    rw [show b.parent = some up from parent, Option.filter_some, validUp, if_pos rfl] at checked
    show (g.budgets.state? up).isSome = true
    rw [← Option.isSome_map, cfg, Option.isSome_map]
    exact checked
  · intro id up parent
    unfold BudgetManager.InSubtree
    rw [parentOf] at parent ⊢
    exact BudgetManager.acyclic_of_validHierarchy accepted.valid parent

section Exactly

variable (accepted : Accepted file g m) (exactly : m.ReplaysExactly file.reservations)

include accepted exactly

/-- The recovered budgets, with what the replay granted. -/
theorem rebooked : Rebooked id m (m.rebooked file.reservations) g.budgets := by
  rw [accepted.budgets]
  exact accepted.plain.rebooked.replay accepted.valid exactly

theorem state (k : BudgetId) :
    g.budgets.state? k = (m.state? k).map fun s =>
      ⟨s.cfg, Watts.clamped (m.room.demand (m.rebooked file.reservations) k), Watts.zero⟩ :=
  (accepted.rebooked exactly).state k

/-- A budget of the final state is one of the installed ones. -/
theorem of_mem {s : BudgetState} (member : s ∈ g.budgets.states.entries) :
    ∃ original, m.state? s.cfg.id = some original ∧ s = ⟨original.cfg,
      Watts.clamped (m.room.demand (m.rebooked file.reservations) s.cfg.id), Watts.zero⟩ := by
  have found : g.budgets.state? s.cfg.id = some s := Keyed.find?_of_mem member
  rw [accepted.state exactly] at found
  obtain ⟨original, installed, same⟩ := Option.map_eq_some_iff.mp found
  exact ⟨original, installed, same.symm⟩

theorem room : g.budgets.room = m.room := by
  have chains : ∀ id, g.budgets.chain id = m.chain id := (accepted.rebooked exactly).chain
  have limits : ∀ k, g.budgets.hardMax k = m.hardMax k := by
    intro k
    unfold BudgetManager.hardMax
    rw [accepted.state exactly, Option.map_map]
    rfl
  unfold BudgetManager.room
  simp only [chains, limits]

/-- What is booked again stays within the maxima. -/
theorem within : ∀ s ∈ g.budgets.states.entries,
    s.reserved.value + s.used.value ≤ s.cfg.hardMax.value := by
  intro s member
  obtain ⟨original, found, same⟩ := accepted.of_mem exactly member
  have limit : m.room.limit s.cfg.id = s.cfg.hardMax.value := by
    rw [BudgetManager.room_limit_of_state? found, same]
  have granted : m.room.demand (m.rebooked file.reservations) s.cfg.id ≤
      m.room.limit s.cfg.id := m.room.demand_grant_le (limit ▸ s.cfg.hardMax.nonneg)
  have reserved : s.reserved.value = m.room.demand (m.rebooked file.reservations) s.cfg.id :=
    (congrArg (fun s : BudgetState => s.reserved.value) same).trans
      (max_eq_right (m.room_demand_nonneg _ s.cfg.id))
  have used : s.used.value = 0 := congrArg (fun s : BudgetState => s.used.value) same
  rw [reserved, used, add_zero, ← limit]
  exact granted

theorem reserved {b : BudgetId} (installed : m.has b = true) :
    (g.budgets.reserved b).value = m.room.demand (m.rebooked file.reservations) b := by
  obtain ⟨s, found⟩ := Option.isSome_iff_exists.mp installed
  unfold BudgetManager.reserved
  rw [accepted.state exactly, show m.state? b = some s from found]
  exact max_eq_right (m.room_demand_nonneg _ _)

end Exactly

/-- With distinct ids the installed budgets are those of the file. -/
theorem installed_eq (accepted : Accepted file g m)
    (distinct : (file.budgets.map PowerBudget.id).Nodup) :
    m = file.installed ∧ m.states.entries = file.budgets.map unbooked := by
  have fresh : BudgetManager.empty.states.Fresh (file.budgets.map unbooked) := by
    apply Keyed.fresh_empty
    rw [List.map_map]
    exact distinct
  have installed := BudgetManager.exec_restoreBudgets_iff.mp (exec_restoreBudgets fresh)
  have same : m = file.installed := Option.some.inj (accepted.installed.symm.trans installed)
  refine ⟨same, ?_⟩
  rw [same]
  unfold StateFile.installed
  rw [Governor.states_foldl_unbooked, Keyed.entries_foldl_emplace fresh]
  rfl

/-- A budget of the file is found under its id. -/
theorem state?_of_mem (accepted : Accepted file g m)
    (distinct : (file.budgets.map PowerBudget.id).Nodup) {b : PowerBudget}
    (member : b ∈ file.budgets) : m.state? b.id = some (unbooked b) := by
  have entry : unbooked b ∈ m.states.entries := by
    rw [(accepted.installed_eq distinct).2]
    exact List.mem_map_of_mem member
  exact Keyed.find?_of_mem entry

theorem mem_of_state? (accepted : Accepted file g m)
    (distinct : (file.budgets.map PowerBudget.id).Nodup) {id : BudgetId} {s : BudgetState}
    (found : m.state? id = some s) : ∃ b ∈ file.budgets, b.id = id ∧ s = unbooked b := by
  have entry := Keyed.mem_of_find? found
  rw [(accepted.installed_eq distinct).2] at entry
  obtain ⟨b, member, rfl⟩ := List.mem_map.mp entry
  exact ⟨b, member, BudgetManager.id_of_state? found, rfl⟩

/-- What can be booked again holds capacity. -/
theorem filter_rebookable (file : StateFile) (m : BudgetManager) :
    file.reservations.filter m.rebookable = file.holding.filter m.rebookable := by
  unfold StateFile.holding
  rw [List.filter_filter]
  apply List.filter_congr
  intro r _
  cases claims : m.rebookable r with
  | false => rfl
  | true => rw [(BudgetManager.rebookable_iff.mp claims).1, Bool.true_and]

/-- The replay grants only what holds capacity. -/
theorem granted_sublist (file : StateFile) (m : BudgetManager) :
    (m.rebooked file.reservations).Sublist file.holding := by
  have sub := m.room.grant_sublist (file.reservations.filter m.rebookable)
  unfold BudgetManager.rebooked
  rw [filter_rebookable] at sub ⊢
  exact sub.trans List.filter_sublist

/-- The budgets cover every holding reservation. -/
def Covered (file : StateFile) (m : BudgetManager) : Prop :=
  ∀ r ∈ file.holding, m.has r.budget = true ∧ ∀ b ∈ m.chain r.budget,
    m.room.demand file.holding b ≤ m.room.demand (m.rebooked file.reservations) b

theorem backed_iff (accepted : Accepted file g m)
    (exactly : m.ReplaysExactly file.reservations) :
    (∀ r ∈ g.reservations.map.entries, r.state.holds = true →
      g.budgets.has r.budget = true ∧ ∀ b ∈ g.budgets.chain r.budget,
        g.budgets.room.demand (g.reservations.map.entries.filter (·.state.holds)) b ≤
          (g.budgets.reserved b).value) ↔ Covered file m := by
  rw [accepted.reservations, accepted.room exactly]
  unfold Covered StateFile.holding
  constructor
  · intro backed r member
    obtain ⟨present, holds⟩ := List.mem_filter.mp member
    obtain ⟨installed, covered⟩ := backed r present holds
    rw [(accepted.rebooked exactly).has] at installed
    refine ⟨installed, fun b onChain => ?_⟩
    have enough := covered b (by rw [(accepted.rebooked exactly).chain]; exact onChain)
    rw [accepted.reserved exactly (BudgetManager.has_of_mem_chain accepted.valid installed onChain)]
      at enough
    exact enough
  · intro covered r present holds
    obtain ⟨installed, enough⟩ := covered r (List.mem_filter.mpr ⟨present, holds⟩)
    rw [(accepted.rebooked exactly).has]
    refine ⟨installed, fun b onChain => ?_⟩
    rw [(accepted.rebooked exactly).chain] at onChain
    rw [accepted.reserved exactly (BudgetManager.has_of_mem_chain accepted.valid installed onChain)]
    exact enough b onChain

theorem limit_of_mem (accepted : Accepted file g m)
    (distinct : (file.budgets.map PowerBudget.id).Nodup) {b : PowerBudget}
    (member : b ∈ file.budgets) : m.room.limit b.id = b.hardMax.value := by
  show (m.hardMax b.id).value = _
  unfold BudgetManager.hardMax
  rw [accepted.state?_of_mem distinct member]
  rfl

/-- A reservation that the budgets cover was booked again, so its budget takes it. -/
theorem claim_of_covered (accepted : Accepted file g m)
    (distinct : (file.budgets.map PowerBudget.id).Nodup)
    (named : ∀ b ∈ file.budgets, b.id.isValid = true) (covered : Covered file m)
    {r : Reservation} (member : r ∈ file.holding) :
    ∃ b ∈ file.budgets, b.id = r.budget ∧
      (0 < r.reservedPower.value → b.generation = r.budgetGeneration ∧ b.authoritative = true) := by
  obtain ⟨installed, enough⟩ := covered r member
  obtain ⟨s, found⟩ := Option.isSome_iff_exists.mp installed
  obtain ⟨b, inFile, same, rfl⟩ := accepted.mem_of_state? distinct found
  refine ⟨b, inFile, same, fun positive => ?_⟩
  have onChain : r.budget ∈ m.chain r.budget :=
    BudgetManager.mem_chain_self (same ▸ named b inFile)
  have granted : r ∈ m.rebooked file.reservations := by
    by_contra missing
    have more := m.room.demand_add_share_le (fun r => r.reservedPower.nonneg)
      (granted_sublist file m) member missing r.budget
    have share : m.room.share r.budget r = r.reservedPower.value := if_pos onChain
    rw [share] at more
    have less := enough r.budget onChain
    linarith
  have eligible := (m.room.grant_sublist _).subset granted
  obtain ⟨_, _, s, found', generation, authority⟩ :=
    BudgetManager.rebookable_iff.mp (List.mem_filter.mp eligible).2
  obtain rfl := Option.some.inj (found'.symm.trans found)
  exact ⟨generation, authority⟩

/-- What covers the reservations was granted within the maxima. -/
theorem room_of_covered (accepted : Accepted file g m)
    (distinct : (file.budgets.map PowerBudget.id).Nodup) (covered : Covered file m)
    {b : PowerBudget} (inFile : b ∈ file.budgets) :
    m.room.demand file.holding b.id ≤ b.hardMax.value := by
  by_cases drawn : ∃ r ∈ file.holding, b.id ∈ m.chain r.budget
  · obtain ⟨r, member, onChain⟩ := drawn
    have limit := accepted.limit_of_mem distinct inFile
    have granted : m.room.demand (m.rebooked file.reservations) b.id ≤ m.room.limit b.id :=
      m.room.demand_grant_le (limit ▸ b.hardMax.nonneg)
    rw [limit] at granted
    exact ((covered r member).2 b.id onChain).trans granted
  · have none : m.room.demand file.holding b.id = 0 := by
      apply List.sum_eq_zero
      intro share member
      obtain ⟨r, holding, rfl⟩ := List.mem_map.mp member
      exact if_neg fun onChain => drawn ⟨r, holding, onChain⟩
    rw [none]
    exact b.hardMax.nonneg

section Claims

variable (accepted : Accepted file g m) (distinct : (file.budgets.map PowerBudget.id).Nodup)
  (claims : ∀ r ∈ file.holding, ∃ b ∈ file.budgets, b.id = r.budget ∧
    (0 < r.reservedPower.value → b.generation = r.budgetGeneration ∧ b.authoritative = true))

include accepted distinct claims

theorem has_of_claims {r : Reservation} (member : r ∈ file.holding) :
    m.has r.budget = true := by
  obtain ⟨b, inFile, same, _⟩ := claims r member
  show (m.state? r.budget).isSome = true
  rw [← same, accepted.state?_of_mem distinct inFile]
  rfl

/-- A reservation that cannot be booked draws nothing. -/
theorem demand_rebookable (b : BudgetId) :
    m.room.demand (file.holding.filter m.rebookable) b = m.room.demand file.holding b := by
  apply m.room.demand_filter
  intro other holding idle
  obtain ⟨claim, inFile, same, bookable⟩ := claims other holding
  by_contra some
  have positive : 0 < other.reservedPower.value :=
    lt_of_le_of_ne other.reservedPower.nonneg (Ne.symm some)
  obtain ⟨generation, authority⟩ := bookable positive
  have found := accepted.state?_of_mem distinct inFile
  rw [same] at found
  have eligible := BudgetManager.rebookable_iff.mpr ⟨(List.mem_filter.mp holding).2, positive,
    _, found, generation, authority⟩
  rw [idle] at eligible
  cases eligible

/-- Where all claims fit together, the replay grants every one of them. -/
theorem rebooked_of_claims
    (room : ∀ b ∈ file.budgets, m.room.demand file.holding b.id ≤ b.hardMax.value) :
    m.rebooked file.reservations = file.holding.filter m.rebookable := by
  unfold BudgetManager.rebooked
  rw [filter_rebookable]
  apply m.room.grant_eq_self fun r => r.reservedPower.nonneg
  intro other member b onChain
  have present := accepted.has_of_claims distinct claims (List.mem_filter.mp member).1
  obtain ⟨s, found⟩ := Option.isSome_iff_exists.mp
    (BudgetManager.has_of_mem_chain accepted.valid present onChain)
  obtain ⟨upper, inFile, rfl, _⟩ := accepted.mem_of_state? distinct found
  rw [accepted.demand_rebookable distinct claims, accepted.limit_of_mem distinct inFile]
  exact room upper inFile

end Claims

/-- Where ids are distinct and valid, the budgets cover the reservations exactly
when every claim can be booked and all of them together fit. -/
theorem covered_iff (accepted : Accepted file g m)
    (distinct : (file.budgets.map PowerBudget.id).Nodup)
    (named : ∀ b ∈ file.budgets, b.id.isValid = true) :
    Covered file m ↔
      (∀ r ∈ file.holding, ∃ b ∈ file.budgets, b.id = r.budget ∧
        (0 < r.reservedPower.value → b.generation = r.budgetGeneration ∧ b.authoritative = true)) ∧
      ∀ b ∈ file.budgets, file.installed.room.demand file.holding b.id ≤ b.hardMax.value := by
  rw [← (accepted.installed_eq distinct).1]
  constructor
  · intro covered
    exact ⟨fun r member => accepted.claim_of_covered distinct named covered member,
      fun b inFile => accepted.room_of_covered distinct covered inFile⟩
  · rintro ⟨claims, room⟩ r member
    refine ⟨accepted.has_of_claims distinct claims member, fun b _ => ?_⟩
    rw [accepted.rebooked_of_claims distinct claims room,
      accepted.demand_rebookable distinct claims]

theorem wellFormed_iff (accepted : Accepted file g m)
    (exactly : file.installed.ReplaysExactly file.reservations) :
    WellFormed file g ↔ file.Clean := by
  constructor
  · intro well
    rw [← (accepted.installed_eq well.budgetIds).1] at exactly
    have covered := (accepted.backed_iff exactly).mp well.backed
    obtain ⟨claims, room⟩ := (accepted.covered_iff well.budgetIds
      fun b member => (well.budgetsNamed b member).1).mp covered
    exact {
      budgetIds := well.budgetIds
      workloadIds := well.workloadIds
      budgetsNamed := well.budgetsNamed
      reservationsNamed := well.reservationsNamed
      claims := claims
      room := room }
  · intro clean
    rw [← (accepted.installed_eq clean.budgetIds).1] at exactly
    have covered := (accepted.covered_iff clean.budgetIds
      fun b member => (clean.budgetsNamed b member).1).mpr ⟨clean.claims, clean.room⟩
    exact {
      budgetIds := clean.budgetIds
      reservationIds := accepted.distinct
      workloadIds := clean.workloadIds
      budgetsNamed := clean.budgetsNamed
      reservationsNamed := clean.reservationsNamed
      sound := accepted.sound
      within := accepted.within exactly
      backed := (accepted.backed_iff exactly).mpr covered }

end Accepted

namespace Governor

/-- A file with the given records. -/
def fileWith (bs : List PowerBudget) (rs : List Reservation) (ms : List WorkloadMeter) : Bytes :=
  let blob := concat [.ok (headerOnly 1), .ok [0, 0, 0, 0], encodeSection encodeBudget bs,
    encodeSection encodeReservation rs, encodeSection encodeMeter ms]
  match blob >>= fun blob => encodeEnvelope ⟨persistSchema, blob⟩ with
  | .ok bytes => bytes
  | .error _ => []

/-- 50 W held on budget 2. -/
def heldReservation : Reservation :=
  { Reservation.blank with
    id := ⟨1⟩
    budget := ⟨2⟩
    budgetGeneration := .first
    state := .reserved
    requestedPower := Watts.clamped 50
    reservedPower := Watts.clamped 50 }

/-- A budget of 100 W. -/
def namedBudget : PowerBudget :=
  { PowerBudget.blank with id := ⟨2⟩, generation := .first, hardMax := Watts.clamped 100 }

/-- Eight joules of workload 7. -/
def meteredWorkload : WorkloadMeter :=
  ⟨⟨7⟩, EnergyMeter.blank.add (Joules.clamped 8) .derived Timestamp.zero⟩

end Governor

end PowerGovernor
