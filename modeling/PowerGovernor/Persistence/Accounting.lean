import PowerGovernor.Governor.AllowSoundness
import PowerGovernor.Persistence.Reload
import PowerGovernor.Persistence.Replay

/-!
The budget accounting across save and load.

Owns what is compared, the recovered amounts of every budget, and the exact
condition under which the accounting of a saved Governor comes back: nothing is
used, and what is reserved is what the first-fit replay books again, as long as the
powers are stored as they are and the replay rounds nothing.
-/

set_option autoImplicit false

namespace PowerGovernor

/-- The part of a reservation that the accounting rests on. -/
def Reservation.held (r : Reservation) : ReservationState × BudgetId × Watts :=
  (r.state, r.budget, r.reservedPower)

/-- Two Governors account for the same power and the same reservations. -/
structure SameAccounting (g g' : Governor) : Prop where
  reserved : ∀ b, g'.budgets.reserved b = g.budgets.reserved b
  used : ∀ b, g'.budgets.used b = g.budgets.used b
  available : ∀ b, InDoubles.available g'.budgets b = InDoubles.available g.budgets b
  reservations : ∀ id, (g'.reservations.find? id).map Reservation.held =
    (g.reservations.find? id).map Reservation.held

/-- The powers that decide the recovered accounting are read back as they are stored. -/
structure Governor.StorablePowers (g : Governor) : Prop where
  hardMax : ∀ b ∈ g.budgets.snapshots, Storable b.hardMax.value
  reservedPower : ∀ r ∈ g.reservations.map.entries, Storable r.reservedPower.value

/-! ## Availability -/

namespace BudgetManager

variable {m m' : BudgetManager}

theorem availableLoop_congr
    (same : ∀ b, (m'.state? b).map BudgetState.ownAvailable =
      (m.state? b).map BudgetState.ownAvailable) (avail : Watts) (ids : List BudgetId) :
    m'.availableLoop avail ids = m.availableLoop avail ids := by
  induction ids generalizing avail with
  | nil => rfl
  | cons b rest inductionHypothesis =>
      have own := same b
      unfold availableLoop
      cases found : m.state? b with
      | none =>
          have absent : m'.state? b = none := by simpa [found] using own
          rw [absent]
      | some s =>
          rw [found] at own
          obtain ⟨s', found', left⟩ := Option.map_eq_some_iff.mp own
          rw [found']
          dsimp only
          rw [left, inductionHypothesis]

/-- What is available depends on what the budgets of a chain have left. -/
theorem available_congr (chains : ∀ id, m'.chain id = m.chain id)
    (same : ∀ b, (m'.state? b).map BudgetState.ownAvailable =
      (m.state? b).map BudgetState.ownAvailable) (id : BudgetId) :
    m'.available id = m.available id := by
  have own := same id
  unfold available
  cases found : m.state? id with
  | none =>
      have absent : m'.state? id = none := by simpa [found] using own
      rw [absent]
  | some s =>
      rw [found] at own
      obtain ⟨s', found', left⟩ := Option.map_eq_some_iff.mp own
      rw [found']
      dsimp only
      rw [left, chains, availableLoop_congr same]

end BudgetManager

/-! ## The recovered amounts -/

namespace Governor

variable {g g' : Governor}

/-- A stored budget books like the original. -/
theorem booksLike_stored {b : PowerBudget} (storable : Storable b.hardMax.value) :
    b.stored.BooksLike b where
  parent := b.filter_stored_parent
  generation := rfl
  authoritative := rfl
  hardMax := Watts.truncated_of_storable storable

/-- Before the reservations are replayed nothing is booked. -/
theorem rebooked_storedBudgets (hardMax : ∀ b ∈ g.budgets.snapshots, Storable b.hardMax.value) :
    Rebooked PowerBudget.stored g.budgets [] g.storedBudgets := by
  refine ⟨fun b member => booksLike_stored (hardMax b member), fun k => ?_⟩
  have nothing : Watts.clamped (g.budgets.room.demand [] k) = Watts.zero := by
    rw [FirstFit.demand_nil]
    apply Quantity.ext
    rw [Watts.clamped_value, max_self, Watts.zero_value]
  rw [state?_storedBudgets, nothing]
  rfl

/-- The reservations that find room again, in the order of their ids. -/
def rebooked (g : Governor) : List Reservation := g.budgets.rebooked g.reservations.all

theorem reclaim_stored {r : Reservation}
    (storable : r.state.holds = true → Storable r.reservedPower.value) (m : BudgetManager) :
    reclaim m r.stored = reclaim m r := by
  unfold reclaim
  cases holds : r.state.holds with
  | false =>
      rw [if_neg (fun claims => Bool.noConfusion (holds.symm.trans claims.1)),
        if_neg (fun claims => Bool.noConfusion claims.1)]
  | true =>
      have amount : r.stored.reservedPower = r.reservedPower :=
        Watts.truncated_of_storable (storable holds)
      rw [amount, ← holds]
      rfl

theorem rebooked_storedReservations
    (hardMax : ∀ b ∈ g.budgets.snapshots, Storable b.hardMax.value)
    (held : ∀ r ∈ g.reservations.map.entries, r.state.holds = true →
      Storable r.reservedPower.value)
    (exactly : g.budgets.ReplaysExactly g.reservations.all)
    (valid : g.budgets.validHierarchy = true) :
    Rebooked PowerBudget.stored g.budgets g.rebooked g.storedReservations.budgets := by
  have original : g.storedReservations.budgets =
      g.reservations.all.foldl reclaim g.storedBudgets := by
    rw [budgets_storedReservations]
    refine List.foldl_ext _ _ _ fun m r member => reclaim_stored ?_ m
    exact held r ((List.mem_insertionSort _).mp member)
  rw [original]
  apply (rebooked_storedBudgets hardMax).replay _ exactly
  rw [validHierarchy_storedBudgets]
  exact valid

theorem held_stored {r : Reservation} (storable : Storable r.reservedPower.value) :
    r.stored.held = r.held := by
  have amount : r.stored.reservedPower = r.reservedPower := Watts.truncated_of_storable storable
  unfold Reservation.held
  rw [amount]
  rfl

theorem reservations_kept (storable : g.StorablePowers) (id : ReservationId) :
    (g.storedReservations.reservations.find? id).map Reservation.held =
      (g.reservations.find? id).map Reservation.held := by
  rw [find?_storedReservations, Option.map_map]
  cases found : g.reservations.find? id with
  | none => rfl
  | some r =>
      have original := storable.reservedPower r (Keyed.mem_of_find? found)
      exact congrArg some (held_stored original)

/-- Nothing is used, and what is reserved is what the replay books again. -/
def RebooksAll (g : Governor) : Prop :=
  ∀ b s, g.budgets.state? b = some s →
    s.used = Watts.zero ∧ s.reserved.value = g.budgets.room.demand g.rebooked b

instance decidableRebooksAll (g : Governor) : Decidable g.RebooksAll :=
  decidable_of_iff (∀ s ∈ g.budgets.states.entries,
    s.used = Watts.zero ∧ s.reserved.value = g.budgets.room.demand g.rebooked s.cfg.id) <| by
    constructor
    · intro all b s found
      rw [← BudgetManager.id_of_state? found]
      exact all s (Keyed.mem_of_find? found)
    · intro all s member
      exact all s.cfg.id s (Keyed.find?_of_mem member)

/-- The amounts of every budget come back exactly when the replay books them all. -/
theorem amounts_kept_iff {m : BudgetManager}
    (rebooked : Rebooked PowerBudget.stored g.budgets g.rebooked m) :
    ((∀ b, m.reserved b = g.budgets.reserved b) ∧ ∀ b, m.used b = g.budgets.used b) ↔
      g.RebooksAll := by
  have amounts : ∀ b s, g.budgets.state? b = some s →
      m.reserved b = Watts.clamped (g.budgets.room.demand g.rebooked b) ∧ m.used b = Watts.zero ∧
        g.budgets.reserved b = s.reserved ∧ g.budgets.used b = s.used := by
    intro b s found
    unfold BudgetManager.reserved BudgetManager.used
    rw [rebooked.state, found]
    exact ⟨rfl, rfl, rfl, rfl⟩
  constructor
  · rintro ⟨reserved, used⟩ b s found
    obtain ⟨booked, unused, savedReserved, savedUsed⟩ := amounts b s found
    constructor
    · rw [← savedUsed, ← used, unused]
    · rw [← savedReserved, ← reserved, booked]
      exact max_eq_right (g.budgets.room_demand_nonneg _ b)
  · intro all
    have both : ∀ b, m.reserved b = g.budgets.reserved b ∧ m.used b = g.budgets.used b := by
      intro b
      cases found : g.budgets.state? b with
      | none =>
          unfold BudgetManager.reserved BudgetManager.used
          rw [rebooked.state, found]
          exact ⟨rfl, rfl⟩
      | some s =>
          obtain ⟨booked, unused, savedReserved, savedUsed⟩ := amounts b s found
          obtain ⟨noUse, same⟩ := all b s found
          rw [booked, unused, savedReserved, savedUsed, noUse]
          refine ⟨Quantity.ext ?_, rfl⟩
          rw [same]
          exact max_eq_right (g.budgets.room_demand_nonneg _ b)
    exact ⟨fun b => (both b).1, fun b => (both b).2⟩

/-- With the amounts every budget comes back as far as its availability goes. -/
theorem amounts_of_rebooksAll {m : BudgetManager}
    (rebooked : Rebooked PowerBudget.stored g.budgets g.rebooked m) (all : g.RebooksAll)
    (k : BudgetId) :
    (m.state? k).map (fun s => (s.cfg.hardMax, s.reserved, s.used)) =
      (g.budgets.state? k).map fun s => (s.cfg.hardMax, s.reserved, s.used) := by
  rw [rebooked.state]
  cases found : g.budgets.state? k with
  | none => rfl
  | some s =>
      obtain ⟨noUse, same⟩ := all k s found
      have hardMax := (rebooked.alike _ (BudgetManager.mem_snapshots found)).hardMax
      have reserved : Watts.clamped (g.budgets.room.demand g.rebooked k) = s.reserved := by
        apply Quantity.ext
        rw [same]
        exact max_eq_right (g.budgets.room_demand_nonneg _ k)
      rw [Option.map_some, Option.map_some, Option.map_some, hardMax, reserved, noUse]

/-- So what is left of it comes back, however it is computed from the three powers. -/
theorem left_of_rebooksAll {m : BudgetManager}
    (rebooked : Rebooked PowerBudget.stored g.budgets g.rebooked m) (all : g.RebooksAll)
    (left : Watts × Watts × Watts → Watts) (k : BudgetId) :
    (m.state? k).map (fun s => left (s.cfg.hardMax, s.reserved, s.used)) =
      (g.budgets.state? k).map fun s => left (s.cfg.hardMax, s.reserved, s.used) := by
  have same := congrArg (Option.map left) (amounts_of_rebooksAll rebooked all k)
  rw [Option.map_map, Option.map_map] at same
  exact same

theorem available_kept {m : BudgetManager}
    (rebooked : Rebooked PowerBudget.stored g.budgets g.rebooked m) (all : g.RebooksAll)
    (b : BudgetId) : m.available b = g.budgets.available b :=
  BudgetManager.available_congr rebooked.chain (left_of_rebooksAll rebooked all
    fun powers => Watts.clamped (powers.1.value - powers.2.1.value - powers.2.2.value)) b

theorem available_inDoubles_kept {m : BudgetManager}
    (rebooked : Rebooked PowerBudget.stored g.budgets g.rebooked m) (all : g.RebooksAll)
    (b : BudgetId) : InDoubles.available m b = InDoubles.available g.budgets b := by
  have left : (fun k => (m.state? k).map InDoubles.ownAvailable) =
      fun k => (g.budgets.state? k).map InDoubles.ownAvailable :=
    funext (left_of_rebooksAll rebooked all fun powers => Watts.clampedDouble
      (Binary64.round (powers.1.value - powers.2.1.value) - powers.2.2.value))
  unfold InDoubles.available
  rw [left, rebooked.chain]

/-- Where nothing is used and the budgets account for the holding reservations
within their maxima, the replay books them all. -/
theorem rebooksAll_of_exact (valid : g.budgets.validHierarchy = true)
    (unused : ∀ b s, g.budgets.state? b = some s → s.used = Watts.zero)
    (held : ∀ b s, g.budgets.state? b = some s →
      s.reserved.value = g.budgets.room.demand (g.reservations.all.filter g.budgets.rebookable) b)
    (within : ∀ b s, g.budgets.state? b = some s → s.reserved.value ≤ s.cfg.hardMax.value) :
    g.RebooksAll := by
  have everything : g.rebooked = g.reservations.all.filter g.budgets.rebookable := by
    apply g.budgets.room.grant_eq_self fun r => r.reservedPower.nonneg
    intro r member b onChain
    have eligible := (List.mem_filter.mp member).2
    obtain ⟨_, _, s, found, _⟩ := BudgetManager.rebookable_iff.mp eligible
    have present : g.budgets.has r.budget = true := by
      show (g.budgets.state? r.budget).isSome = true
      rw [found]
      rfl
    have installed := BudgetManager.has_of_mem_chain valid present onChain
    obtain ⟨upper, foundUpper⟩ := Option.isSome_iff_exists.mp installed
    rw [BudgetManager.room_limit_of_state? foundUpper, ← held b upper foundUpper]
    exact within b upper foundUpper
  intro b s found
  rw [everything]
  exact ⟨unused b s found, held b s found⟩

/-- 50 W planned and reserved on a budget of 200 W. -/
def reservedRun : List GovernorCall :=
  [.installBudget (budgetOf 2 0 1 200),
    .planReservation ⟨1⟩ .throughput ⟨1⟩ ⟨2⟩ (Watts.clamped 50) Joules.zero ⟨1⟩ ⟨1⟩ decisionTime
      .oneSecond,
    .reserveReservation ⟨1⟩ ⟨1⟩ decisionTime]

/-- A saved run loads into a fresh Governor. -/
theorem load_of_loadable {g : Governor} (savable : g.save.isOk = true) (loadable : g.Loadable) :
    ∃ bytes g', g.save = .ok bytes ∧
      firstGovernor.load (some bytes) decisionTime = (.ok true, g') := by
  cases saved : g.save with
  | error fault =>
      rw [saved] at savable
      cases savable
  | ok bytes =>
      rcases load_saved (blank_construct _ _) saved with ⟨_, outcome⟩ | ⟨refused, _⟩
      · exact ⟨bytes, _, rfl, outcome⟩
      · exact absurd loadable refused

/-- The same reservation once it is active. -/
def activeRun : List GovernorCall := reservedRun ++ [.activateReservation ⟨1⟩ ⟨1⟩ decisionTime]

end Governor

end PowerGovernor
