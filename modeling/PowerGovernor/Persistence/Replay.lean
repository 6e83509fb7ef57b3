import PowerGovernor.Budget.Doubles
import PowerGovernor.Library.FirstFit
import PowerGovernor.Persistence.RoundTrip

/-!
Claiming capacity again after a recovery.

Owns what the hierarchy check guarantees of every chain, the first-fit problem of
restored reservations, and the proof that replaying `reserve` for one after the
other solves it, as long as no sum it forms rounds and neither rounding nor the
tolerance decides a capacity test. On a grid of powers that is so.
-/

set_option autoImplicit false

namespace PowerGovernor

/-! ## What the hierarchy check guarantees -/

namespace BudgetManager

variable {m : BudgetManager}

/-- A climb that ends well has not met the budget it looks for. -/
theorem notMem_chainLoop_of_climb {self : BudgetId} {steps fuel : Nat} {cur : Option BudgetId}
    (ends : m.climb self steps cur = true) (short : fuel ≤ steps + 1) :
    self ∉ m.chainLoop fuel cur := by
  induction fuel generalizing steps cur with
  | zero => exact List.not_mem_nil
  | succ fuel inductionHypothesis =>
      cases cur with
      | none => exact List.not_mem_nil
      | some b =>
          unfold chainLoop
          cases valid : b.isValid with
          | false => exact List.not_mem_nil
          | true =>
              rw [if_pos rfl]
              unfold climb at ends
              rw [valid, Bool.not_true, if_neg Bool.false_ne_true] at ends
              by_cases same : b = self
              · rw [if_pos same] at ends
                cases ends
              rw [if_neg same] at ends
              refine List.not_mem_cons_of_ne_of_not_mem (Ne.symm same) ?_
              cases found : m.state? b with
              | none => exact List.not_mem_nil
              | some s =>
                  rw [found] at ends
                  cases steps with
                  | zero => cases ends
                  | succ steps => exact inductionHypothesis ends (by omega)

theorem mem_snapshots {b : BudgetId} {s : BudgetState} (found : m.state? b = some s) :
    s.cfg ∈ m.snapshots := List.mem_map_of_mem (Keyed.mem_of_find? found)

/-- In a valid hierarchy no chain meets a budget twice. -/
theorem nodup_chain_of_valid (valid : m.validHierarchy = true) (id : BudgetId) :
    (m.chain id).Nodup := by
  have acyclic := List.all_eq_true.mp (Bool.and_eq_true_iff.mp valid).2
  have general : ∀ fuel ≤ 65, ∀ cur, (m.chainLoop fuel cur).Nodup := by
    intro fuel
    induction fuel with
    | zero => exact fun _ _ => List.nodup_nil
    | succ fuel inductionHypothesis =>
        intro short cur
        cases cur with
        | none => exact List.nodup_nil
        | some b =>
            unfold chainLoop
            split
            · cases found : m.state? b with
              | none => exact List.nodup_singleton b
              | some s =>
                  have named := id_of_state? found
                  have ends := acyclic s.cfg (mem_snapshots found)
                  rw [named] at ends
                  apply List.nodup_cons.mpr
                  exact ⟨notMem_chainLoop_of_climb ends (by omega),
                    inductionHypothesis (by omega) s.cfg.parent⟩
            · exact List.nodup_nil
  exact general 65 (le_refl 65) (some id)

/-- In a valid hierarchy the chain of an installed budget is installed. -/
theorem has_of_mem_chain (valid : m.validHierarchy = true) {id b : BudgetId}
    (installed : m.has id = true) (member : b ∈ m.chain id) : m.has b = true := by
  have parents := List.all_eq_true.mp (Bool.and_eq_true_iff.mp valid).1
  have general : ∀ fuel cur, (∀ c, cur = some c → c.isValid = true → m.has c = true) →
      b ∈ m.chainLoop fuel cur → m.has b = true := by
    intro fuel
    induction fuel with
    | zero => exact fun _ _ => nofun
    | succ fuel inductionHypothesis =>
        intro cur start member
        cases cur with
        | none => cases member
        | some c =>
            unfold chainLoop at member
            split at member
            · rename_i validId
              rcases List.mem_cons.mp member with rfl | higher
              · exact start b rfl validId
              · cases found : m.state? c with
                | none =>
                    rw [found] at higher
                    cases higher
                | some s =>
                    rw [found] at higher
                    refine inductionHypothesis s.cfg.parent (fun p named validParent => ?_) higher
                    have checked := parents s.cfg (mem_snapshots found)
                    rw [named, Option.filter_some, validParent] at checked
                    exact checked
            · cases member
  refine general 65 (some id) (fun c same _ => ?_) member
  rw [← Option.some.inj same]
  exact installed

end BudgetManager

/-! ## The problem the replay solves -/

namespace BudgetManager

theorem snapshots_reclaim (m : BudgetManager) (r : Reservation) :
    (reclaim m r).snapshots = m.snapshots := by
  unfold reclaim
  split
  · exact InDoubles.snapshots_book _ _ m _ _ _
  · rfl

/-- The replay changes no definition, and no place in the order. -/
theorem snapshots_foldl_reclaim (m : BudgetManager) (rs : List Reservation) :
    (rs.foldl reclaim m).snapshots = m.snapshots := by
  induction rs generalizing m with
  | nil => rfl
  | cons r rest inductionHypothesis =>
      exact (inductionHypothesis (reclaim m r)).trans (m.snapshots_reclaim r)

/-- The reservation holds power on an authoritative budget at the generation it
was reserved at. -/
def rebookable (m : BudgetManager) (r : Reservation) : Bool :=
  r.state.holds && decide (0 < r.reservedPower.value) &&
    (m.state? r.budget).any fun s =>
      decide (s.cfg.generation = r.budgetGeneration) && s.cfg.authoritative

/-- A reservation takes its reserved power from every budget of its chain, and a
budget has its hard maximum. -/
def room (m : BudgetManager) : FirstFit Reservation BudgetId ℚ where
  resources r := m.chain r.budget
  amount r := r.reservedPower.value
  limit b := (m.hardMax b).value

/-- The reservations that find room, in the given order. -/
def rebooked (m : BudgetManager) (rs : List Reservation) : List Reservation :=
  m.room.grant (rs.filter m.rebookable)

theorem rebookable_iff {m : BudgetManager} {r : Reservation} :
    m.rebookable r = true ↔ r.state.holds = true ∧ 0 < r.reservedPower.value ∧
      ∃ s, m.state? r.budget = some s ∧ s.cfg.generation = r.budgetGeneration ∧
        s.cfg.authoritative = true := by
  unfold rebookable
  rw [Bool.and_eq_true, Bool.and_eq_true, decide_eq_true_eq, Option.any_eq_true, and_assoc]
  simp only [Bool.and_eq_true, decide_eq_true_eq]

end BudgetManager

/-! ## Replays that come out exactly -/

/-- The budget with an amount booked again and nothing used. -/
def BudgetState.rebookedAt (s : BudgetState) (taken : ℚ) : BudgetState :=
  ⟨s.cfg, Watts.clamped taken, Watts.zero⟩

/-- Beside what has been taken the capacity test of a budget decides by its maximum, and
a sum within the maximum does not round. -/
structure BudgetState.AddsExactly (s : BudgetState) (taken : ℚ) (amount : Watts) : Prop where
  decides : InDoubles.LacksRoom (s.rebookedAt taken) amount ↔
    s.cfg.hardMax.value < taken + amount.value
  sum : taken + amount.value ≤ s.cfg.hardMax.value → Binary64.Exact (taken + amount.value)

namespace BudgetManager

/-- Booking the rebookable reservations again, one after the other, comes out exactly on
every budget they draw on. -/
def ReplaysExactly (m : BudgetManager) (rs : List Reservation) : Prop :=
  ∀ before r after, rs = before ++ r :: after → m.rebookable r = true →
    ∀ b ∈ m.chain r.budget, ∀ s ∈ m.state? b,
      s.AddsExactly (m.room.demand (m.rebooked before) b) r.reservedPower

/-- The maxima and the reserved powers are on one grid. -/
structure OnGridWith (m : BudgetManager) (rs : List Reservation) (k : ℤ) : Prop where
  coarse : -28 ≤ k
  finite : k ≤ 970
  hardMax : ∀ b ∈ m.snapshots, Binary64.OnGrid k b.hardMax.value
  reservedPower : ∀ r ∈ rs, Binary64.OnGrid k r.reservedPower.value

theorem room_limit_of_state? {m : BudgetManager} {b : BudgetId} {s : BudgetState}
    (found : m.state? b = some s) : m.room.limit b = s.cfg.hardMax.value := by
  show (m.hardMax b).value = _
  unfold hardMax
  rw [found]
  rfl

theorem room_demand_nonneg (m : BudgetManager) (granted : List Reservation) (b : BudgetId) :
    0 ≤ m.room.demand granted b :=
  m.room.demand_nonneg (fun r => r.reservedPower.nonneg) granted b

/-- What is granted adds up on the grid. -/
theorem onGrid_demand {m : BudgetManager} {k : ℤ} {granted : List Reservation} {b : BudgetId}
    (amounts : ∀ r ∈ granted, Binary64.OnGrid k r.reservedPower.value)
    (below : m.room.demand granted b < 2 ^ (k + 52)) :
    Binary64.OnGrid k (m.room.demand granted b) := by
  induction granted with
  | nil => exact Binary64.onGrid_zero
  | cons r rest inductionHypothesis =>
      rw [FirstFit.demand_cons] at below ⊢
      have shareNonneg := m.room.share_nonneg (fun r => r.reservedPower.nonneg) b r
      have restNonneg := m.room_demand_nonneg rest b
      have others := inductionHypothesis (fun other member =>
        amounts other (List.mem_cons_of_mem r member)) (by linarith)
      refine Binary64.OnGrid.add ?_ others below
      unfold FirstFit.share
      split
      · exact amounts r List.mem_cons_self
      · exact Binary64.onGrid_zero

/-- On a grid every replay comes out exactly. -/
theorem replaysExactly_of_onGrid {m : BudgetManager} {rs : List Reservation} {k : ℤ}
    (grid : m.OnGridWith rs k) : m.ReplaysExactly rs := by
  intro before r after split _ b _ s found
  have inList : r ∈ rs := split ▸ List.mem_append_right before List.mem_cons_self
  have amount := grid.reservedPower r inList
  have limit := room_limit_of_state? found
  have hardMax := grid.hardMax s.cfg (List.mem_map_of_mem (Keyed.mem_of_find? found))
  have within : m.room.demand (m.rebooked before) b ≤ s.cfg.hardMax.value := by
    rw [← limit]
    exact m.room.demand_grant_le (limit ▸ s.cfg.hardMax.nonneg)
  have taken : Binary64.OnGrid k (m.room.demand (m.rebooked before) b) := by
    refine onGrid_demand (fun other member => ?_) (within.trans_lt hardMax.below)
    have earlier := (List.mem_filter.mp ((m.room.grant_sublist _).subset member)).1
    exact grid.reservedPower other (split ▸ List.mem_append_left _ earlier)
  have state : (s.rebookedAt (m.room.demand (m.rebooked before) b)).OnGrid k := by
    refine ⟨hardMax, fun counter => ?_⟩
    cases counter with
    | reserved =>
        show Binary64.OnGrid k (max 0 _)
        rw [max_eq_right taken.nonneg]
        exact taken
    | used => exact Binary64.onGrid_zero
  have own : (s.rebookedAt (m.room.demand (m.rebooked before) b)).ownAvailable.value =
      s.cfg.hardMax.value - m.room.demand (m.rebooked before) b := by
    show max 0 (s.cfg.hardMax.value - max 0 _ - 0) = _
    rw [max_eq_right taken.nonneg, sub_zero, max_eq_right (sub_nonneg.mpr within)]
  constructor
  · rw [(InDoubles.lacksRoom_iff state amount grid.coarse grid.finite).1, own]
    exact sub_lt_iff_lt_add'
  · intro fits
    have coarse := grid.coarse
    have finite := grid.finite
    exact (taken.add amount (fits.trans_lt hardMax.below)).exact (by omega) (by omega)

end BudgetManager

/-! ## Replaying the reservations -/

/-- A definition that books like another one. -/
structure PowerBudget.BooksLike (b other : PowerBudget) : Prop where
  parent : b.parent.filter StrongId.isValid = other.parent.filter StrongId.isValid
  generation : b.generation = other.generation
  authoritative : b.authoritative = other.authoritative
  hardMax : b.hardMax = other.hardMax

/-- The recovered accounting once some of the reservations are booked again; `view` is
how the definitions of the base come back. -/
structure Rebooked (view : PowerBudget → PowerBudget) (base : BudgetManager)
    (granted : List Reservation) (m : BudgetManager) : Prop where
  alike : ∀ b ∈ base.snapshots, (view b).BooksLike b
  state : ∀ k, m.state? k = (base.state? k).map fun s =>
    ⟨view s.cfg, Watts.clamped (base.room.demand granted k), Watts.zero⟩

namespace Rebooked

variable {view : PowerBudget → PowerBudget} {base : BudgetManager} {granted : List Reservation}
  {m : BudgetManager}

theorem has (rebooked : Rebooked view base granted m) (k : BudgetId) : m.has k = base.has k := by
  show (m.state? k).isSome = (base.state? k).isSome
  rw [rebooked.state, Option.isSome_map]

theorem chain (rebooked : Rebooked view base granted m) (id : BudgetId) :
    m.chain id = base.chain id := by
  apply BudgetManager.chain_congr
  funext k
  unfold BudgetManager.parentOf
  rw [rebooked.state]
  cases found : base.state? k with
  | none => rfl
  | some s => exact (rebooked.alike _ (BudgetManager.mem_snapshots found)).parent

/-- With the recovered amounts a budget refuses exactly what does not fit its maximum. -/
theorem lacksRoom_iff (rebooked : Rebooked view base granted m) {k : BudgetId}
    {original s : BudgetState} (saved : base.state? k = some original)
    (found : m.state? k = some s) {amount : Watts}
    (exactly : original.AddsExactly (base.room.demand granted k) amount) :
    InDoubles.LacksRoom s amount ↔
      base.room.limit k < base.room.demand granted k + amount.value := by
  have booked := rebooked.state k
  rw [found, saved] at booked
  obtain rfl := Option.some.inj booked
  rw [BudgetManager.room_limit_of_state? saved, ← exactly.decides]
  unfold InDoubles.LacksRoom InDoubles.ownAvailable BudgetState.rebookedAt
  rw [(rebooked.alike _ (BudgetManager.mem_snapshots saved)).hardMax]

/-- A claim the manager grants is rebookable. -/
theorem rebookable_of_bookable (rebooked : Rebooked view base granted m) {r : Reservation}
    (holds : r.state.holds = true) (positive : 0 < r.reservedPower.value) {amount : Watts}
    (bookable : InDoubles.Bookable m true r.budget amount r.budgetGeneration) :
    base.rebookable r = true := by
  obtain ⟨s, found, generation, authority⟩ := bookable.installed
  rw [rebooked.state] at found
  obtain ⟨original, saved, rfl⟩ := Option.map_eq_some_iff.mp found
  have alike := rebooked.alike _ (BudgetManager.mem_snapshots saved)
  exact BudgetManager.rebookable_iff.mpr ⟨holds, positive, original, saved,
    alike.generation.symm.trans generation, alike.authoritative.symm.trans (authority rfl)⟩

/-- A rebookable reservation is granted exactly when it fits. -/
theorem bookable_iff (rebooked : Rebooked view base granted m)
    (installed : ∀ id, base.has id = true → ∀ b ∈ base.chain id, base.has b = true)
    {r : Reservation} (eligible : base.rebookable r = true)
    (exactly : ∀ b ∈ base.chain r.budget, ∀ s ∈ base.state? b,
      s.AddsExactly (base.room.demand granted b) r.reservedPower) :
    InDoubles.Bookable m true r.budget r.reservedPower r.budgetGeneration ↔
      base.room.Fits granted r := by
  obtain ⟨_, _, s, saved, generation, authority⟩ := BudgetManager.rebookable_iff.mp eligible
  have present : base.has r.budget = true := Option.isSome_iff_exists.mpr ⟨s, saved⟩
  have known : ∀ b ∈ base.chain r.budget, ∃ original, base.state? b = some original := fun b on =>
    Option.isSome_iff_exists.mp (installed r.budget present b on)
  constructor
  · intro bookable b onChain
    obtain ⟨original, there⟩ := known b onChain
    obtain ⟨t, found, free⟩ := bookable.room b (by rw [rebooked.chain]; exact onChain)
    exact not_lt.mp fun short =>
      free ((rebooked.lacksRoom_iff there found (exactly b onChain original there)).mpr short)
  · intro fits
    have alike := rebooked.alike _ (BudgetManager.mem_snapshots saved)
    refine ⟨⟨⟨view s.cfg, _, _⟩, by rw [rebooked.state, saved]; rfl,
      alike.generation.trans generation, fun _ => alike.authoritative.trans authority⟩, ?_⟩
    intro b onChain
    rw [rebooked.chain] at onChain
    obtain ⟨original, there⟩ := known b onChain
    have found : ∃ t, m.state? b = some t := by
      rw [rebooked.state, there]
      exact ⟨_, rfl⟩
    obtain ⟨t, found⟩ := found
    refine ⟨t, found, fun short => ?_⟩
    have beyond := (rebooked.lacksRoom_iff there found (exactly b onChain original there)).mp short
    exact not_lt.mpr (fits b onChain) beyond

/-- Booking one more reservation that fits. -/
theorem grant (rebooked : Rebooked view base granted m)
    (nodup : ∀ id, (base.chain id).Nodup) {r : Reservation} (fits : base.room.Fits granted r)
    (exactly : ∀ b ∈ base.chain r.budget, ∀ s ∈ base.state? b,
      s.AddsExactly (base.room.demand granted b) r.reservedPower) :
    Rebooked view base (granted ++ [r])
      (InDoubles.adjustChain m .reserved r.reservedPower.value (m.chain r.budget)) := by
  have clamp : ∀ k, (Watts.clamped (base.room.demand granted k)).value =
      base.room.demand granted k := fun k => max_eq_right (base.room_demand_nonneg granted k)
  have unrounded : InDoubles.adjustChain m .reserved r.reservedPower.value (m.chain r.budget) =
      m.adjustChain .reserved r.reservedPower.value (m.chain r.budget) := by
    apply InDoubles.adjustChain_of_exact (rebooked.chain _ ▸ nodup r.budget)
    intro b onChain s found
    rw [rebooked.chain] at onChain
    have booked : m.state? b = some s := found
    rw [rebooked.state] at booked
    obtain ⟨original, saved, rfl⟩ := Option.map_eq_some_iff.mp booked
    show Binary64.Exact ((Watts.clamped _).value + _)
    rw [clamp]
    apply (exactly b onChain original saved).sum
    rw [← BudgetManager.room_limit_of_state? saved]
    exact fits b onChain
  refine ⟨rebooked.alike, fun k => ?_⟩
  rw [unrounded, rebooked.chain, FirstFit.demand_append_singleton]
  by_cases onChain : k ∈ base.chain r.budget
  · rw [BudgetManager.state?_adjustChain_of_mem (nodup r.budget) onChain, rebooked.state,
      Option.map_map]
    congr 1
    funext s
    have share : base.room.share k r = r.reservedPower.value := if_pos onChain
    show BudgetState.mk _ (Watts.clamped ((Watts.clamped _).value + _)) _ = _
    rw [clamp, share]
  · have share : base.room.share k r = 0 := if_neg onChain
    rw [BudgetManager.state?_adjustChain_of_notMem onChain, rebooked.state, share, add_zero]

/-- Claiming the capacity of one reservation decides it like first-fit. -/
theorem reclaim (rebooked : Rebooked view base granted m) (nodup : ∀ id, (base.chain id).Nodup)
    (installed : ∀ id, base.has id = true → ∀ b ∈ base.chain id, base.has b = true)
    {r : Reservation} (exactly : base.rebookable r = true → ∀ b ∈ base.chain r.budget,
      ∀ s ∈ base.state? b, s.AddsExactly (base.room.demand granted b) r.reservedPower) :
    Rebooked view base (if base.rebookable r then base.room.grantOne granted r else granted)
      (PowerGovernor.reclaim m r) := by
  unfold PowerGovernor.reclaim
  by_cases claims : r.state.holds = true ∧ 0 < r.reservedPower.value ∧ m.has r.budget = true
  · rw [if_pos claims]
    unfold InDoubles.reserve
    rcases InDoubles.book_cases .reserved true m r.budget r.reservedPower r.budgetGeneration
      with ⟨result, refused⟩ | ⟨result, bookable⟩
    · rw [result]
      cases eligible : base.rebookable r with
      | false => exact rebooked
      | true =>
          rw [rebooked.bookable_iff installed eligible (exactly eligible)] at refused
          rw [if_pos rfl, FirstFit.grantOne, if_neg refused]
          exact rebooked
    · have eligible := rebooked.rebookable_of_bookable claims.1 claims.2.1 bookable
      have fits := (rebooked.bookable_iff installed eligible (exactly eligible)).mp bookable
      rw [result, if_pos eligible, FirstFit.grantOne, if_pos fits]
      exact rebooked.grant nodup fits (exactly eligible)
  · rw [if_neg claims, if_neg]
    · exact rebooked
    intro eligible
    obtain ⟨holds, positive, s, saved, _⟩ := BudgetManager.rebookable_iff.mp eligible
    have present : m.has r.budget = true := by
      rw [rebooked.has]
      exact Option.isSome_iff_exists.mpr ⟨s, saved⟩
    exact claims ⟨holds, positive, present⟩

/-- Replaying the reservations of a valid hierarchy solves their first-fit problem. -/
theorem replay (fresh : Rebooked view base [] m) (valid : m.validHierarchy = true)
    {rs : List Reservation} (exactly : base.ReplaysExactly rs) :
    Rebooked view base (base.rebooked rs) (rs.foldl PowerGovernor.reclaim m) := by
  have nodup : ∀ id, (base.chain id).Nodup := by
    intro id
    rw [← fresh.chain]
    exact BudgetManager.nodup_chain_of_valid valid id
  have installed : ∀ id, base.has id = true → ∀ b ∈ base.chain id, base.has b = true := by
    intro id present b onChain
    rw [← fresh.has] at present ⊢
    rw [← fresh.chain] at onChain
    exact BudgetManager.has_of_mem_chain valid present onChain
  apply base.room.simulates base.rebookable fresh
  intro before r after split m rebooked
  rw [base.room.grant_filter_append_singleton]
  exact rebooked.reclaim nodup installed (exactly before r after split)

end Rebooked

end PowerGovernor
