import PowerGovernor.Budget.Doubles
import PowerGovernor.Budget.Forest

/-!
The consistency audit of the budgets.

Owns the runs of bookings in doubles on a forest of budgets, the margin below the maxima
under which the audit passes along every run, and what it reports in the runs whose powers
lie on a grid.
-/

set_option autoImplicit false

namespace PowerGovernor

/-! ## Runs of bookings -/

/-- The power a call books or returns. -/
def BudgetCall.amount? : BudgetCall → Option Watts
  | .install _ => none
  | .reserve _ amount _ _ | .release _ amount _ _ | .activate _ amount _ _
  | .deactivate _ amount _ _ => some amount

/-- A power given in whole milliwatts. -/
def WholeMilliwatts (power : Watts) : Prop :=
  ∃ n : ℕ, power.value = Binary64.round (n / 1000)

/-- Runs on a forest of unbooked budgets whose maxima and amounts meet `Power`. -/
def bookingRuns (Power : Watts → Prop) (Meets : BudgetManager → BudgetCall → Prop) :
    TransitionSystem BudgetManager BudgetCall where
  init := fun m => m.Forest ∧ ∀ id s, m.state? id = some s →
    Power s.cfg.hardMax ∧ s.reserved = Watts.zero ∧ s.used = Watts.zero
  step := fun m call m' => (∃ amount ∈ call.amount?, Power amount) ∧ Meets m call ∧
    m' = (InDoubles.exec m call).1

/-- More than the tolerance and the errors of the three sums of a booking and the audit. -/
def margin (hardMax : Watts) : ℚ := 2 ^ (-28 : ℤ) + hardMax.value / 2 ^ 50

/-- A booking that is entitled to the chain stays by the margin below every maximum on it. -/
def LeavesMargin (m : BudgetManager) : BudgetCall → Prop
  | .reserve id amount _ budgetGen => InDoubles.Bookable m true id amount budgetGen →
    ∀ b ∈ m.chain id, ∀ s ∈ m.state? b,
      s.booked + amount.value + margin s.cfg.hardMax ≤ s.cfg.hardMax.value
  | .activate id amount _ budgetGen => InDoubles.Bookable m false id amount budgetGen →
    ∀ b ∈ m.chain id, ∀ s ∈ m.state? b,
      s.booked + amount.value + margin s.cfg.hardMax ≤ s.cfg.hardMax.value
  | _ => True

namespace InDoubles

/-! ## The test of the audit -/

/-- A budget passes the audit. -/
def Passes (s : BudgetState) : Prop :=
  Binary64.round (Binary64.round s.booked + tolerance) ≤ s.cfg.hardMax.value

theorem accountingConsistent_iff {m : BudgetManager} : accountingConsistent m = true ↔
    ∀ id s, m.state? id = some s → Passes s := by
  have passes : ∀ s : BudgetState, (!decide (s.cfg.hardMax.value <
      Binary64.round (Binary64.round (s.reserved.value + s.used.value) + tolerance))) = true ↔
        Passes s := by
    intro s
    rw [Bool.not_eq_true', decide_eq_false_iff_not, not_lt]
    rfl
  unfold accountingConsistent
  rw [List.all_eq_true]
  constructor
  · exact fun passed id s found => (passes s).mp (passed s (Keyed.mem_of_find? found))
  · exact fun kept s member => (passes s).mpr (kept s.cfg.id s (Keyed.find?_of_mem member))

section Budget

variable {s : BudgetState} {counter : Counter} {amount : Watts}

theorem bump_cfg (counter : Counter) (delta : ℚ) (s : BudgetState) :
    (bump counter delta s).cfg = s.cfg :=
  s.set_cfg counter _

theorem passes_unbooked (reserved : s.reserved = Watts.zero) (used : s.used = Watts.zero)
    (max : tolerance ≤ s.cfg.hardMax.value) : Passes s := by
  unfold Passes BudgetState.booked
  rw [reserved, used, Watts.zero_value, add_zero, Binary64.round_zero, zero_add, tolerance,
    Binary64.round_round]
  exact max

/-- Each of the three roundings of a booking and the audit stays within the margin. -/
theorem passes_of_margin
    (room : s.booked + amount.value + margin s.cfg.hardMax ≤ s.cfg.hardMax.value) :
    Passes (bump counter amount.value s) := by
  obtain ⟨other, before, after⟩ := s.booked_eq counter
  have counted := (s.get counter).nonneg
  have added := amount.nonneg
  have rest := other.nonneg
  have sumNonneg : 0 ≤ (s.get counter).value + amount.value := by linarith
  have written : (bump counter amount.value s).booked ≤
      Binary64.round ((s.get counter).value + amount.value) + other.value := by
    rw [bump, after]
    have value := Watts.clampedDouble_le (Binary64.round_nonneg sumNonneg) le_rfl
    linarith
  have error : ∀ q : ℚ, 0 ≤ q → Binary64.round q ≤ q + q / 2 ^ 53 + 2 ^ (-60 : ℤ) := by
    intro q nonneg
    have tiny : (2 : ℚ) ^ (-1075 : ℤ) ≤ 2 ^ (-60 : ℤ) :=
      zpow_le_zpow_right₀ (by norm_num) (by norm_num)
    exact (Binary64.round_le_add nonneg).trans (add_le_add le_rfl tiny)
  have sum := Binary64.round_nonneg sumNonneg
  have total := Binary64.round_nonneg (add_nonneg sum rest)
  have positive := (zpow_pos (by norm_num : (0 : ℚ) < 2) (-30)).trans tolerance_bounds.1
  have first := error _ sumNonneg
  have second := error _ (add_nonneg sum rest)
  have third := error _ (add_nonneg total positive.le)
  have tolerated := tolerance_bounds.2
  have hardMax := s.cfg.hardMax.nonneg
  unfold Passes
  rw [bump_cfg]
  refine (Binary64.round_mono (add_le_add_left (Binary64.round_mono written) _)).trans ?_
  unfold margin at room
  rw [before] at room
  norm_num at tolerated room first second third
  linarith

/-- Returns and refusals book no more. -/
theorem passes_return (double : Binary64.IsDouble (s.get counter).value) (passes : Passes s) :
    Passes (bump counter (-amount.value) s) := by
  obtain ⟨other, before, after⟩ := s.booked_eq counter
  have returned : (s.get counter).value + -amount.value ≤ (s.get counter).value := by
    have nonneg := amount.nonneg
    linarith
  have less : (bump counter (-amount.value) s).booked ≤ s.booked := by
    rw [bump, after, before]
    have value := Watts.clampedDouble_le (s.get counter).nonneg
      (Binary64.round_le double returned)
    linarith
  unfold Passes
  rw [bump_cfg]
  exact (Binary64.round_mono (add_le_add_left (Binary64.round_mono less) _)).trans passes

theorem isDouble_bump (doubles : ∀ counter, Binary64.IsDouble (s.get counter).value) (delta : ℚ)
    (other : Counter) : Binary64.IsDouble ((bump counter delta s).get other).value := by
  unfold bump
  by_cases same : other = counter
  · rw [same, BudgetState.get_set]
    exact Watts.isDouble_clampedDouble _
  · rw [BudgetState.get_set_other s same]
    exact doubles other

end Budget

/-! ## Runs that leave a margin -/

/-- A budget whose counters are doubles, and which passes unless nothing fits in it. -/
structure Audited (s : BudgetState) : Prop where
  doubles : ∀ counter, Binary64.IsDouble (s.get counter).value
  passes : tolerance ≤ s.cfg.hardMax.value → Passes s

/-- The invariant of these runs. -/
structure AllAudited (m : BudgetManager) : Prop where
  acyclic : m.Acyclic
  audited : ∀ id s, m.state? id = some s → Audited s

section Margin

variable {m : BudgetManager} {counter : Counter} {id : BudgetId} {amount : Watts}
  {budgetGen : BudgetGeneration}

theorem parentOf_adjustChain (m : BudgetManager) (counter : Counter) (delta : ℚ)
    (ids : List BudgetId) : (adjustChain m counter delta ids).parentOf = m.parentOf := by
  apply BudgetManager.parentOf_congr
  intro k
  rw [BudgetManager.cfg_state?_eq, BudgetManager.cfg_state?_eq, snapshots_adjustChain]

theorem allAudited_adjustChain (all : AllAudited m) {delta : ℚ}
    (passes : ∀ b ∈ m.chain id, ∀ s, m.state? b = some s → Audited s →
      Audited (bump counter delta s)) :
    AllAudited (adjustChain m counter delta (m.chain id)) where
  acyclic := by
    unfold BudgetManager.Acyclic
    rw [parentOf_adjustChain]
    exact all.acyclic
  audited := by
    intro b s after
    obtain ⟨before, found, outcome⟩ :=
      state?_adjustChain (BudgetManager.nodup_chain all.acyclic id) counter delta after
    rcases outcome with ⟨onChain, rfl⟩ | ⟨_, rfl⟩
    · exact passes b onChain before found (all.audited b before found)
    · exact all.audited b _ found

theorem allAudited_book (all : AllAudited m) (needsAuthority : Bool)
    (leaves : Bookable m needsAuthority id amount budgetGen → ∀ b ∈ m.chain id,
      ∀ s ∈ m.state? b,
        s.booked + amount.value + margin s.cfg.hardMax ≤ s.cfg.hardMax.value) :
    AllAudited (book counter needsAuthority m id amount budgetGen).1 := by
  rcases book_cases counter needsAuthority m id amount budgetGen with
    ⟨refused, _⟩ | ⟨taken, bookable⟩
  · rw [refused]
    exact all
  · rw [taken]
    refine allAudited_adjustChain all fun b onChain s found audited => ?_
    exact ⟨isDouble_bump audited.doubles _,
      fun _ => passes_of_margin (leaves bookable b onChain s found)⟩

theorem allAudited_unbook (all : AllAudited m) :
    AllAudited (unbook counter m id amount budgetGen).1 := by
  rcases unbook_cases counter m id amount budgetGen with refused | taken
  · rw [refused]
    exact all
  · rw [taken]
    refine allAudited_adjustChain all fun b _ s _ audited => ?_
    refine ⟨isDouble_bump audited.doubles _, fun max => ?_⟩
    rw [bump_cfg] at max
    exact passes_return (audited.doubles counter) (audited.passes max)

theorem allAudited_of_reachable {Power : Watts → Prop}
    (reached : (bookingRuns Power LeavesMargin).Reachable m) : AllAudited m := by
  refine reached.invariant AllAudited ?_ ?_
  · rintro m ⟨forest, unbooked⟩
    refine ⟨forest.acyclic, fun id s found => ?_⟩
    obtain ⟨_, reserved, used⟩ := unbooked id s found
    refine ⟨fun counter => ?_, passes_unbooked reserved used⟩
    have zero : Binary64.IsDouble 0 := ⟨0, 0, by norm_num, by norm_num, by norm_num⟩
    cases counter with
    | reserved => exact (congrArg Quantity.value reserved).symm ▸ zero
    | used => exact (congrArg Quantity.value used).symm ▸ zero
  · rintro m call _ all ⟨⟨_, some, _⟩, leaves, rfl⟩
    cases call with
    | install b => cases some
    | reserve id amount rid budgetGen => exact allAudited_book all true leaves
    | release id amount rid budgetGen => exact allAudited_unbook all
    | activate id amount rid budgetGen => exact allAudited_book all false leaves
    | deactivate id amount rid budgetGen => exact allAudited_unbook all

end Margin

/-! ## Runs on a grid -/

/-- A manager on a forest, with all powers on a grid and no budget over its maximum. -/
structure GridBooked (k : ℤ) (m : BudgetManager) : Prop where
  acyclic : m.Acyclic
  grid : m.OnGrid k
  within : ∀ id s, m.state? id = some s → s.booked ≤ s.cfg.hardMax.value

section Grid

variable {k : ℤ} {m : BudgetManager} {s : BudgetState} {counter : Counter} {id : BudgetId}
  {amount : Watts} {budgetGen : BudgetGeneration}

theorem acyclic_adjustChain (acyclic : m.Acyclic) (delta : ℚ) (ids : List BudgetId) :
    (m.adjustChain counter delta ids).Acyclic := by
  unfold BudgetManager.Acyclic
  rw [BudgetManager.parentOf_adjustChain]
  exact acyclic

/-- What fits on the grid stays within the maximum. -/
theorem booked_add_le (within : s.booked ≤ s.cfg.hardMax.value)
    (fits : amount.value ≤ s.ownAvailable.value) :
    s.booked + amount.value ≤ s.cfg.hardMax.value := by
  unfold BudgetState.ownAvailable at fits
  rw [Watts.clamped_value] at fits
  unfold BudgetState.booked at within ⊢
  rw [max_eq_right (by linarith)] at fits
  linarith

theorem gridBooked_book (booked : GridBooked k m) (onGrid : Binary64.OnGrid k amount.value)
    (coarse : -28 ≤ k) (finite : k ≤ 970) (needsAuthority : Bool) :
    GridBooked k (book counter needsAuthority m id amount budgetGen).1 := by
  have nodup := BudgetManager.nodup_chain booked.acyclic id
  rw [book_of_exact nodup (booksExactly_of_onGrid booked.grid onGrid coarse finite)]
  have grid : (BudgetManager.book counter needsAuthority m id amount budgetGen).1.OnGrid k :=
    onGrid_book booked.grid nodup onGrid coarse finite needsAuthority budgetGen
  rcases BudgetManager.book_cases counter needsAuthority m id amount budgetGen with
    ⟨refused, _⟩ | ⟨taken, bookable⟩
  · rw [refused]
    exact booked
  · rw [taken] at grid ⊢
    refine ⟨acyclic_adjustChain booked.acyclic _ _, grid, fun b s after => ?_⟩
    by_cases onChain : b ∈ m.chain id
    · rw [BudgetManager.state?_adjustChain_of_mem nodup onChain] at after
      obtain ⟨before, found, rfl⟩ := Option.map_eq_some_iff.mp after
      obtain ⟨t, same, room⟩ := bookable.room b onChain
      obtain rfl := Option.some.inj (found.symm.trans same)
      have fits : amount.value ≤ before.ownAvailable.value ∧
          Binary64.OnGrid k ((before.get counter).value + amount.value) :=
        fits_of_onGrid (booked.grid b before found) onGrid coarse finite room
      rw [BudgetState.booked_bump_of_nonneg before counter amount.nonneg, BudgetState.bump_cfg]
      exact booked_add_le (booked.within b before found) fits.1
    · rw [BudgetManager.state?_adjustChain_of_notMem onChain] at after
      exact booked.within b s after

theorem gridBooked_unbook (booked : GridBooked k m) (onGrid : Binary64.OnGrid k amount.value)
    (coarse : -28 ≤ k) (finite : k ≤ 970) :
    GridBooked k (unbook counter m id amount budgetGen).1 := by
  have nodup := BudgetManager.nodup_chain booked.acyclic id
  rw [unbook_of_exact nodup (returnsExactly_of_onGrid booked.grid onGrid coarse finite)]
  have grid : (BudgetManager.unbook counter m id amount budgetGen).1.OnGrid k :=
    onGrid_unbook booked.grid nodup onGrid coarse budgetGen
  rcases BudgetManager.unbook_cases counter m id amount budgetGen with ⟨refused, _⟩ | ⟨taken, _⟩
  · rw [refused]
    exact booked
  · rw [taken] at grid ⊢
    refine ⟨acyclic_adjustChain booked.acyclic _ _, grid, fun b s after => ?_⟩
    by_cases onChain : b ∈ m.chain id
    · rw [BudgetManager.state?_adjustChain_of_mem nodup onChain] at after
      obtain ⟨before, found, rfl⟩ := Option.map_eq_some_iff.mp after
      rw [BudgetState.bump_cfg]
      exact (before.booked_bump_le counter (neg_nonpos.mpr amount.nonneg)).trans
        (booked.within b before found)
    · rw [BudgetManager.state?_adjustChain_of_notMem onChain] at after
      exact booked.within b s after

theorem gridBooked_of_reachable (coarse : -28 ≤ k) (finite : k ≤ 970)
    (reached : (bookingRuns (fun power => Binary64.OnGrid k power.value)
      fun _ _ => True).Reachable m) : GridBooked k m := by
  refine reached.invariant (GridBooked k) ?_ ?_
  · rintro m ⟨forest, unbooked⟩
    refine ⟨forest.acyclic, fun b s found => ⟨(unbooked b s found).1, fun counter => ?_⟩,
      fun b s found => ?_⟩
    · obtain ⟨_, reserved, used⟩ := unbooked b s found
      cases counter with
      | reserved => exact (congrArg Quantity.value reserved).symm ▸ Binary64.onGrid_zero
      | used => exact (congrArg Quantity.value used).symm ▸ Binary64.onGrid_zero
    · obtain ⟨_, reserved, used⟩ := unbooked b s found
      unfold BudgetState.booked
      rw [reserved, used]
      simpa using s.cfg.hardMax.nonneg
  · rintro m call _ booked ⟨⟨amount, some, onGrid⟩, _, rfl⟩
    cases call with
    | install b => cases some
    | reserve id amount rid budgetGen =>
        obtain rfl := Option.some.inj some
        exact gridBooked_book booked onGrid coarse finite true
    | release id amount rid budgetGen =>
        obtain rfl := Option.some.inj some
        exact gridBooked_unbook booked onGrid coarse finite
    | activate id amount rid budgetGen =>
        obtain rfl := Option.some.inj some
        exact gridBooked_book booked onGrid coarse finite false
    | deactivate id amount rid budgetGen =>
        obtain rfl := Option.some.inj some
        exact gridBooked_unbook booked onGrid coarse finite

/-- Below `2 ^ 24` W the tolerance is not lost in a maximum, from there on it is. -/
theorem lt_round_add_tolerance_iff {max : ℚ} (grid : Binary64.OnGrid k max) (coarse : -28 ≤ k) :
    max < Binary64.round (max + tolerance) ↔ max < 2 ^ 24 := by
  obtain ⟨lower, upper⟩ := tolerance_bounds
  have positive := (zpow_pos (by norm_num : (0 : ℚ) < 2) (-30)).trans lower
  have double := (grid.isDouble (by omega)).1
  constructor
  · intro more
    by_contra large
    have least : ((2 : ℕ) : ℚ) ^ (24 : ℤ) ≤ max := by exact_mod_cast not_lt.mp large
    have above : 0 < max := (zpow_pos (by norm_num) _).trans_le least
    have place : -28 ≤ Binary64.lastPlace max := by
      have log := (Int.zpow_le_iff_le_log (by norm_num) above).mp least
      unfold Binary64.lastPlace
      rw [abs_of_pos above]
      omega
    have absorbed : tolerance < 2 ^ (Binary64.lastPlace max - 1) :=
      upper.trans_le (zpow_le_zpow_right₀ (by norm_num) (by omega))
    rw [Binary64.round_add_eq_self double above positive.le absorbed] at more
    exact lt_irrefl max more
  · intro small
    -- The maximum is a step of `2 ^ -28` below the bound.
    have step : max + 2 ^ (-28 : ℤ) ≤ 2 ^ 24 := by
      obtain ⟨n, multiple⟩ := grid.multiple
      have finer := multiple.trans (Binary64.multiple_of_le coarse n).symm
      have bound : (2 : ℚ) ^ 24 = ((2 ^ 52 : ℤ) : ℚ) * 2 ^ (-28 : ℤ) := by norm_num
      exact Binary64.place_step finer bound small
    have below : max + tolerance < ((2 : ℕ) : ℚ) ^ (24 : ℤ) := by
      have finer : (2 : ℚ) ^ (-29 : ℤ) < 2 ^ (-28 : ℤ) := by norm_num
      norm_num at step finer upper ⊢
      linarith
    have above : 0 < max + tolerance := add_pos_of_nonneg_of_pos grid.nonneg positive
    have place : Binary64.lastPlace (max + tolerance) ≤ -29 := by
      have log := (Int.lt_zpow_iff_log_lt (by norm_num) above).mp below
      unfold Binary64.lastPlace
      rw [abs_of_pos above]
      omega
    exact Binary64.lt_round_add double
      ((zpow_le_zpow_right₀ (by norm_num) (by omega)).trans_lt lower)

/-- On a grid a budget within its maximum fails the audit when it is full and the tolerance
is not lost. -/
theorem passes_iff (grid : s.OnGrid k) (within : s.booked ≤ s.cfg.hardMax.value)
    (coarse : -28 ≤ k) : Passes s ↔
      (s.cfg.hardMax.value < 2 ^ 24 → s.reserved.value + s.used.value ≠ s.cfg.hardMax.value) := by
  have booked : Binary64.OnGrid k s.booked :=
    (grid.counters .reserved).add (grid.counters .used) (within.trans_lt grid.hardMax.below)
  have double := Binary64.round_eq_self (booked.isDouble (by omega)).1
  obtain ⟨nonneg, small, _⟩ := tolerance_small coarse
  have full := lt_round_add_tolerance_iff grid.hardMax coarse
  unfold Passes
  rw [double, ← not_lt]
  rcases within.lt_or_eq with less | same
  · have passed := (booked.round_add_lt_iff grid.hardMax (by omega) nonneg small).mpr less
    exact ⟨fun _ _ => less.ne, fun _ => not_lt.mpr passed.le⟩
  · rw [same, full]
    exact ⟨fun large small => absurd small large, fun apart small => apart small same⟩

end Grid

end InDoubles

namespace BudgetManager

/-- Along every run whose bookings leave the margin the audit passes, if no maximum is below
the tolerance. Where all powers are on a grid it passes in a reached state exactly when no
budget below `2 ^ 24` W is booked up to its maximum. -/
theorem accounting_consistent_iff (m : BudgetManager) :
    (∀ Power, (bookingRuns Power LeavesMargin).Reachable m →
      (∀ id s, m.state? id = some s → InDoubles.tolerance ≤ s.cfg.hardMax.value) →
        InDoubles.accountingConsistent m = true) ∧
    ∀ k, -28 ≤ k → k ≤ 970 →
      (bookingRuns (fun power => Binary64.OnGrid k power.value) fun _ _ => True).Reachable m →
        (InDoubles.accountingConsistent m = true ↔ ∀ id s, m.state? id = some s →
          s.cfg.hardMax.value < 2 ^ 24 →
            s.reserved.value + s.used.value ≠ s.cfg.hardMax.value) := by
  constructor
  · intro Power reached usable
    have all := InDoubles.allAudited_of_reachable reached
    exact InDoubles.accountingConsistent_iff.mpr fun id s found =>
      (all.audited id s found).passes (usable id s found)
  · intro k coarse finite reached
    have booked := InDoubles.gridBooked_of_reachable coarse finite reached
    rw [InDoubles.accountingConsistent_iff]
    refine forall₃_congr fun id s found => ?_
    exact InDoubles.passes_iff (booked.grid id s found) (booked.within id s found) coarse

/-- The two levels with an amount of whole watts reserved on the accelerator. -/
theorem twoLevels_booking {Power : Watts → Prop} {Meets : BudgetManager → BudgetCall → Prop}
    (node : Power (Watts.clamped 300)) (gpu : Power (Watts.clamped 200)) {amount : Watts}
    (power : Power amount) (meets : Meets twoLevels (.reserve ⟨2⟩ amount ⟨1⟩ .first)) :
    (bookingRuns Power Meets).Reachable
      (InDoubles.reserve twoLevels ⟨2⟩ amount ⟨1⟩ .first).1 := by
  refine .step (BudgetCall.reserve ⟨2⟩ amount ⟨1⟩ .first) (.start ?_)
    ⟨⟨amount, rfl, power⟩, meets, rfl⟩
  refine ⟨(sound_of_reachable twoLevels_reachable).forest, fun id s found => ?_⟩
  have unbooked : ∀ s ∈ twoLevels.states.entries,
      (s.cfg.hardMax = Watts.clamped 300 ∨ s.cfg.hardMax = Watts.clamped 200) ∧
        s.reserved = Watts.zero ∧ s.used = Watts.zero := by decide +kernel
  obtain ⟨is300 | is200, zero⟩ := unbooked s (Keyed.mem_of_find? found)
  · exact ⟨is300 ▸ node, zero⟩
  · exact ⟨is200 ▸ gpu, zero⟩

/-- With 150 W of 200 W reserved the audit passes, by either part. -/
theorem accounting_consistent_iff_twoLevels :
    let m := (InDoubles.reserve twoLevels ⟨2⟩ (Watts.clamped 150) ⟨1⟩ .first).1
    InDoubles.accountingConsistent m = true ∧
      ∀ id s, m.state? id = some s → s.cfg.hardMax.value < 2 ^ 24 →
        s.reserved.value + s.used.value ≠ s.cfg.hardMax.value := by
  intro m
  have leaves : LeavesMargin twoLevels (.reserve ⟨2⟩ (Watts.clamped 150) ⟨1⟩ .first) := by
    intro _
    decide +kernel
  have usable : ∀ s ∈ m.states.entries, InDoubles.tolerance ≤ s.cfg.hardMax.value := by
    decide +kernel
  have margins : (bookingRuns (fun _ => True) LeavesMargin).Reachable m :=
    twoLevels_booking trivial trivial trivial leaves
  have passed := (accounting_consistent_iff m).1 (fun _ => True) margins
    fun id s found => usable s (Keyed.mem_of_find? found)
  have grid : (bookingRuns (fun power => Binary64.OnGrid 0 power.value) fun _ _ => True).Reachable
      m := by
    apply twoLevels_booking
    · decide +kernel
    · decide +kernel
    · decide +kernel
    · trivial
  exact ⟨passed, ((accounting_consistent_iff m).2 0 (by norm_num) (by norm_num) grid).mp passed⟩

/-- With all of the 200 W reserved the audit raises an alarm. -/
theorem audit_alarms_at_hardMax :
    ¬ ∀ m, (bookingRuns WholeMilliwatts fun _ _ => True).Reachable m →
      InDoubles.accountingConsistent m = true := by
  intro claimed
  have reached : (bookingRuns WholeMilliwatts fun _ _ => True).Reachable
      (InDoubles.reserve twoLevels ⟨2⟩ (Watts.clamped 200) ⟨1⟩ .first).1 := by
    apply twoLevels_booking
    · exact ⟨300000, by decide +kernel⟩
    · exact ⟨200000, by decide +kernel⟩
    · exact ⟨200000, by decide +kernel⟩
    · trivial
  have alarm : InDoubles.accountingConsistent
      (InDoubles.reserve twoLevels ⟨2⟩ (Watts.clamped 200) ⟨1⟩ .first).1 = false := by
    decide +kernel
  rw [claimed _ reached] at alarm
  cases alarm

end BudgetManager

end PowerGovernor
