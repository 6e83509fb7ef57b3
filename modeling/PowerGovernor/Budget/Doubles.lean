import PowerGovernor.Budget.Chain

/-!
The budget operations in doubles.

Owns the operations of `BudgetManager` with the rounding of every sum and difference the
code forms, the conditions under which a booking and a return come out as the exact ones,
and the grids of powers on which all of them do.

Does not own the counters of `BudgetManager` itself, which are exact.
-/

set_option autoImplicit false

namespace PowerGovernor

open Binary64 (Exact)

/-- A definition is found in the snapshots. -/
theorem BudgetManager.cfg_state?_eq (m : BudgetManager) (k : BudgetId) :
    (m.state? k).map BudgetState.cfg = m.snapshots.find? fun b => b.id = k := by
  unfold state? Keyed.find? snapshots
  rw [List.find?_map]
  rfl

/-! ## The operations -/

namespace InDoubles

/-- The double next to `1e-9`. -/
def tolerance : ℚ := Binary64.round slack

/-- `own_available`; each of the two differences rounds. -/
def ownAvailable (s : BudgetState) : Watts :=
  Watts.clampedDouble (Binary64.round (s.cfg.hardMax.value - s.reserved.value) - s.used.value)

/-- The test of `chain_has_capacity`. -/
def LacksRoom (s : BudgetState) (amount : Watts) : Prop :=
  Binary64.round ((ownAvailable s).value + tolerance) < amount.value

instance (s : BudgetState) (amount : Watts) : Decidable (LacksRoom s amount) :=
  inferInstanceAs (Decidable (_ < _))

/-- The test of `release` and `deactivate`. -/
def LacksBooking (counter : Counter) (s : BudgetState) (amount : Watts) : Prop :=
  Binary64.round ((s.get counter).value + tolerance) < amount.value

instance (counter : Counter) (s : BudgetState) (amount : Watts) :
    Decidable (LacksBooking counter s amount) :=
  inferInstanceAs (Decidable (_ < _))

def chainHasCapacity (m : BudgetManager) (id : BudgetId) (amount : Watts) : Bool :=
  (m.chain id).all fun b =>
    match m.state? b with
    | none => false
    | some s => !decide (LacksRoom s amount)

def chainAccountsFor (m : BudgetManager) (counter : Counter) (id : BudgetId) (amount : Watts) :
    Bool :=
  (m.chain id).all fun b =>
    match m.state? b with
    | none => false
    | some s => !decide (LacksBooking counter s amount)

/-- What one iteration of a write loop makes of a budget. -/
def bump (counter : Counter) (delta : ℚ) (s : BudgetState) : BudgetState :=
  s.set counter (Watts.clampedDouble ((s.get counter).value + delta))

def adjust (counter : Counter) (delta : ℚ) (m : BudgetManager) (b : BudgetId) : BudgetManager :=
  ⟨m.states.modify b (bump counter delta)
    fun s keyed => by rw [bump, BudgetState.set_cfg]; exact keyed⟩

def adjustChain (m : BudgetManager) (counter : Counter) (delta : ℚ) (ids : List BudgetId) :
    BudgetManager :=
  ids.foldl (adjust counter delta) m

/-- The body `reserve` and `activate` share. -/
def book (counter : Counter) (needsAuthority : Bool) (m : BudgetManager) (id : BudgetId)
    (amount : Watts) (budgetGen : BudgetGeneration) : BudgetManager × Bool :=
  match m.state? id with
  | none => (m, false)
  | some s =>
    if s.cfg.generation ≠ budgetGen then (m, false)
    else if needsAuthority && !s.cfg.authoritative then (m, false)
    else if amount.value < 0 then (m, false)
    else if !chainHasCapacity m id amount then (m, false)
    else (adjustChain m counter amount.value (m.chain id), true)

/-- The body `release` and `deactivate` share. -/
def unbook (counter : Counter) (m : BudgetManager) (id : BudgetId) (amount : Watts)
    (budgetGen : BudgetGeneration) : BudgetManager × Bool :=
  match m.state? id with
  | none => (m, false)
  | some s =>
    if s.cfg.generation ≠ budgetGen then (m, false)
    else if amount.value < 0 then (m, false)
    else if !chainAccountsFor m counter id amount then (m, false)
    else (adjustChain m counter (-amount.value) (m.chain id), true)

def reserve (m : BudgetManager) (id : BudgetId) (amount : Watts) (_rid : ReservationId)
    (budgetGen : BudgetGeneration) : BudgetManager × Bool :=
  book .reserved true m id amount budgetGen

def release (m : BudgetManager) (id : BudgetId) (amount : Watts) (_rid : ReservationId)
    (budgetGen : BudgetGeneration) : BudgetManager × Bool :=
  unbook .reserved m id amount budgetGen

def activate (m : BudgetManager) (id : BudgetId) (amount : Watts) (_rid : ReservationId)
    (budgetGen : BudgetGeneration) : BudgetManager × Bool :=
  book .used false m id amount budgetGen

def deactivate (m : BudgetManager) (id : BudgetId) (amount : Watts) (_rid : ReservationId)
    (budgetGen : BudgetGeneration) : BudgetManager × Bool :=
  unbook .used m id amount budgetGen

/-- The loop of `available`, over what each budget has left if it is installed. -/
def availableLoop (left : BudgetId → Option Watts) (avail : Watts) : List BudgetId → Watts
  | [] => avail
  | b :: rest =>
    match left b with
    | none => Watts.zero
    | some own => availableLoop left (Watts.min avail own) rest

def available (m : BudgetManager) (id : BudgetId) : Watts :=
  let left := fun b => (m.state? b).map ownAvailable
  match left id with
  | none => Watts.zero
  | some own => availableLoop left own (m.chain id)

/-- `accounting_consistent`: both sums of the test round. -/
def accountingConsistent (m : BudgetManager) : Bool :=
  m.states.entries.all fun s =>
    !decide (s.cfg.hardMax.value <
      Binary64.round (Binary64.round (s.reserved.value + s.used.value) + tolerance))

/-- What a granted booking requires of the manager. -/
structure Bookable (m : BudgetManager) (needsAuthority : Bool) (id : BudgetId) (amount : Watts)
    (budgetGen : BudgetGeneration) : Prop where
  installed : ∃ s, m.state? id = some s ∧ s.cfg.generation = budgetGen ∧
    (needsAuthority = true → s.cfg.authoritative = true)
  room : ∀ b ∈ m.chain id, ∃ s, m.state? b = some s ∧ ¬ LacksRoom s amount

theorem chainHasCapacity_iff {m : BudgetManager} {id : BudgetId} {amount : Watts} :
    chainHasCapacity m id amount = true ↔
      ∀ b ∈ m.chain id, ∃ s, m.state? b = some s ∧ ¬ LacksRoom s amount := by
  rw [chainHasCapacity, List.all_eq_true]
  refine forall₂_congr fun b _ => ?_
  cases m.state? b with
  | none => simp
  | some s => simp

/-- A booking refuses and changes nothing, or is entitled to the write loop it runs. -/
theorem book_cases (counter : Counter) (needsAuthority : Bool) (m : BudgetManager) (id : BudgetId)
    (amount : Watts) (budgetGen : BudgetGeneration) :
    (book counter needsAuthority m id amount budgetGen = (m, false) ∧
      ¬ Bookable m needsAuthority id amount budgetGen) ∨
    (book counter needsAuthority m id amount budgetGen =
        (adjustChain m counter amount.value (m.chain id), true) ∧
      Bookable m needsAuthority id amount budgetGen) := by
  have bookable_iff : ∀ s, m.state? id = some s →
      (Bookable m needsAuthority id amount budgetGen ↔ s.cfg.generation = budgetGen ∧
        (needsAuthority && !s.cfg.authoritative) = false ∧
          chainHasCapacity m id amount = true) := by
    intro s found
    rw [chainHasCapacity_iff]
    constructor
    · rintro ⟨⟨other, same, current, authority⟩, room⟩
      obtain rfl := Option.some.inj (found.symm.trans same)
      exact ⟨current, by cases needsAuthority <;> simp_all, room⟩
    · rintro ⟨current, authority, room⟩
      exact ⟨⟨s, found, current, by cases needsAuthority <;> simp_all⟩, room⟩
  unfold book
  cases found : m.state? id with
  | none =>
      refine .inl ⟨rfl, fun bookable => ?_⟩
      obtain ⟨s, installed, _⟩ := bookable.installed
      rw [found] at installed
      cases installed
  | some s =>
      rw [bookable_iff s found]
      simp only [if_neg (not_lt.mpr amount.nonneg)]
      by_cases current : s.cfg.generation = budgetGen
      · rw [if_neg (not_not.mpr current)]
        cases refused : needsAuthority && !s.cfg.authoritative with
        | true => exact .inl ⟨rfl, fun bookable => Bool.noConfusion bookable.2.1⟩
        | false =>
            cases room : chainHasCapacity m id amount with
            | false => exact .inl ⟨rfl, fun bookable => Bool.noConfusion bookable.2.2⟩
            | true => exact .inr ⟨rfl, current, rfl, rfl⟩
      · exact .inl ⟨if_pos current, fun bookable => current bookable.1⟩

/-- A return refuses and changes nothing, or runs its write loop. -/
theorem unbook_cases (counter : Counter) (m : BudgetManager) (id : BudgetId) (amount : Watts)
    (budgetGen : BudgetGeneration) :
    unbook counter m id amount budgetGen = (m, false) ∨
      unbook counter m id amount budgetGen =
        (adjustChain m counter (-amount.value) (m.chain id), true) := by
  unfold unbook
  cases m.state? id with
  | none => exact .inl rfl
  | some s =>
      by_cases current : s.cfg.generation = budgetGen
      · cases booked : chainAccountsFor m counter id amount with
        | false => simp [current]
        | true => simp [current, not_lt.mpr amount.nonneg]
      · simp [current]

theorem state?_adjust (m : BudgetManager) (counter : Counter) (delta : ℚ) (b k : BudgetId) :
    (adjust counter delta m b).state? k =
      if k = b then (m.state? b).map (bump counter delta) else m.state? k := by
  unfold adjust BudgetManager.state?
  rw [Keyed.find?_modify]

/-- What a write loop that meets no budget twice leaves behind. -/
theorem state?_adjustChain {m : BudgetManager} {ids : List BudgetId} (nodup : ids.Nodup)
    (counter : Counter) (delta : ℚ) {k : BudgetId} {s : BudgetState}
    (after : (adjustChain m counter delta ids).state? k = some s) :
    ∃ before, m.state? k = some before ∧ (k ∈ ids ∧ s = bump counter delta before ∨
      k ∉ ids ∧ s = before) := by
  have iterated : (adjustChain m counter delta ids).state? k = _ :=
    BudgetManager.state?_foldl (fun m => state?_adjust m counter delta) ids k
  rw [iterated] at after
  obtain ⟨before, found, rfl⟩ := Option.map_eq_some_iff.mp after
  refine ⟨before, found, ?_⟩
  by_cases member : k ∈ ids
  · rw [List.count_eq_one_of_mem nodup member]
    exact .inl ⟨member, rfl⟩
  · rw [List.count_eq_zero_of_not_mem member]
    exact .inr ⟨member, rfl⟩

/-- Booking changes no definition, and no place in the order. -/
theorem snapshots_adjustChain (m : BudgetManager) (counter : Counter) (delta : ℚ)
    (ids : List BudgetId) : (adjustChain m counter delta ids).snapshots = m.snapshots := by
  induction ids generalizing m with
  | nil => rfl
  | cons b rest inductionHypothesis =>
      have step : (adjust counter delta m b).snapshots = m.snapshots := by
        unfold adjust BudgetManager.snapshots Keyed.modify
        dsimp only
        rw [List.map_map]
        apply List.map_congr_left
        intro s _
        rw [Function.comp_apply]
        split
        · exact BudgetState.set_cfg _ _ _
        · rfl
      exact (inductionHypothesis (adjust counter delta m b)).trans step

theorem snapshots_book (counter : Counter) (needsAuthority : Bool) (m : BudgetManager)
    (id : BudgetId) (amount : Watts) (budgetGen : BudgetGeneration) :
    (book counter needsAuthority m id amount budgetGen).1.snapshots = m.snapshots := by
  rcases book_cases counter needsAuthority m id amount budgetGen with ⟨refused, _⟩ | ⟨taken, _⟩
  · rw [refused]
  · rw [taken]
    exact snapshots_adjustChain m _ _ _

/-- One mutating call of the interface. -/
def exec (m : BudgetManager) : BudgetCall → BudgetManager × Bool
  | .install b => m.install b
  | .reserve id amount rid budgetGen => reserve m id amount rid budgetGen
  | .release id amount rid budgetGen => release m id amount rid budgetGen
  | .activate id amount rid budgetGen => activate m id amount rid budgetGen
  | .deactivate id amount rid budgetGen => deactivate m id amount rid budgetGen

/-! ## Calls that come out exactly -/

/-- A booking comes out as without rounding: the capacity test of every budget of the chain
decides as the exact one, and if all of them pass no sum rounds. -/
structure BooksExactly (counter : Counter) (m : BudgetManager) (id : BudgetId) (amount : Watts) :
    Prop where
  decides : ∀ b ∈ m.chain id, ∀ s ∈ m.state? b,
    (LacksRoom s amount ↔ s.ownAvailable.value + slack < amount.value)
  sums : m.chainHasCapacity id amount = true → ∀ b ∈ m.chain id, ∀ s ∈ m.state? b,
    Exact ((s.get counter).value + amount.value)

/-- So does a return. -/
structure ReturnsExactly (counter : Counter) (m : BudgetManager) (id : BudgetId) (amount : Watts) :
    Prop where
  decides : ∀ b ∈ m.chain id, ∀ s ∈ m.state? b,
    (LacksBooking counter s amount ↔ (s.get counter).value + slack < amount.value)
  sums : m.chainAccountsFor counter id amount = true → ∀ b ∈ m.chain id, ∀ s ∈ m.state? b,
    Exact ((s.get counter).value + -amount.value)

/-- What a return looks at are the counters on the chain. -/
theorem returnsExactly_congr {m m' : BudgetManager} {counter : Counter} {id : BudgetId}
    {amount : Watts} (chain : m'.chain id = m.chain id)
    (same : ∀ b, m'.amount? counter b = m.amount? counter b)
    (exactly : ReturnsExactly counter m id amount) : ReturnsExactly counter m' id amount := by
  have before : ∀ b, ∀ s' ∈ m'.state? b, ∃ s, m.state? b = some s ∧
      s.get counter = s'.get counter := by
    intro b s' found
    have counted := same b
    rw [BudgetManager.amount?, show m'.state? b = some s' from found] at counted
    exact Option.map_eq_some_iff.mp counted.symm
  constructor
  · intro b onChain s' found
    rw [chain] at onChain
    obtain ⟨s, original, get⟩ := before b s' found
    unfold LacksBooking
    rw [← get]
    exact exactly.decides b onChain s original
  · intro booked b onChain s' found
    rw [chain] at onChain
    obtain ⟨s, original, get⟩ := before b s' found
    rw [← get]
    refine exactly.sums (BudgetManager.chainAccountsFor_iff.mpr fun c on => ?_) b onChain s original
    obtain ⟨t', found', covers⟩ := BudgetManager.chainAccountsFor_iff.mp booked c (chain ▸ on)
    obtain ⟨t, original', get'⟩ := before c t' found'
    exact ⟨t, original', get'.symm ▸ covers⟩

section Exactly

variable {m : BudgetManager} {counter : Counter} {id : BudgetId} {amount : Watts}

theorem bump_of_exact {s : BudgetState} {delta : ℚ}
    (exact : Exact ((s.get counter).value + delta)) :
    bump counter delta s = s.bump counter delta := by
  rw [bump, Watts.clampedDouble_of_exact exact, BudgetState.bump]

/-- A write loop that meets no budget twice and rounds no sum is the exact one. -/
theorem adjustChain_of_exact {delta : ℚ} {ids : List BudgetId} (nodup : ids.Nodup)
    (sums : ∀ b ∈ ids, ∀ s ∈ m.state? b, Exact ((s.get counter).value + delta)) :
    adjustChain m counter delta ids = m.adjustChain counter delta ids := by
  induction ids generalizing m with
  | nil => rfl
  | cons b rest inductionHypothesis =>
      obtain ⟨apart, nodup⟩ := List.nodup_cons.mp nodup
      have first : adjust counter delta m b = m.adjust counter delta b := by
        unfold adjust BudgetManager.adjust
        congr 1
        exact Keyed.modify_congr fun s found => bump_of_exact (sums b List.mem_cons_self s found)
      show adjustChain (adjust counter delta m b) counter delta rest =
        (m.adjust counter delta b).adjustChain counter delta rest
      rw [first]
      refine inductionHypothesis nodup fun c member s found => ?_
      have different : c ≠ b := fun same => apart (same ▸ member)
      rw [BudgetManager.state?_adjust, if_neg different] at found
      exact sums c (List.mem_cons_of_mem b member) s found

theorem chainHasCapacity_of_exact (exactly : BooksExactly counter m id amount) :
    chainHasCapacity m id amount = m.chainHasCapacity id amount := by
  unfold chainHasCapacity BudgetManager.chainHasCapacity
  rw [Bool.eq_iff_iff, List.all_eq_true, List.all_eq_true]
  refine forall₂_congr fun b onChain => ?_
  cases found : m.state? b with
  | none => rfl
  | some s => simp only [decide_eq_decide.mpr (exactly.decides b onChain s found)]

theorem chainAccountsFor_of_exact (exactly : ReturnsExactly counter m id amount) :
    chainAccountsFor m counter id amount = m.chainAccountsFor counter id amount := by
  unfold chainAccountsFor BudgetManager.chainAccountsFor
  rw [Bool.eq_iff_iff, List.all_eq_true, List.all_eq_true]
  refine forall₂_congr fun b onChain => ?_
  cases found : m.state? b with
  | none => rfl
  | some s => simp only [decide_eq_decide.mpr (exactly.decides b onChain s found)]

theorem book_of_exact (nodup : (m.chain id).Nodup) (exactly : BooksExactly counter m id amount)
    (needsAuthority : Bool) (budgetGen : BudgetGeneration) :
    book counter needsAuthority m id amount budgetGen =
      BudgetManager.book counter needsAuthority m id amount budgetGen := by
  unfold book BudgetManager.book
  rw [chainHasCapacity_of_exact exactly]
  cases room : m.chainHasCapacity id amount with
  | false => rfl
  | true =>
      rewrite [adjustChain_of_exact nodup (exactly.sums room)]
      cases m.state? id with
      | none => rfl
      | some s => rfl

theorem unbook_of_exact (nodup : (m.chain id).Nodup)
    (exactly : ReturnsExactly counter m id amount) (budgetGen : BudgetGeneration) :
    unbook counter m id amount budgetGen =
      BudgetManager.unbook counter m id amount budgetGen := by
  unfold unbook BudgetManager.unbook
  rw [chainAccountsFor_of_exact exactly]
  cases booked : m.chainAccountsFor counter id amount with
  | false => rfl
  | true =>
      rewrite [adjustChain_of_exact nodup (exactly.sums booked)]
      cases m.state? id with
      | none => rfl
      | some s => rfl

end Exactly

end InDoubles

/-! ## Grids -/

/-- The maximum and the counters are multiples of `2 ^ k` W. -/
structure BudgetState.OnGrid (k : ℤ) (s : BudgetState) : Prop where
  hardMax : Binary64.OnGrid k s.cfg.hardMax.value
  counters : ∀ counter, Binary64.OnGrid k (s.get counter).value

/-- The powers of all budgets are on one grid. -/
def BudgetManager.OnGrid (k : ℤ) (m : BudgetManager) : Prop :=
  ∀ b s, m.state? b = some s → s.OnGrid k

namespace InDoubles

theorem slack_le : slack ≤ 2 ^ (-29 : ℤ) := by norm_num [slack]

/-- The tolerance is between two powers of two. -/
theorem tolerance_bounds : 2 ^ (-30 : ℤ) < tolerance ∧ tolerance < 2 ^ (-29 : ℤ) := by
  have lower : Binary64.IsDouble (17 * 2 ^ (-34 : ℤ)) :=
    ⟨17, -34, by norm_num, by norm_num, by norm_num⟩
  have upper : Binary64.IsDouble (3 * 2 ^ (-31 : ℤ)) :=
    ⟨3, -31, by norm_num, by norm_num, by norm_num⟩
  constructor
  · calc (2 : ℚ) ^ (-30 : ℤ) < 17 * 2 ^ (-34 : ℤ) := by norm_num
      _ ≤ tolerance := Binary64.le_round lower (by norm_num [slack])
  · calc tolerance ≤ 3 * 2 ^ (-31 : ℤ) := Binary64.round_le upper (by norm_num [slack])
      _ < 2 ^ (-29 : ℤ) := by norm_num

section Grid

variable {k : ℤ} {m : BudgetManager} {s : BudgetState} {counter : Counter} {id : BudgetId}
  {amount : Watts}

/-- On a grid of steps of at least `2 ^ -28` W the tolerance is at most half a step. -/
theorem tolerance_small (coarse : -28 ≤ k) :
    0 ≤ tolerance ∧ tolerance ≤ 2 ^ (k - 1) ∧ slack ≤ 2 ^ (k - 1) := by
  have half : (2 : ℚ) ^ (-29 : ℤ) ≤ 2 ^ (k - 1) :=
    zpow_le_zpow_right₀ (by norm_num) (by omega)
  have positive : (0 : ℚ) < 2 ^ (-30 : ℤ) := zpow_pos (by norm_num) _
  exact ⟨positive.le.trans tolerance_bounds.1.le, tolerance_bounds.2.le.trans half,
    slack_le.trans half⟩

/-- On a grid `own_available` does not round. -/
theorem ownAvailable_of_onGrid (grid : s.OnGrid k) (coarse : -28 ≤ k) (finite : k ≤ 970) :
    ownAvailable s = s.ownAvailable ∧ Binary64.OnGrid k s.ownAvailable.value := by
  obtain ⟨h, hardMax⟩ := grid.hardMax.multiple
  obtain ⟨r, reserved⟩ := (grid.counters .reserved).multiple
  obtain ⟨u, used⟩ := (grid.counters .used).multiple
  change s.reserved.value = _ at reserved
  change s.used.value = _ at used
  have bounds := grid.hardMax.below
  have reservedBelow := (grid.counters .reserved).below
  have usedBelow := (grid.counters .used).below
  change s.reserved.value < _ at reservedBelow
  change s.used.value < _ at usedBelow
  have double : (2 : ℚ) ^ (k + 53) = 2 * 2 ^ (k + 52) := by
    rw [show k + 53 = k + 52 + 1 by ring, zpow_add_one₀ (by norm_num)]
    ring
  have hardMaxNonneg := s.cfg.hardMax.nonneg
  have reservedNonneg := s.reserved.nonneg
  have usedNonneg := s.used.nonneg
  have first : Binary64.IsDouble (s.cfg.hardMax.value - s.reserved.value) := by
    refine Binary64.isDouble_of_multiple (k := k) ⟨h - r, ?_⟩ ?_ (by omega)
    · rw [hardMax, reserved]
      push_cast
      ring
    · rw [abs_lt, double]
      constructor <;> linarith
  have small : |s.cfg.hardMax.value - s.reserved.value - s.used.value| < 2 ^ (k + 53) := by
    rw [abs_lt, double]
    constructor <;> linarith
  have multiple : s.cfg.hardMax.value - s.reserved.value - s.used.value =
      ((h - r - u : ℤ) : ℚ) * 2 ^ k := by
    rw [hardMax, reserved, used]
    push_cast
    ring
  have second : Exact (s.cfg.hardMax.value - s.reserved.value - s.used.value) := by
    apply (Binary64.isDouble_of_multiple ⟨_, multiple⟩ small (by omega)).exact
    calc |s.cfg.hardMax.value - s.reserved.value - s.used.value| ≤ 2 ^ (k + 53) := small.le
      _ ≤ (2 : ℚ) ^ ((1023 : ℕ) : ℤ) := zpow_le_zpow_right₀ (by norm_num) (by omega)
      _ = 2 ^ 1023 := zpow_natCast 2 1023
  refine ⟨?_, ?_⟩
  · rw [ownAvailable, Binary64.round_eq_self first, Watts.clampedDouble_of_exact second]
    rfl
  · unfold BudgetState.ownAvailable
    rw [Watts.clamped_value]
    rcases max_cases 0 (s.cfg.hardMax.value - s.reserved.value - s.used.value) with
      ⟨exhausted, _⟩ | ⟨free, nonneg⟩
    · rw [exhausted]
      exact Binary64.onGrid_zero
    · rw [free]
      exact ⟨⟨_, multiple⟩, nonneg.le, by linarith⟩

/-- On a grid a capacity test passes when the amount fits. -/
theorem lacksRoom_iff (grid : s.OnGrid k) (onGrid : Binary64.OnGrid k amount.value)
    (coarse : -28 ≤ k) (finite : k ≤ 970) :
    (LacksRoom s amount ↔ s.ownAvailable.value < amount.value) ∧
      (s.ownAvailable.value + slack < amount.value ↔ s.ownAvailable.value < amount.value) := by
  obtain ⟨same, own⟩ := ownAvailable_of_onGrid grid coarse finite
  obtain ⟨nonneg, small, smallSlack⟩ := tolerance_small coarse
  unfold LacksRoom
  rw [same]
  exact ⟨own.round_add_lt_iff onGrid (by omega) nonneg small,
    own.add_lt_iff onGrid slack_nonneg smallSlack⟩

theorem lacksBooking_iff (counter : Counter) (grid : s.OnGrid k)
    (onGrid : Binary64.OnGrid k amount.value) (coarse : -28 ≤ k) :
    (LacksBooking counter s amount ↔ (s.get counter).value < amount.value) ∧
      ((s.get counter).value + slack < amount.value ↔ (s.get counter).value < amount.value) := by
  obtain ⟨nonneg, small, smallSlack⟩ := tolerance_small coarse
  have held := grid.counters counter
  exact ⟨held.round_add_lt_iff onGrid (by omega) nonneg small,
    held.add_lt_iff onGrid slack_nonneg smallSlack⟩

/-- What passes the capacity test fits, and is added on the grid. -/
theorem fits_of_onGrid (grid : s.OnGrid k) (onGrid : Binary64.OnGrid k amount.value)
    (coarse : -28 ≤ k) (finite : k ≤ 970)
    (room : amount.value ≤ s.ownAvailable.value + slack) :
    amount.value ≤ s.ownAvailable.value ∧
      Binary64.OnGrid k ((s.get counter).value + amount.value) := by
  have fits : amount.value ≤ s.ownAvailable.value := by
    have exact := (lacksRoom_iff grid onGrid coarse finite).2
    exact not_lt.mp fun short => not_le.mpr (exact.mpr short) room
  refine ⟨fits, (grid.counters counter).add onGrid ?_⟩
  have hardMaxBelow := grid.hardMax.below
  have reservedNonneg := s.reserved.nonneg
  have usedNonneg := s.used.nonneg
  rcases amount.nonneg.eq_or_lt with zero | positive
  · rw [← zero, add_zero]
    exact (grid.counters counter).below
  · unfold BudgetState.ownAvailable at fits
    rw [Watts.clamped_value] at fits
    have free : amount.value ≤ s.cfg.hardMax.value - s.reserved.value - s.used.value :=
      (le_max_iff.mp fits).resolve_left (not_le.mpr positive)
    cases counter with
    | reserved =>
        show s.reserved.value + amount.value < _
        linarith
    | used =>
        show s.used.value + amount.value < _
        linarith

/-- What passes the test of a return is covered, and is taken off on the grid. -/
theorem covered_of_onGrid (grid : s.OnGrid k) (onGrid : Binary64.OnGrid k amount.value)
    (coarse : -28 ≤ k) (booked : amount.value ≤ (s.get counter).value + slack) :
    amount.value ≤ (s.get counter).value ∧
      Binary64.OnGrid k ((s.get counter).value + -amount.value) := by
  have covered : amount.value ≤ (s.get counter).value := by
    have exact := (lacksBooking_iff counter grid onGrid coarse).2
    exact not_lt.mp fun short => not_le.mpr (exact.mpr short) booked
  rw [← sub_eq_add_neg]
  exact ⟨covered, (grid.counters counter).sub onGrid covered⟩

/-- A booking on a grid comes out exactly. -/
theorem booksExactly_of_onGrid (grid : m.OnGrid k) (onGrid : Binary64.OnGrid k amount.value)
    (coarse : -28 ≤ k) (finite : k ≤ 970) : BooksExactly counter m id amount where
  decides := by
    intro b _ s found
    obtain ⟨rounded, exact⟩ := lacksRoom_iff (grid b s found) onGrid coarse finite
    exact rounded.trans exact.symm
  sums := by
    intro room b onChain s found
    obtain ⟨t, same, fits⟩ := BudgetManager.chainHasCapacity_iff.mp room b onChain
    obtain rfl := Option.some.inj (found.symm.trans same)
    exact (fits_of_onGrid (grid b s found) onGrid coarse finite fits).2.exact (by omega) (by omega)

/-- So does a return. -/
theorem returnsExactly_of_onGrid (grid : m.OnGrid k) (onGrid : Binary64.OnGrid k amount.value)
    (coarse : -28 ≤ k) (finite : k ≤ 970) : ReturnsExactly counter m id amount where
  decides := by
    intro b _ s found
    obtain ⟨rounded, exact⟩ := lacksBooking_iff counter (grid b s found) onGrid coarse
    exact rounded.trans exact.symm
  sums := by
    intro booked b onChain s found
    obtain ⟨t, same, covers⟩ := BudgetManager.chainAccountsFor_iff.mp booked b onChain
    obtain rfl := Option.some.inj (found.symm.trans same)
    exact (covered_of_onGrid (grid b s found) onGrid coarse covers).2.exact (by omega) (by omega)

/-! ## Bookings stay on the grid -/

theorem onGrid_bump (grid : s.OnGrid k) {delta : ℚ}
    (sum : Binary64.OnGrid k ((s.get counter).value + delta)) :
    (s.bump counter delta).OnGrid k where
  hardMax := by
    rw [BudgetState.bump_cfg]
    exact grid.hardMax
  counters := by
    intro other
    unfold BudgetState.bump
    by_cases same : other = counter
    · rw [same, BudgetState.get_set, Watts.clamped_value, max_eq_right sum.nonneg]
      exact sum
    · rw [BudgetState.get_set_other s same]
      exact grid.counters other

theorem onGrid_adjustChain (grid : m.OnGrid k) (nodup : (m.chain id).Nodup) {delta : ℚ}
    (sums : ∀ b ∈ m.chain id, ∀ s, m.state? b = some s →
      Binary64.OnGrid k ((s.get counter).value + delta)) :
    (m.adjustChain counter delta (m.chain id)).OnGrid k := by
  intro b s after
  by_cases onChain : b ∈ m.chain id
  · rw [BudgetManager.state?_adjustChain_of_mem nodup onChain] at after
    obtain ⟨before, found, rfl⟩ := Option.map_eq_some_iff.mp after
    exact onGrid_bump (grid b before found) (sums b onChain before found)
  · rw [BudgetManager.state?_adjustChain_of_notMem onChain] at after
    exact grid b s after

theorem onGrid_book (grid : m.OnGrid k) (nodup : (m.chain id).Nodup)
    (onGrid : Binary64.OnGrid k amount.value) (coarse : -28 ≤ k) (finite : k ≤ 970)
    (needsAuthority : Bool) (budgetGen : BudgetGeneration) :
    (BudgetManager.book counter needsAuthority m id amount budgetGen).1.OnGrid k := by
  rcases BudgetManager.book_cases counter needsAuthority m id amount budgetGen with
    ⟨refused, _⟩ | ⟨taken, bookable⟩
  · rw [refused]
    exact grid
  · rw [taken]
    refine onGrid_adjustChain grid nodup fun b onChain s found => ?_
    obtain ⟨t, same, fits⟩ := bookable.room b onChain
    obtain rfl := Option.some.inj (found.symm.trans same)
    exact (fits_of_onGrid (grid b s found) onGrid coarse finite fits).2

theorem onGrid_unbook (grid : m.OnGrid k) (nodup : (m.chain id).Nodup)
    (onGrid : Binary64.OnGrid k amount.value) (coarse : -28 ≤ k) (budgetGen : BudgetGeneration) :
    (BudgetManager.unbook counter m id amount budgetGen).1.OnGrid k := by
  rcases BudgetManager.unbook_cases counter m id amount budgetGen with
    ⟨refused, _⟩ | ⟨taken, returnable⟩
  · rw [refused]
    exact grid
  · rw [taken]
    refine onGrid_adjustChain grid nodup fun b onChain s found => ?_
    obtain ⟨t, same, covers⟩ := returnable.booked b onChain
    obtain rfl := Option.some.inj (found.symm.trans same)
    exact (covered_of_onGrid (grid b s found) onGrid coarse covers).2

end Grid

end InDoubles

end PowerGovernor
