import Mathlib.Logic.Function.Iterate
import Mathlib.Tactic.Linarith
import Mathlib.Tactic.Ring
import PowerGovernor.Budget.Manager
import PowerGovernor.Library.ParentPath

/-!
What the chain loops of `BudgetManager` compute.

Owns the parent function of the installed budgets, the chain as a bounded climb
along it, the effect of a write loop on every budget, and the inversion lemmas
of the four chain mutations and of `install`. Later modules cite these lemmas
and unfold no operation.
-/

set_option autoImplicit false

namespace PowerGovernor

open ParentPath

namespace BudgetManager

variable {m : BudgetManager}

theorem id_of_state? {b : BudgetId} {s : BudgetState} (found : m.state? b = some s) :
    s.cfg.id = b := by
  have keyed := Keyed.key_of_find? found
  exact keyed

/-- The valid parent of an installed budget. -/
def parentOf (m : BudgetManager) (b : BudgetId) : Option BudgetId :=
  (m.state? b).bind fun s => s.cfg.parent.filter StrongId.isValid

/-- The budgets whose subtree contains `b`: `b` itself and its ancestors. -/
def InSubtree (m : BudgetManager) (b upper : BudgetId) : Prop := Above m.parentOf b upper

/-- No budget is its own ancestor. -/
def Acyclic (m : BudgetManager) : Prop := ∃ rank, Ranked m.parentOf rank

theorem chainLoop_eq_climb (fuel : Nat) (cur : Option BudgetId) :
    m.chainLoop fuel cur = climb m.parentOf fuel (cur.filter StrongId.isValid) := by
  induction fuel generalizing cur with
  | zero => rfl
  | succ fuel inductionHypothesis =>
      cases cur with
      | none => rfl
      | some b =>
          by_cases valid : b.isValid
          · simp only [chainLoop, if_pos valid, Option.filter_some, climb]
            cases found : m.state? b with
            | none => cases fuel <;> simp [parentOf, found, climb]
            | some s => simp [parentOf, found, inductionHypothesis]
          · rw [Option.filter_some, if_neg valid]
            simp [chainLoop, valid, climb]

theorem chain_eq_climb (id : BudgetId) :
    m.chain id = climb m.parentOf 65 ((some id).filter StrongId.isValid) :=
  chainLoop_eq_climb 65 (some id)

/-- Chains depend only on the parents. -/
theorem chain_congr {m' : BudgetManager} (same : m'.parentOf = m.parentOf) (id : BudgetId) :
    m'.chain id = m.chain id := by
  rw [chain_eq_climb, chain_eq_climb, same]

theorem nodup_chain (acyclic : m.Acyclic) (id : BudgetId) : (m.chain id).Nodup := by
  obtain ⟨rank, ranked⟩ := acyclic
  rw [chain_eq_climb]
  exact ranked.nodup_climb 65 _

theorem inSubtree_of_mem_chain {id upper : BudgetId} (member : upper ∈ m.chain id) :
    m.InSubtree id upper := by
  rw [chain_eq_climb] at member
  by_cases valid : id.isValid
  · rw [Option.filter_some, if_pos valid] at member
    exact above_of_mem_climb member
  · rw [Option.filter_some, if_neg valid] at member
    simp [climb] at member

theorem mem_chain_self {id : BudgetId} (valid : id.isValid = true) : id ∈ m.chain id := by
  rw [chain_eq_climb, Option.filter_some, if_pos valid]
  exact List.mem_cons_self

theorem chain_of_invalid {id : BudgetId} (invalid : id.isValid = false) : m.chain id = [] := by
  rw [chain_eq_climb, Option.filter_some, invalid]
  rfl

theorem isValid_of_mem_chain {id b : BudgetId} (member : b ∈ m.chain id) : b.isValid = true := by
  rcases (inSubtree_of_mem_chain member).cases_tail with same | ⟨child, _, parent⟩
  · subst same
    cases valid : b.isValid with
    | true => rfl
    | false => simp [chain_of_invalid valid] at member
  · obtain ⟨s, _, named⟩ := Option.bind_eq_some_iff.mp parent
    exact (Option.filter_eq_some_iff.mp named).2

/-- The chain of `id` meets every installed budget whose subtree contains `id`. -/
def Covers (m : BudgetManager) (id : BudgetId) : Prop :=
  ∀ upper, m.InSubtree id upper → m.has upper = true → upper ∈ m.chain id

theorem covers_congr {m' : BudgetManager} (parents : m'.parentOf = m.parentOf)
    (installed : ∀ k, m'.has k = m.has k) {id : BudgetId} (covers : m.Covers id) :
    m'.Covers id := by
  intro upper inside present
  rw [InSubtree, parents] at inside
  rw [installed] at present
  rw [chain_congr parents]
  exact covers upper inside present

/-- A chain misses an ancestor only for the null id or more than 64 levels up. -/
theorem covers_of_ranked {rank : BudgetId → Nat} (ranked : Ranked m.parentOf rank) {id : BudgetId}
    (valid : id.isValid = true) (shallow : rank id < 65) : m.Covers id := by
  intro upper above _
  rw [chain_eq_climb, Option.filter_some, if_pos valid]
  exact ranked.mem_climb_of_above above shallow

/-! ## Write loops -/

end BudgetManager

/-- What one loop iteration writes. -/
def BudgetState.bump (counter : Counter) (delta : ℚ) (s : BudgetState) : BudgetState :=
  s.set counter (Watts.clamped ((s.get counter).value + delta))

@[simp] theorem BudgetState.bump_cfg (counter : Counter) (delta : ℚ) (s : BudgetState) :
    (s.bump counter delta).cfg = s.cfg :=
  s.set_cfg counter _

theorem BudgetState.bump_iterate_cfg (counter : Counter) (delta : ℚ) (s : BudgetState) (n : Nat) :
    ((BudgetState.bump counter delta)^[n] s).cfg = s.cfg := by
  induction n generalizing s with
  | zero => rfl
  | succ n inductionHypothesis => rw [Function.iterate_succ_apply, inductionHypothesis, bump_cfg]

namespace BudgetManager

variable {m : BudgetManager}

theorem state?_adjust (counter : Counter) (delta : ℚ) (b k : BudgetId) :
    (m.adjust counter delta b).state? k =
      if k = b then (m.state? b).map (BudgetState.bump counter delta) else m.state? k := by
  unfold adjust state?
  rw [Keyed.find?_modify]
  rfl

/-- A write loop applies its write to every budget as often as the loop meets it. -/
theorem state?_foldl {write : BudgetManager → BudgetId → BudgetManager}
    {f : BudgetState → BudgetState}
    (writes : ∀ (m : BudgetManager) (b k : BudgetId),
      (write m b).state? k = if k = b then (m.state? b).map f else m.state? k)
    (ids : List BudgetId) (k : BudgetId) :
    (ids.foldl write m).state? k = (m.state? k).map f^[ids.count k] := by
  induction ids generalizing m with
  | nil => simp
  | cons b rest inductionHypothesis =>
      rw [List.foldl_cons, inductionHypothesis, writes]
      by_cases same : k = b
      · subst same
        rw [if_pos rfl, List.count_cons_self, Option.map_map, Function.iterate_succ]
      · rw [if_neg same, List.count_cons_of_ne (Ne.symm same)]

theorem state?_adjustChain (counter : Counter) (delta : ℚ) (ids : List BudgetId) (k : BudgetId) :
    (m.adjustChain counter delta ids).state? k =
      (m.state? k).map (BudgetState.bump counter delta)^[ids.count k] :=
  state?_foldl (fun _ => state?_adjust counter delta) ids k

theorem state?_adjustChain_of_mem {counter : Counter} {delta : ℚ} {ids : List BudgetId}
    (nodup : ids.Nodup) {k : BudgetId} (member : k ∈ ids) :
    (m.adjustChain counter delta ids).state? k =
      (m.state? k).map (BudgetState.bump counter delta) := by
  rw [state?_adjustChain, List.count_eq_one_of_mem nodup member, Function.iterate_one]

theorem state?_adjustChain_of_notMem {counter : Counter} {delta : ℚ} {ids : List BudgetId}
    {k : BudgetId} (absent : k ∉ ids) :
    (m.adjustChain counter delta ids).state? k = m.state? k := by
  rw [state?_adjustChain, List.count_eq_zero_of_not_mem absent, Function.iterate_zero]
  simp

/-- A write loop changes no definition. -/
theorem adjustChain_cfg (counter : Counter) (delta : ℚ) (ids : List BudgetId) (k : BudgetId) :
    ((m.adjustChain counter delta ids).state? k).map BudgetState.cfg =
      (m.state? k).map BudgetState.cfg := by
  rw [state?_adjustChain, Option.map_map]
  cases m.state? k with
  | none => rfl
  | some s => simp [BudgetState.bump_iterate_cfg]

theorem parentOf_congr {m' : BudgetManager}
    (same : ∀ k, (m'.state? k).map BudgetState.cfg = (m.state? k).map BudgetState.cfg) :
    m'.parentOf = m.parentOf := by
  have through : ∀ (n : BudgetManager) (k : BudgetId), n.parentOf k =
      ((n.state? k).map BudgetState.cfg).bind fun cfg => cfg.parent.filter StrongId.isValid := by
    intro n k
    rw [parentOf, Option.bind_map]
    rfl
  funext k
  rw [through, through, same]

theorem parentOf_adjustChain (counter : Counter) (delta : ℚ) (ids : List BudgetId) :
    (m.adjustChain counter delta ids).parentOf = m.parentOf :=
  parentOf_congr (adjustChain_cfg counter delta ids)

/-- A write loop installs and removes no budget. -/
theorem has_adjustChain (counter : Counter) (delta : ℚ) (ids : List BudgetId) (k : BudgetId) :
    (m.adjustChain counter delta ids).has k = m.has k := by
  have mapped := state?_adjustChain (m := m) counter delta ids k
  unfold has
  unfold state? at mapped
  rw [Keyed.contains, Keyed.contains, mapped, Option.isSome_map]

/-! ## Counters -/

/-- The amount a counter of an installed budget holds. -/
def amount? (m : BudgetManager) (counter : Counter) (b : BudgetId) : Option Watts :=
  (m.state? b).map fun s => s.get counter

theorem reserved_eq (m : BudgetManager) (b : BudgetId) :
    m.reserved b = (m.amount? .reserved b).getD Watts.zero := rfl

theorem used_eq (m : BudgetManager) (b : BudgetId) :
    m.used b = (m.amount? .used b).getD Watts.zero := rfl

theorem amount?_eq_some {counter : Counter} {b : BudgetId} {amount : Watts} :
    m.amount? counter b = some amount ↔ ∃ s, m.state? b = some s ∧ s.get counter = amount :=
  Option.map_eq_some_iff

theorem amount?_adjustChain_of_mem {counter : Counter} {delta : ℚ} {ids : List BudgetId}
    (nodup : ids.Nodup) {k : BudgetId} (member : k ∈ ids) :
    (m.adjustChain counter delta ids).amount? counter k =
      (m.amount? counter k).map fun amount => Watts.clamped (amount.value + delta) := by
  unfold amount?
  rw [state?_adjustChain_of_mem nodup member, Option.map_map, Option.map_map]
  congr 1
  funext s
  exact s.get_set counter _

theorem amount?_adjustChain_of_notMem {counter other : Counter} {delta : ℚ} {ids : List BudgetId}
    {k : BudgetId} (absent : k ∉ ids) :
    (m.adjustChain counter delta ids).amount? other k = m.amount? other k := by
  unfold amount?
  rw [state?_adjustChain_of_notMem absent]

/-- A write loop leaves the other counter alone. -/
theorem amount?_adjustChain_other {counter other : Counter} (different : other ≠ counter)
    (delta : ℚ) (ids : List BudgetId) (k : BudgetId) :
    (m.adjustChain counter delta ids).amount? other k = m.amount? other k := by
  have untouched : ∀ (n : Nat) (s : BudgetState),
      ((BudgetState.bump counter delta)^[n] s).get other = s.get other := by
    intro n
    induction n with
    | zero => exact fun _ => rfl
    | succ n inductionHypothesis =>
        intro s
        rw [Function.iterate_succ_apply, inductionHypothesis]
        exact s.get_set_other different _
  unfold amount?
  rw [state?_adjustChain, Option.map_map]
  congr 1
  funext s
  exact untouched _ s

/-- The write loop over a whole chain adds `delta` on that chain, as long as the
clamp cuts nothing off. -/
theorem value_of_adjustChain (acyclic : m.Acyclic) {counter : Counter} {delta : ℚ} {id : BudgetId}
    (unclamped : ∀ b ∈ m.chain id, ∀ amount, m.amount? counter b = some amount →
      0 ≤ amount.value + delta)
    {b : BudgetId} {after : Watts}
    (counted : (m.adjustChain counter delta (m.chain id)).amount? counter b = some after) :
    ∃ amount, m.amount? counter b = some amount ∧
      after.value = amount.value + if b ∈ m.chain id then delta else 0 := by
  by_cases onChain : b ∈ m.chain id
  · rw [amount?_adjustChain_of_mem (nodup_chain acyclic id) onChain] at counted
    obtain ⟨amount, before, rfl⟩ := Option.map_eq_some_iff.mp counted
    refine ⟨amount, before, ?_⟩
    rw [if_pos onChain, Watts.clamped_value, max_eq_right (unclamped b onChain amount before)]
  · rw [amount?_adjustChain_of_notMem onChain] at counted
    refine ⟨after, counted, ?_⟩
    rw [if_neg onChain, add_zero]

/-- Booking power is never cut off. -/
theorem unclamped_book (m : BudgetManager) (counter : Counter) (id : BudgetId) (power : Watts) :
    ∀ b ∈ m.chain id, ∀ amount, m.amount? counter b = some amount →
      0 ≤ amount.value + power.value :=
  fun _ _ amount _ => add_nonneg amount.nonneg power.nonneg

/-- The write loop over a whole chain adds `delta` to one counter on that chain and
nothing elsewhere, as long as the clamp cuts nothing off. -/
theorem moved_of_adjustChain (acyclic : m.Acyclic) {counter : Counter} {delta : ℚ} {id : BudgetId}
    (unclamped : ∀ b ∈ m.chain id, ∀ amount, m.amount? counter b = some amount →
      0 ≤ amount.value + delta)
    {other : Counter} {b : BudgetId} {after : Watts}
    (counted : (m.adjustChain counter delta (m.chain id)).amount? other b = some after) :
    ∃ amount, m.amount? other b = some amount ∧
      after.value = amount.value + if other = counter ∧ b ∈ m.chain id then delta else 0 := by
  by_cases same : other = counter
  · subst same
    simpa using value_of_adjustChain acyclic unclamped counted
  · rw [amount?_adjustChain_other same] at counted
    exact ⟨after, counted, by simp [same]⟩

/-! ## Inversion of the chain mutations -/

theorem chainHasCapacity_iff {id : BudgetId} {amount : Watts} :
    m.chainHasCapacity id amount = true ↔
      ∀ b ∈ m.chain id, ∃ s, m.state? b = some s ∧
        amount.value ≤ s.ownAvailable.value + slack := by
  rw [chainHasCapacity, List.all_eq_true]
  refine forall₂_congr fun b _ => ?_
  cases m.state? b with
  | none => simp
  | some s => simp

theorem chainAccountsFor_iff {counter : Counter} {id : BudgetId} {amount : Watts} :
    m.chainAccountsFor counter id amount = true ↔
      ∀ b ∈ m.chain id, ∃ s, m.state? b = some s ∧
        amount.value ≤ (s.get counter).value + slack := by
  rw [chainAccountsFor, List.all_eq_true]
  refine forall₂_congr fun b _ => ?_
  cases m.state? b with
  | none => simp
  | some s => simp

/-- What a granted booking requires of the manager. -/
structure Bookable (m : BudgetManager) (needsAuthority : Bool) (id : BudgetId) (amount : Watts)
    (budgetGen : BudgetGeneration) : Prop where
  installed : ∃ s, m.state? id = some s ∧ s.cfg.generation = budgetGen ∧
    (needsAuthority = true → s.cfg.authoritative = true)
  room : ∀ b ∈ m.chain id, ∃ s, m.state? b = some s ∧
    amount.value ≤ s.ownAvailable.value + slack

/-- What a granted return requires of the manager. -/
structure Returnable (m : BudgetManager) (counter : Counter) (id : BudgetId) (amount : Watts)
    (budgetGen : BudgetGeneration) : Prop where
  installed : ∃ s, m.state? id = some s ∧ s.cfg.generation = budgetGen
  booked : ∀ b ∈ m.chain id, ∃ s, m.state? b = some s ∧
    amount.value ≤ (s.get counter).value + slack

/-- A return is granted by the definition of its budget and the counter alone. -/
theorem returnable_iff {counter : Counter} {id : BudgetId} {amount : Watts}
    {budgetGen : BudgetGeneration} :
    m.Returnable counter id amount budgetGen ↔
      (∃ cfg, (m.state? id).map BudgetState.cfg = some cfg ∧ cfg.generation = budgetGen) ∧
      ∀ b ∈ m.chain id, ∃ held, m.amount? counter b = some held ∧
        amount.value ≤ held.value + slack := by
  constructor
  · rintro ⟨⟨s, installed, current⟩, booked⟩
    refine ⟨⟨s.cfg, by rw [installed, Option.map_some], current⟩, fun b onChain => ?_⟩
    obtain ⟨t, found, covered⟩ := booked b onChain
    exact ⟨t.get counter, amount?_eq_some.mpr ⟨t, found, rfl⟩, covered⟩
  · rintro ⟨⟨cfg, installed, current⟩, booked⟩
    obtain ⟨s, found, rfl⟩ := Option.map_eq_some_iff.mp installed
    refine ⟨⟨s, found, current⟩, fun b onChain => ?_⟩
    obtain ⟨held, counted, covered⟩ := booked b onChain
    obtain ⟨t, foundOn, rfl⟩ := amount?_eq_some.mp counted
    exact ⟨t, foundOn, covered⟩

/-- Writing one counter does not change what the other one can return. -/
theorem returnable_adjustChain_other {counter other : Counter} (different : other ≠ counter)
    (delta : ℚ) (ids : List BudgetId) (id : BudgetId) (amount : Watts)
    (budgetGen : BudgetGeneration) :
    (m.adjustChain counter delta ids).Returnable other id amount budgetGen ↔
      m.Returnable other id amount budgetGen := by
  rw [returnable_iff, returnable_iff, adjustChain_cfg, chain_congr (parentOf_adjustChain _ _ _)]
  simp only [amount?_adjustChain_other different]

/-- `reserve` and `activate` either refuse and change nothing or are entitled
to the write loop they run. -/
theorem book_cases (counter : Counter) (needsAuthority : Bool) (m : BudgetManager) (id : BudgetId)
    (amount : Watts) (budgetGen : BudgetGeneration) :
    (book counter needsAuthority m id amount budgetGen = (m, false) ∧
      ¬ m.Bookable needsAuthority id amount budgetGen) ∨
    (book counter needsAuthority m id amount budgetGen =
        (m.adjustChain counter amount.value (m.chain id), true) ∧
      m.Bookable needsAuthority id amount budgetGen) := by
  unfold book
  cases found : m.state? id with
  | none =>
      refine .inl ⟨rfl, fun bookable => ?_⟩
      obtain ⟨s, installed, _⟩ := bookable.installed
      simp [found] at installed
  | some s =>
      have only : ∀ other, m.state? id = some other → other = s := by
        intro other installed
        rw [found] at installed
        exact (Option.some.inj installed).symm
      simp only
      by_cases current : s.cfg.generation = budgetGen
      · rw [if_neg (not_not.mpr current)]
        by_cases refused : (needsAuthority && !s.cfg.authoritative) = true
        · refine .inl ⟨if_pos refused, fun bookable => ?_⟩
          obtain ⟨other, installed, _, authority⟩ := bookable.installed
          rw [only other installed] at authority
          cases needsAuthority <;> simp_all
        · rw [if_neg refused, if_neg (not_lt.mpr amount.nonneg)]
          by_cases room : m.chainHasCapacity id amount = true
          · refine .inr ⟨by simp [room], ⟨⟨s, found, current, fun needed => ?_⟩,
              chainHasCapacity_iff.mp room⟩⟩
            simpa [needed] using refused
          · refine .inl ⟨by simp [room], fun bookable => ?_⟩
            exact room (chainHasCapacity_iff.mpr bookable.room)
      · refine .inl ⟨if_pos current, fun bookable => ?_⟩
        obtain ⟨other, installed, generation, _⟩ := bookable.installed
        rw [only other installed] at generation
        exact current generation

/-- `release` and `deactivate` either refuse and change nothing or are entitled
to the write loop they run. -/
theorem unbook_cases (counter : Counter) (m : BudgetManager) (id : BudgetId) (amount : Watts)
    (budgetGen : BudgetGeneration) :
    (unbook counter m id amount budgetGen = (m, false) ∧
      ¬ m.Returnable counter id amount budgetGen) ∨
    (unbook counter m id amount budgetGen =
        (m.adjustChain counter (-amount.value) (m.chain id), true) ∧
      m.Returnable counter id amount budgetGen) := by
  unfold unbook
  cases found : m.state? id with
  | none =>
      refine .inl ⟨rfl, fun returnable => ?_⟩
      obtain ⟨s, installed, _⟩ := returnable.installed
      simp [found] at installed
  | some s =>
      simp only
      by_cases current : s.cfg.generation = budgetGen
      · rw [if_neg (not_not.mpr current), if_neg (not_lt.mpr amount.nonneg)]
        by_cases booked : m.chainAccountsFor counter id amount = true
        · exact .inr ⟨by simp [booked], ⟨⟨s, found, current⟩, chainAccountsFor_iff.mp booked⟩⟩
        · refine .inl ⟨by simp [booked], fun returnable => ?_⟩
          exact booked (chainAccountsFor_iff.mpr returnable.booked)
      · refine .inl ⟨if_pos current, fun returnable => ?_⟩
        obtain ⟨other, installed, generation⟩ := returnable.installed
        rw [found] at installed
        cases installed
        exact current generation

/-- A budget is new, not newer than the installed one, or re-issued. -/
theorem install_cases (m : BudgetManager) (b : PowerBudget) :
    (m.state? b.id = none ∧ m.install b = (⟨m.states.emplace ⟨b, Watts.zero, Watts.zero⟩⟩, true)) ∨
    (∃ s, m.state? b.id = some s ∧ b.generation ≤ s.cfg.generation ∧ m.install b = (m, false)) ∨
    (∃ s, m.state? b.id = some s ∧ ¬ b.generation ≤ s.cfg.generation ∧ m.install b =
      (⟨m.states.modify b.id (fun old => { old with cfg := b }) fun _ _ => rfl⟩, true)) := by
  unfold install
  cases found : m.state? b.id with
  | none => exact .inl ⟨rfl, rfl⟩
  | some s =>
      by_cases older : b.generation ≤ s.cfg.generation
      · exact .inr (.inl ⟨s, rfl, older, if_pos older⟩)
      · exact .inr (.inr ⟨s, rfl, older, if_neg older⟩)

/-- Installing a fresh id adds one unbooked budget. -/
theorem install_fresh {b : PowerBudget} (fresh : m.state? b.id = none) :
    (m.install b).2 = true ∧ ∀ k, (m.install b).1.state? k =
      if k = b.id then some ⟨b, Watts.zero, Watts.zero⟩ else m.state? k := by
  unfold install
  rw [fresh]
  refine ⟨rfl, fun k => ?_⟩
  exact Keyed.find?_emplace (v := BudgetState.mk b Watts.zero Watts.zero) fresh k

/-! ## The capacity query -/

theorem le_availableLoop_iff {bound : ℚ} (positive : 0 < bound) {avail : Watts}
    {ids : List BudgetId} :
    bound ≤ (m.availableLoop avail ids).value ↔
      bound ≤ avail.value ∧
        ∀ b ∈ ids, ∃ s, m.state? b = some s ∧ bound ≤ s.ownAvailable.value := by
  induction ids generalizing avail with
  | nil => simp [availableLoop]
  | cons b rest inductionHypothesis =>
      cases found : m.state? b with
      | none =>
          have refused : ¬ bound ≤ (0 : ℚ) := not_le.mpr positive
          simp [availableLoop, found, refused]
      | some s =>
          simp only [availableLoop, found, inductionHypothesis, Watts.min_value, le_min_iff,
            List.forall_mem_cons, Option.some.injEq, exists_eq_left', and_assoc]

/-- A positive amount is available exactly when every budget on the chain is
installed and has it left. -/
theorem le_available_iff {bound : ℚ} (positive : 0 < bound) {id : BudgetId} :
    bound ≤ (m.available id).value ↔
      (∃ s, m.state? id = some s ∧ bound ≤ s.ownAvailable.value) ∧
        ∀ b ∈ m.chain id, ∃ s, m.state? b = some s ∧ bound ≤ s.ownAvailable.value := by
  unfold available
  cases found : m.state? id with
  | none =>
      have refused : ¬ bound ≤ (0 : ℚ) := not_le.mpr positive
      simp [refused]
  | some s => simp [le_availableLoop_iff positive]

/-- Booked power comes off what a budget has left, whichever counter it is booked on. -/
theorem ownAvailable_bump (s : BudgetState) (counter : Counter) (power : Watts) :
    (s.bump counter power.value).ownAvailable.value =
      max 0 (s.ownAvailable.value - power.value) := by
  have nonneg := power.nonneg
  have clamped : max 0 ((s.get counter).value + power.value) =
      (s.get counter).value + power.value :=
    max_eq_right (add_nonneg (s.get counter).nonneg nonneg)
  have left : (s.bump counter power.value).ownAvailable.value =
      max 0 (s.cfg.hardMax.value - s.reserved.value - s.used.value - power.value) := by
    unfold BudgetState.bump BudgetState.ownAvailable
    rw [Watts.clamped_value, BudgetState.set_cfg]
    congr 1
    cases counter with
    | reserved =>
        simp only [BudgetState.set, BudgetState.get, Watts.clamped_value] at clamped ⊢
        rw [clamped]
        ring
    | used =>
        simp only [BudgetState.set, BudgetState.get, Watts.clamped_value] at clamped ⊢
        rw [clamped]
        ring
  rw [left, BudgetState.ownAvailable, Watts.clamped_value]
  rcases max_cases 0 (s.cfg.hardMax.value - s.reserved.value - s.used.value) with
    ⟨exhausted, exceeded⟩ | ⟨free, _⟩
  · rw [exhausted, max_eq_left (by linarith), max_eq_left (by linarith)]
  · rw [free]

/-- Booking usage on a chain lowers no availability exactly when every budget
that draws on the chain has nothing available or keeps it beside the usage. -/
theorem unlowered_iff (acyclic : m.Acyclic) (id : BudgetId) (power : Watts) :
    (∀ x, (m.available x).value ≤
      ((m.adjustChain .used power.value (m.chain id)).available x).value) ↔
    ∀ x y s, y ∈ m.chain x → y ∈ m.chain id → m.state? y = some s →
      (m.available x).value = 0 ∨ (m.available x).value ≤ s.ownAvailable.value - power.value := by
  have nodup := nodup_chain acyclic id
  have sameChain : ∀ x, (m.adjustChain .used power.value (m.chain id)).chain x = m.chain x :=
    chain_congr (parentOf_adjustChain _ _ _)
  constructor
  · intro unlowered x y s onOwn onChain installed
    rcases (m.available x).nonneg.eq_or_lt with zero | positive
    · exact .inl zero.symm
    · refine .inr ?_
      obtain ⟨_, left⟩ := (le_available_iff positive).mp (unlowered x)
      rw [sameChain] at left
      obtain ⟨s', after, bound⟩ := left y onOwn
      rw [state?_adjustChain_of_mem nodup onChain, installed, Option.map_some] at after
      obtain rfl := Option.some.inj after
      rw [ownAvailable_bump] at bound
      rcases le_max_iff.mp bound with nonpos | kept
      · linarith
      · exact kept
  · intro kept x
    rcases (m.available x).nonneg.eq_or_lt with zero | positive
    · rw [← zero]
      exact Watts.nonneg _
    · obtain ⟨own, chain⟩ := (le_available_iff positive).mp (le_refl (m.available x).value)
      have moved : ∀ y, (y ∈ m.chain id → y ∈ m.chain x) →
          (∃ s, m.state? y = some s ∧ (m.available x).value ≤ s.ownAvailable.value) →
          ∃ s, (m.adjustChain .used power.value (m.chain id)).state? y = some s ∧
            (m.available x).value ≤ s.ownAvailable.value := by
        rintro y drawn ⟨s, installed, bound⟩
        by_cases onChain : y ∈ m.chain id
        · refine ⟨s.bump .used power.value, ?_, ?_⟩
          · rw [state?_adjustChain_of_mem nodup onChain, installed, Option.map_some]
          · rw [ownAvailable_bump]
            rcases kept x y s (drawn onChain) onChain installed with zero | room
            · linarith
            · exact le_max_of_le_right room
        · exact ⟨s, by rw [state?_adjustChain_of_notMem onChain, installed], bound⟩
      refine (le_available_iff positive).mpr ⟨?_, fun y onOwn => ?_⟩
      · exact moved x (fun onChain => mem_chain_self (isValid_of_mem_chain onChain)) own
      · rw [sameChain] at onOwn
        exact moved y (fun _ => onOwn) (chain y onOwn)

end BudgetManager

end PowerGovernor
