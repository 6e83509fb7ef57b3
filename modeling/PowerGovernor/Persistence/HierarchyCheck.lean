import PowerGovernor.Budget.Forest
import PowerGovernor.Persistence.LoadedState
import PowerGovernor.Persistence.Reload

/-!
The hierarchy check of a recovery.

Owns what one walk of the cycle detection decides, and the exact meaning of the whole
check: the budgets form a forest that is nowhere deeper than the guard of the walk.
-/

set_option autoImplicit false

namespace PowerGovernor

open ParentPath

namespace BudgetManager

variable {m : BudgetManager}

/-! ## One walk -/

/-- One step of the walk: it stops at the budget it looks for and when the guard is used
up. -/
theorem climb_some_iff {self cur : BudgetId} {steps : Nat} (valid : cur.isValid = true)
    (installed : m.has cur = true) :
    m.climb self steps (some cur) = true ↔
      cur ≠ self ∧ ∃ left, steps = left + 1 ∧ m.climb self left (m.parentOf cur) = true := by
  obtain ⟨s, found⟩ := has_iff.mp installed
  have parent : m.parentOf cur = s.cfg.parent.filter StrongId.isValid := by
    unfold parentOf
    rw [found]
    rfl
  conv_lhs => unfold climb
  rw [valid, Bool.not_true, if_neg Bool.false_ne_true]
  by_cases same : cur = self
  · rw [if_pos same]
    exact iff_of_false Bool.false_ne_true fun both => both.1 same
  · rw [if_neg same, found, and_iff_right same, parent]
    cases steps with
    | zero =>
        refine iff_of_false Bool.false_ne_true ?_
        rintro ⟨left, same, -⟩
        exact absurd same (Nat.succ_ne_zero left).symm
    | succ left =>
        simp only [Nat.add_right_cancel_iff, exists_eq_left', Governor.climb_filter]

/-- A walk up a path passes exactly when the path does not meet the budget it looks for and
is no longer than the guard. -/
theorem climb_iff_of_isPath (forest : m.Forest) {self cur : BudgetId} {path : List BudgetId}
    (isPath : IsPath m.parentOf cur path) (valid : cur.isValid = true)
    (installed : m.has cur = true) (steps : Nat) :
    m.climb self steps (some cur) = true ↔ self ∉ path ∧ path.length ≤ steps := by
  induction isPath generalizing steps with
  | @root cur top =>
      rw [climb_some_iff valid installed, top, List.mem_singleton, eq_comm]
      refine and_congr_right fun _ => ?_
      constructor
      · rintro ⟨left, rfl, _⟩
        exact Nat.le_add_left 1 left
      · intro enough
        obtain ⟨left, rfl⟩ : ∃ left, steps = left + 1 := ⟨steps - 1, by simp at enough; omega⟩
        exact ⟨left, rfl, by unfold climb; rfl⟩
  | @step cur up path edge _ inductionHypothesis =>
      obtain ⟨s, _, named⟩ := Option.bind_eq_some_iff.mp edge
      have validUp := (Option.filter_eq_some_iff.mp named).2
      have installedUp := forest.parentsInstalled cur up edge
      rw [climb_some_iff valid installed, edge, List.mem_cons, not_or, and_assoc, ne_comm]
      refine and_congr_right fun _ => ?_
      constructor
      · rintro ⟨left, rfl, passes⟩
        obtain ⟨unmet, enough⟩ := (inductionHypothesis validUp installedUp left).mp passes
        exact ⟨unmet, Nat.succ_le_succ enough⟩
      · rintro ⟨unmet, enough⟩
        obtain ⟨left, rfl⟩ : ∃ left, steps = left + 1 := ⟨steps - 1, by simp at enough; omega⟩
        exact ⟨left, rfl, (inductionHypothesis validUp installedUp left).mpr
          ⟨unmet, Nat.le_of_succ_le_succ enough⟩⟩

/-! ## The check -/

theorem forall_snapshots_iff {P : PowerBudget → Prop} :
    (∀ b ∈ m.snapshots, P b) ↔ ∀ id s, m.state? id = some s → P s.cfg := by
  constructor
  · exact fun each id s found => each s.cfg (mem_snapshots found)
  · intro each b member
    obtain ⟨s, among, rfl⟩ := List.mem_map.mp member
    exact each s.cfg.id s (Keyed.find?_of_mem among)

theorem parentOf_of_state? {id : BudgetId} {s : BudgetState} (found : m.state? id = some s) :
    m.parentOf id = s.cfg.parent.filter StrongId.isValid := by
  unfold parentOf
  rw [found]
  rfl

theorem parentsInstalled_iff :
    (∀ b ∈ m.snapshots, (b.parent.filter StrongId.isValid).all m.has = true) ↔
      ∀ b p, m.parentOf b = some p → m.has p = true := by
  rw [forall_snapshots_iff]
  constructor
  · intro each b p parent
    obtain ⟨s, found⟩ := has_iff.mp (has_of_parentOf parent)
    have present := each b s found
    rw [← parentOf_of_state? found, parent] at present
    exact present
  · intro each b s found
    rw [← parentOf_of_state? found]
    cases parent : m.parentOf b with
    | none => rfl
    | some p => exact each b p parent

/-- In a forest the walks of the cycle detection pass exactly when no path is longer than
the guard and the budget it starts from. -/
theorem climbs_iff (forest : m.Forest) :
    (∀ b ∈ m.snapshots, m.climb b.id 256 b.parent = true) ↔
      ∀ id path, m.has id = true → IsPath m.parentOf id path → path.length ≤ 257 := by
  obtain ⟨rank, ranked⟩ := forest.acyclic
  have start : ∀ id s, m.state? id = some s →
      m.climb s.cfg.id 256 s.cfg.parent = m.climb id 256 (m.parentOf id) := by
    intro id s found
    rw [parentOf_of_state? found, Governor.climb_filter, id_of_state? found]
  have validParent : ∀ {id up}, m.parentOf id = some up → up.isValid = true := by
    intro id up edge
    obtain ⟨s, _, named⟩ := Option.bind_eq_some_iff.mp edge
    exact (Option.filter_eq_some_iff.mp named).2
  rw [forall_snapshots_iff]
  constructor
  · intro each id path installed isPath
    obtain ⟨s, found⟩ := has_iff.mp installed
    have passes := each id s found
    rw [start id s found] at passes
    cases isPath with
    | root => exact Nat.le_add_left 1 256
    | step edge higher =>
        rw [edge, climb_iff_of_isPath forest higher (validParent edge)
          (forest.parentsInstalled _ _ edge)] at passes
        exact Nat.succ_le_succ passes.2
  · intro shallow id s found
    rw [start id s found]
    cases edge : m.parentOf id with
    | none => rfl
    | some up =>
        obtain ⟨path, higher⟩ := ranked.exists_isPath up
        have whole := IsPath.step edge higher
        have depth := shallow id _ (has_iff.mpr ⟨s, found⟩) whole
        rw [climb_iff_of_isPath forest higher (validParent edge)
          (forest.parentsInstalled id up edge)]
        exact ⟨(List.nodup_cons.mp (whole.nodup ranked)).1, Nat.le_of_succ_le_succ depth⟩

theorem validHierarchy_iff_forest : m.validHierarchy = true ↔
    m.Forest ∧ ∀ id path, m.has id = true → IsPath m.parentOf id path → path.length ≤ 257 := by
  have split : m.validHierarchy = true ↔
      (∀ b ∈ m.snapshots, (b.parent.filter StrongId.isValid).all m.has = true) ∧
        ∀ b ∈ m.snapshots, m.climb b.id 256 b.parent = true := by
    unfold validHierarchy
    rw [Bool.and_eq_true_iff, List.all_eq_true, List.all_eq_true]
  constructor
  · intro valid
    obtain ⟨parents, climbs⟩ := split.mp valid
    have forest : m.Forest :=
      ⟨acyclic_iff.mpr fun _ _ parent => acyclic_of_validHierarchy valid parent,
        parentsInstalled_iff.mp parents⟩
    exact ⟨forest, (climbs_iff forest).mp climbs⟩
  · rintro ⟨forest, shallow⟩
    exact split.mpr ⟨parentsInstalled_iff.mpr forest.parentsInstalled,
      (climbs_iff forest).mpr shallow⟩

/-- The check accepts exactly the hierarchies in which every valid parent is installed, no
budget is above its own parent, and no budget has more than 256 proper ancestors. -/
theorem validate_budget_hierarchy_iff (m : BudgetManager) : m.validHierarchy = true ↔
    (∀ b p, m.parentOf b = some p → m.has p = true) ∧
    (∀ b p, m.parentOf b = some p → ¬ m.InSubtree p b) ∧
    ∀ id path, m.has id = true → IsPath m.parentOf id path → path.length ≤ 257 := by
  rw [validHierarchy_iff_forest, ← and_assoc, and_congr_left_iff]
  intro _
  constructor
  · exact fun forest => ⟨forest.parentsInstalled, acyclic_iff.mp forest.acyclic⟩
  · exact fun ⟨parents, loopless⟩ => ⟨acyclic_iff.mpr loopless, parents⟩

/-! ## A deep line -/

theorem line_succ (n : Nat) : line (n + 1) = ((line n).install (lineBudget (n + 1))).1 := by
  unfold line
  rw [List.range'_1_concat, List.map_append, List.foldl_append, Nat.add_comm 1 n]
  rfl

theorem toNat_lineBudget {k : Nat} (small : k < 2 ^ 64) : (lineBudget k).id.raw.toNat = k :=
  UInt64.toNat_ofNat_of_lt' small

/-- The line has the budgets from 1 to `n`, none of them booked. -/
theorem state?_line {n : Nat} (small : n < 2 ^ 64) (id : BudgetId) :
    (line n).state? id =
      if 1 ≤ id.raw.toNat ∧ id.raw.toNat ≤ n then
        some ⟨lineBudget id.raw.toNat, Watts.zero, Watts.zero⟩
      else none := by
  induction n generalizing id with
  | zero =>
      rw [if_neg (by omega)]
      rfl
  | succ n inductionHypothesis =>
      have before := inductionHypothesis (by omega) id
      have newest : (lineBudget (n + 1)).id.raw.toNat = n + 1 := toNat_lineBudget small
      have fresh : (line n).state? (lineBudget (n + 1)).id = none := by
        rw [inductionHypothesis (by omega), newest, if_neg (by omega)]
      rw [line_succ, (install_fresh fresh).2]
      by_cases own : id = (lineBudget (n + 1)).id
      · rw [if_pos own, own, newest, if_pos ⟨by omega, le_rfl⟩]
      · have apart : id.raw.toNat ≠ n + 1 := fun same =>
          own (congrArg StrongId.mk (UInt64.toNat_inj.mp (same.trans newest.symm)))
        rw [if_neg own, before]
        by_cases inside : 1 ≤ id.raw.toNat ∧ id.raw.toNat ≤ n
        · rw [if_pos inside, if_pos ⟨inside.1, by omega⟩]
        · rw [if_neg inside, if_neg (by omega)]

theorem has_line {n : Nat} (small : n < 2 ^ 64) {k : Nat} (positive : 1 ≤ k) (within : k ≤ n) :
    (line n).has (lineBudget k).id = true := by
  have inside : (lineBudget k).id.raw.toNat = k := toNat_lineBudget (by omega)
  refine has_iff.mpr ⟨⟨lineBudget k, Watts.zero, Watts.zero⟩, ?_⟩
  rw [state?_line small, inside, if_pos ⟨positive, within⟩]

/-- Each budget of the line draws on the one before it. -/
theorem parentOf_line {n : Nat} (small : n < 2 ^ 64) {k : Nat} (positive : 1 ≤ k)
    (within : k ≤ n) : (line n).parentOf (lineBudget k).id =
      if k = 1 then none else some (lineBudget (k - 1)).id := by
  have inside : (lineBudget k).id.raw.toNat = k := toNat_lineBudget (by omega)
  have found : (line n).state? (lineBudget k).id =
      some ⟨lineBudget k, Watts.zero, Watts.zero⟩ := by
    rw [state?_line small, inside, if_pos ⟨positive, within⟩]
  rw [parentOf_of_state? found]
  show Option.filter StrongId.isValid (some (lineBudget (k - 1)).id) = _
  by_cases first : k = 1
  · subst first
    rfl
  · rw [if_neg first, Option.filter_some, if_pos]
    have below : (lineBudget (k - 1)).id.raw.toNat = k - 1 := toNat_lineBudget (by omega)
    refine bne_iff_ne.mpr fun null => ?_
    rw [null] at below
    change 0 = k - 1 at below
    omega

theorem exists_lineBudget {n : Nat} (small : n < 2 ^ 64) {id : BudgetId}
    (installed : (line n).has id = true) : ∃ k, 1 ≤ k ∧ k ≤ n ∧ id = (lineBudget k).id := by
  obtain ⟨s, found⟩ := has_iff.mp installed
  rw [state?_line small] at found
  by_cases inside : 1 ≤ id.raw.toNat ∧ id.raw.toNat ≤ n
  · have same : (lineBudget id.raw.toNat).id.raw.toNat = id.raw.toNat :=
      toNat_lineBudget (by omega)
    exact ⟨id.raw.toNat, inside.1, inside.2,
      congrArg StrongId.mk (UInt64.toNat_inj.mp same.symm)⟩
  · rw [if_neg inside] at found
    cases found

theorem forest_line {n : Nat} (small : n < 2 ^ 64) : (line n).Forest := by
  have edge : ∀ child up, (line n).parentOf child = some up →
      up.raw.toNat < child.raw.toNat ∧ (line n).has up = true := by
    intro child up parent
    obtain ⟨k, positive, within, rfl⟩ := exists_lineBudget small (has_of_parentOf parent)
    rw [parentOf_line small positive within] at parent
    by_cases first : k = 1
    · rw [if_pos first] at parent
      cases parent
    · rw [if_neg first] at parent
      obtain rfl := Option.some.inj parent
      rw [toNat_lineBudget (by omega), toNat_lineBudget (by omega)]
      exact ⟨by omega, has_line small (by omega) (by omega)⟩
  exact ⟨⟨fun b => b.raw.toNat, fun child up parent => (edge child up parent).1⟩,
    fun b p parent => (edge b p parent).2⟩

/-- The `k`-th budget of the line has a path of length `k`. -/
theorem exists_isPath_line {n : Nat} (small : n < 2 ^ 64) {k : Nat} (positive : 1 ≤ k)
    (within : k ≤ n) :
    ∃ path, IsPath (line n).parentOf (lineBudget k).id path ∧ path.length = k := by
  induction k with
  | zero => omega
  | succ k inductionHypothesis =>
      have parent := parentOf_line small positive within
      cases k with
      | zero => exact ⟨_, .root parent, rfl⟩
      | succ k =>
          rw [if_neg (by omega)] at parent
          obtain ⟨path, higher, length⟩ := inductionHypothesis (by omega) (by omega)
          exact ⟨_, .step parent higher, congrArg Nat.succ length⟩

/-- The check refuses a line of 258 budgets, which has no cycle and misses no parent. -/
theorem deep_line_refused : ¬ ∀ m : BudgetManager, m.validHierarchy = true ↔
    (∀ b p, m.parentOf b = some p → m.has p = true) ∧
      ∀ b p, m.parentOf b = some p → ¬ m.InSubtree p b := by
  intro claimed
  have forest : (line 258).Forest := forest_line (by decide)
  have valid := (claimed (line 258)).mpr ⟨forest.parentsInstalled, acyclic_iff.mp forest.acyclic⟩
  obtain ⟨_, shallow⟩ := validHierarchy_iff_forest.mp valid
  obtain ⟨path, isPath, length⟩ :=
    exists_isPath_line (n := 258) (by decide) (by decide : 1 ≤ 258) le_rfl
  have bounded := shallow _ path (has_line (by decide) (by decide) le_rfl) isPath
  omega

end BudgetManager

end PowerGovernor
