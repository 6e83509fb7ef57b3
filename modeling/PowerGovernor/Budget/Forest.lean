import PowerGovernor.Budget.Capacity

/-!
The shape of the budget hierarchy.

Owns the forest condition on the installed budgets, what an install does to it,
and the ancestors a chain consults: in a forest the chain of a budget is the path
to its root as long as that path fits the guard of the walk.
-/

set_option autoImplicit false

namespace PowerGovernor

open ParentPath

namespace BudgetManager

variable {m : BudgetManager}

/-- No budget is its own ancestor and every valid parent is installed. -/
structure Forest (m : BudgetManager) : Prop where
  acyclic : m.Acyclic
  parentsInstalled : ∀ b p, m.parentOf b = some p → m.has p = true

theorem has_of_parentOf {b p : BudgetId} (parent : m.parentOf b = some p) : m.has b = true := by
  obtain ⟨s, found, _⟩ := Option.bind_eq_some_iff.mp parent
  exact has_iff.mpr ⟨s, found⟩

/-- The installed budgets have a rank exactly when none is above its own parent. -/
theorem acyclic_iff :
    m.Acyclic ↔ ∀ b p, m.parentOf b = some p → ¬ m.InSubtree p b := by
  have finite : ∀ b p, m.parentOf b = some p →
      b ∈ (m.states.entries.map fun s => s.cfg.id).toFinset := by
    intro b p parent
    obtain ⟨s, found⟩ := has_iff.mp (has_of_parentOf parent)
    rw [List.mem_toFinset, ← id_of_state? found]
    exact List.mem_map_of_mem (Keyed.mem_of_find? found)
  exact exists_ranked_iff finite

/-- Budgets whose parents are installed and carry a smaller id form a forest. -/
theorem forest_of_ordered
    (ordered : ∀ s ∈ m.states.entries, ∀ p ∈ s.cfg.parent.filter StrongId.isValid,
      p.raw < s.cfg.id.raw ∧ m.has p = true) : m.Forest := by
  have edge : ∀ b p, m.parentOf b = some p → p.raw < b.raw ∧ m.has p = true := by
    intro b p parent
    obtain ⟨s, found, named⟩ := Option.bind_eq_some_iff.mp parent
    have smaller := ordered s (Keyed.mem_of_find? found) p named
    rwa [id_of_state? found] at smaller
  refine ⟨⟨fun b => b.raw.toNat, fun child up parent => ?_⟩, fun b p parent => (edge b p parent).2⟩
  exact UInt64.lt_iff_toNat_lt.mp (edge child up parent).1

theorem Sound.forest {granted : Nat} (sound : m.Sound granted) : m.Forest :=
  ⟨sound.acyclic, sound.parentsInstalled⟩

theorem forest_empty : empty.Forest := sound_empty.forest

/-! ## What an install does to the shape -/

/-- A granted install replaces one definition and keeps what is booked on it. -/
theorem state?_install {b : PowerBudget} (granted : (m.install b).2 = true) (k : BudgetId) :
    (m.install b).1.state? k =
      if k = b.id then some ⟨b, m.reserved b.id, m.used b.id⟩ else m.state? k := by
  rcases m.install_cases b with ⟨fresh, _⟩ | ⟨s, _, _, refused⟩ | ⟨s, found, _, reissued⟩
  · rw [(install_fresh fresh).2, reserved, used, fresh]
    rfl
  · rw [refused] at granted
    cases granted
  · rw [reissued, reserved, used, found]
    unfold state? at found ⊢
    rw [Keyed.find?_modify, found]
    rfl

/-- An install is refused when the installed budget is at least as new. -/
def Superseded (m : BudgetManager) (b : PowerBudget) : Prop :=
  ∃ s, m.state? b.id = some s ∧ b.generation ≤ s.cfg.generation

theorem install_refused {b : PowerBudget} (superseded : m.Superseded b) :
    m.install b = (m, false) := by
  obtain ⟨s, found, older⟩ := superseded
  unfold install
  rw [found]
  exact if_pos older

theorem install_granted_iff {b : PowerBudget} : (m.install b).2 = true ↔ ¬ m.Superseded b := by
  rcases m.install_cases b with ⟨fresh, added⟩ | ⟨s, found, older, refused⟩ |
    ⟨s, found, newer, reissued⟩
  · refine iff_of_true (congrArg Prod.snd added) fun ⟨s, found, _⟩ => ?_
    rw [fresh] at found
    cases found
  · rw [refused]
    exact iff_of_false Bool.false_ne_true (not_not.mpr ⟨s, found, older⟩)
  · refine iff_of_true (congrArg Prod.snd reissued) fun ⟨other, same, older⟩ => ?_
    rw [found] at same
    cases same
    exact newer older

theorem parentOf_install {b : PowerBudget} (granted : (m.install b).2 = true) :
    (m.install b).1.parentOf =
      Function.update m.parentOf b.id (b.parent.filter StrongId.isValid) := by
  funext k
  rw [parentOf, state?_install granted]
  by_cases own : k = b.id
  · rw [own, if_pos rfl, Function.update_self]
    rfl
  · rw [if_neg own, Function.update_of_ne own]
    rfl

theorem has_install {b : PowerBudget} (granted : (m.install b).2 = true) {k : BudgetId} :
    (m.install b).1.has k = true ↔ k = b.id ∨ m.has k = true := by
  rw [has_iff, has_iff, state?_install granted]
  by_cases own : k = b.id
  · simp [own]
  · simp [own]

/-- A re-issue keeps what is booked. -/
theorem amount?_reissue {b : PowerBudget} (present : m.has b.id = true)
    (granted : (m.install b).2 = true) (counter : Counter) (k : BudgetId) :
    (m.install b).1.amount? counter k = m.amount? counter k := by
  unfold amount?
  rw [state?_install granted]
  by_cases own : k = b.id
  · obtain ⟨s, found⟩ := has_iff.mp present
    rw [own, if_pos rfl, found, reserved, used, found]
    cases counter <;> rfl
  · rw [if_neg own]

/-- A re-issue moves no chain on which the budget is not, or only as the last one
the guard allows, and none at all when it keeps its parent. -/
theorem chain_install {b : PowerBudget} (granted : (m.install b).2 = true) {id : BudgetId}
    (kept : b.parent.filter StrongId.isValid = m.parentOf b.id ∨ b.id ∉ (m.chain id).take 64) :
    (m.install b).1.chain id = m.chain id := by
  rcases kept with sameParent | unmet
  · refine chain_congr ?_ id
    rw [parentOf_install granted, sameParent, Function.update_eq_self]
  · rw [chain_eq_climb] at unmet ⊢
    rw [chain_eq_climb, parentOf_install granted]
    exact climb_update_of_notMem 64 unmet

/-- The parent a budget names is installed and not in the subtree of the budget. -/
def Supports (m : BudgetManager) (b : PowerBudget) : Prop :=
  ∀ p, b.parent = some p → p.isValid = true → m.has p = true ∧ ¬ m.InSubtree p b.id

/-- An install keeps a forest exactly when the forest supports the new budget. -/
theorem forest_install_iff (forest : m.Forest) {b : PowerBudget}
    (granted : (m.install b).2 = true) : (m.install b).1.Forest ↔ m.Supports b := by
  obtain ⟨rank, ranked⟩ := forest.acyclic
  constructor
  · rintro ⟨⟨rank', ranked'⟩, installed⟩ p named valid
    have parent : b.parent.filter StrongId.isValid = some p :=
      Option.filter_eq_some_iff.mpr ⟨named, valid⟩
    rw [parentOf_install granted, parent] at ranked' installed
    have outside : ¬ m.InSubtree p b.id := fun inside => not_ranked_update inside rank' ranked'
    rcases (has_install granted).mp (installed b.id p (Function.update_self ..)) with own | present
    · exact absurd (own ▸ Relation.ReflTransGen.refl) outside
    · exact ⟨present, outside⟩
  · intro supports
    have supported : ∀ p, b.parent.filter StrongId.isValid = some p →
        m.has p = true ∧ ¬ m.InSubtree p b.id := by
      intro p parent
      obtain ⟨named, valid⟩ := Option.filter_eq_some_iff.mp parent
      exact supports p named valid
    constructor
    · unfold Acyclic
      rw [parentOf_install granted]
      exact exists_ranked_update ranked fun p parent => (supported p parent).2
    · intro k p parent
      rw [has_install granted]
      rw [parentOf_install granted] at parent
      by_cases own : k = b.id
      · rw [own, Function.update_self] at parent
        exact .inr (supported p parent).1
      · rw [Function.update_of_ne own] at parent
        exact .inr (forest.parentsInstalled k p parent)

/-! ## The ancestors a chain consults -/

/-- The chain of `id` is the duplicate-free `path`, and the three queries along
it take the capacity of every budget on `path` into account. -/
structure Consults (m : BudgetManager) (id : BudgetId) (path : List BudgetId) : Prop where
  chain : m.chain id = path
  nodup : path.Nodup
  reserve : ∀ amount rid budgetGen, (m.reserve id amount rid budgetGen).2 = true →
    ∀ b ∈ path, ∃ s, m.state? b = some s ∧ amount.value ≤ s.ownAvailable.value + slack
  activate : ∀ amount rid budgetGen, (m.activate id amount rid budgetGen).2 = true →
    ∀ b ∈ path, ∃ s, m.state? b = some s ∧ amount.value ≤ s.ownAvailable.value + slack
  available : ∀ b ∈ path, ∃ s, m.state? b = some s ∧
    (m.available id).value ≤ s.ownAvailable.value

/-- A granted booking found room on every budget of the chain. -/
theorem room_of_booked {counter : Counter} {needsAuthority : Bool} {id : BudgetId}
    {amount : Watts} {budgetGen : BudgetGeneration}
    (granted : (book counter needsAuthority m id amount budgetGen).2 = true) :
    ∀ b ∈ m.chain id, ∃ s, m.state? b = some s ∧
      amount.value ≤ s.ownAvailable.value + slack := by
  rcases book_cases counter needsAuthority m id amount budgetGen with
    ⟨refused, _⟩ | ⟨_, bookable⟩
  · rw [refused] at granted
    cases granted
  · exact bookable.room

/-- In a forest the chain of an installed budget is installed. -/
theorem Forest.has_of_inSubtree (forest : m.Forest) {id b : BudgetId} (installed : m.has id = true)
    (inside : m.InSubtree id b) : m.has b = true := by
  rcases inside.cases_tail with same | ⟨child, _, parent⟩
  · exact same ▸ installed
  · exact forest.parentsInstalled child b parent

theorem Forest.has_of_mem_chain (forest : m.Forest) {id b : BudgetId} (installed : m.has id = true)
    (onChain : b ∈ m.chain id) : m.has b = true :=
  forest.has_of_inSubtree installed (inSubtree_of_mem_chain onChain)

/-- What is available to a budget is left on every budget of its chain. -/
theorem available_le (forest : m.Forest) {id : BudgetId} (installed : m.has id = true) :
    ∀ b ∈ m.chain id, ∃ s, m.state? b = some s ∧
      (m.available id).value ≤ s.ownAvailable.value := by
  intro b onChain
  rcases (m.available id).nonneg.eq_or_lt with exhausted | positive
  · obtain ⟨s, found⟩ := has_iff.mp (forest.has_of_mem_chain installed onChain)
    exact ⟨s, found, exhausted ▸ s.ownAvailable.nonneg⟩
  · exact ((le_available_iff positive).mp (le_refl _)).2 b onChain

/-- In a forest every installed budget has one path to its root, and its chain
consults that path exactly when the budget is not the null one and the path fits
the 65 iterations of the walk. -/
theorem consults_path_iff (forest : m.Forest) {id : BudgetId} (installed : m.has id = true) :
    ∃ path, IsPath m.parentOf id path ∧
      (m.Consults id path ↔ id.isValid = true ∧ path.length ≤ 65) := by
  obtain ⟨rank, ranked⟩ := forest.acyclic
  obtain ⟨path, isPath⟩ := ranked.exists_isPath id
  refine ⟨path, isPath, fun consults => ?_, fun ⟨valid, short⟩ => ?_⟩
  · have self : id ∈ m.chain id := consults.chain ▸ isPath.mem_iff.mpr .refl
    have valid := isValid_of_mem_chain self
    have walked := consults.chain
    rw [chain_eq_climb, Option.filter_some, if_pos valid] at walked
    exact ⟨valid, isPath.isPath_climb_iff.mp (walked ▸ isPath)⟩
  · have walked : m.chain id = path := by
      rw [chain_eq_climb, Option.filter_some, if_pos valid]
      exact (isPath.unique (isPath.isPath_climb_iff.mpr short)).symm
    exact {
      chain := walked
      nodup := isPath.nodup ranked
      reserve := fun amount rid budgetGen granted => walked ▸ room_of_booked granted
      activate := fun amount rid budgetGen granted => walked ▸ room_of_booked granted
      available := walked ▸ available_le forest installed }

theorem twoLevels_consults :
    ∃ path, IsPath twoLevels.parentOf ⟨2⟩ path ∧
      (twoLevels.Consults ⟨2⟩ path ↔ (⟨2⟩ : BudgetId).isValid = true ∧ path.length ≤ 65) :=
  consults_path_iff (sound_of_reachable twoLevels_reachable).forest (by decide +kernel)

/-- The `k`-th budget of a line in which each draws on the one before. -/
def lineBudget (k : Nat) : PowerBudget :=
  { PowerBudget.blank with
    id := ⟨k.toUInt64⟩, generation := .first, parent := some ⟨(k - 1).toUInt64⟩
    hardMax := Watts.clamped (if k = 1 then 100 else 200) }

/-- A line of `n` budgets under the first. -/
def line (n : Nat) : BudgetManager :=
  ((List.range' 1 n).map lineBudget).foldl (fun m b => (m.install b).1) empty

/-- The 66th budget of a line takes 150 W that the first one does not have. -/
theorem line_unconsulted :
    ((line 66).reserve ⟨66⟩ (Watts.clamped 150) ⟨1⟩ .first).2 = true ∧
      (line 66).hardMax ⟨1⟩ = Watts.clamped 100 ∧
      ¬ ∀ (m : BudgetManager) (id : BudgetId) (path : List BudgetId), m.Forest →
        m.has id = true → IsPath m.parentOf id path → m.Consults id path := by
  have evaluated : ((line 66).reserve ⟨66⟩ (Watts.clamped 150) ⟨1⟩ .first).2 = true ∧
      (line 66).hardMax ⟨1⟩ = Watts.clamped 100 ∧ (line 66).has ⟨66⟩ = true ∧
      (climb (line 66).parentOf 66 (some ⟨66⟩)).length = 66 := by decide +kernel
  obtain ⟨granted, hardMax, installed, climbed⟩ := evaluated
  refine ⟨granted, hardMax, fun always => ?_⟩
  have forest : (line 66).Forest := forest_of_ordered (by decide +kernel)
  obtain ⟨path, isPath, consults⟩ := consults_path_iff forest installed
  obtain ⟨_, short⟩ := consults.mp (always _ _ path forest installed isPath)
  rw [isPath.climb_eq, List.length_take] at climbed
  omega

end BudgetManager

end PowerGovernor
