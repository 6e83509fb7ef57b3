import PowerGovernor.Budget.Forest
import PowerGovernor.Governor.Operations

/-!
The budget hierarchy of a Governor that only installs budgets.

Owns the runs of `install_budget` and the exact condition on their steps under
which the installed budgets are a forest after every successful install.
-/

set_option autoImplicit false

namespace PowerGovernor

namespace Governor

/-- One call of `install_budget`. -/
def afterInstallBudget (g : Governor) (b : PowerBudget) : Governor := (g.installBudget b).1

/-- A successful install leaves a forest behind. -/
def InstallsForest (g : Governor) (b : PowerBudget) : Prop :=
  (g.installBudget b).2 = true → (g.afterInstallBudget b).budgets.Forest

/-- The budget is not newer than the installed one, or the forest supports it. -/
def Placed (g : Governor) (b : PowerBudget) : Prop :=
  g.budgets.Superseded b ∨ g.budgets.Supports b

theorem installsForest_iff {g : Governor} (forest : g.budgets.Forest) (b : PowerBudget) :
    g.InstallsForest b ↔ g.Placed b := by
  by_cases superseded : g.budgets.Superseded b
  · refine iff_of_true (fun granted => ?_) (.inl superseded)
    exact absurd superseded (BudgetManager.install_granted_iff.mp granted)
  · have granted := BudgetManager.install_granted_iff.mpr superseded
    have shape := BudgetManager.forest_install_iff forest granted
    exact ⟨fun installs => .inr (shape.mp (installs granted)),
      fun placed _ => shape.mpr (placed.resolve_left superseded)⟩

theorem forest_afterInstallBudget {g : Governor} (forest : g.budgets.Forest) {b : PowerBudget}
    (installs : g.InstallsForest b) : (g.afterInstallBudget b).budgets.Forest := by
  by_cases superseded : g.budgets.Superseded b
  · have refused : (g.afterInstallBudget b).budgets = g.budgets :=
      congrArg Prod.fst (BudgetManager.install_refused superseded)
    rw [refused]
    exact forest
  · exact installs (BudgetManager.install_granted_iff.mpr superseded)

/-- In every run of `install_budget` calls, each successful install leaves a
forest exactly as long as every budget is superseded or supported: its parent is
installed and outside its own subtree. -/
theorem installs_forest_iff (cfg : GovernorConfig) (ids : Allocators) (bs : List PowerBudget) :
    Along afterInstallBudget InstallsForest (construct cfg ids) bs ↔
      Along afterInstallBudget Placed (construct cfg ids) bs :=
  along_congr_of_invariant (fun g => g.budgets.Forest)
    (fun _ b forest => installsForest_iff forest b)
    (fun _ _ forest installs => forest_afterInstallBudget forest installs)
    BudgetManager.forest_empty bs

/-- A node, an accelerator below it, and the node again below the accelerator. -/
def closingInstalls : List PowerBudget :=
  [BudgetManager.nodeBudget, BudgetManager.gpuBudget,
    { BudgetManager.nodeBudget with generation := ⟨2⟩, parent := some ⟨2⟩ }]

/-- The third install succeeds and closes a cycle. -/
theorem closingInstalls_not_forest :
    ¬ ∀ (cfg : GovernorConfig) (ids : Allocators) (bs : List PowerBudget),
      Along afterInstallBudget InstallsForest (construct cfg ids) bs := by
  intro always
  obtain ⟨_, _, last, _⟩ := always ⟨⟨0⟩, ⟨0⟩, .first⟩ .start closingInstalls
  obtain ⟨acyclic, _⟩ := last (by decide +kernel)
  refine BudgetManager.acyclic_iff.mp acyclic ⟨1⟩ ⟨2⟩ (by decide +kernel) ?_
  exact .single (by decide +kernel)

end Governor

end PowerGovernor
