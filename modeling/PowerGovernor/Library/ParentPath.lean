import Mathlib.Data.Finset.Card
import Mathlib.Data.List.Nodup
import Mathlib.Logic.Relation

/-!
Paths along a partial parent function.

Owns the bounded climb from a node to its ancestors, the ancestor relation, and
the facts that a parent function with a rank has duplicate-free climbs and that
a climb with enough fuel meets every ancestor. Owns also the whole path from a
node to its root, of which a climb is the beginning, and what giving one node
another parent does to the ancestors.
-/

set_option autoImplicit false

namespace ParentPath

variable {Node : Type}

/-- The nodes met from `start` upwards, at most `fuel` of them. -/
def climb (parent : Node → Option Node) : Nat → Option Node → List Node
  | 0, _ => []
  | _ + 1, none => []
  | fuel + 1, some node => node :: climb parent fuel (parent node)

/-- `upper` is `node` itself or one of its ancestors. -/
def Above (parent : Node → Option Node) (node upper : Node) : Prop :=
  Relation.ReflTransGen (fun child up => parent child = some up) node upper

/-- Every parent ranks strictly below its child, so no node is its own ancestor. -/
def Ranked (parent : Node → Option Node) (rank : Node → Nat) : Prop :=
  ∀ child up, parent child = some up → rank up < rank child

variable {parent : Node → Option Node}

theorem above_of_mem_climb {fuel : Nat} {node upper : Node}
    (member : upper ∈ climb parent fuel (some node)) : Above parent node upper := by
  induction fuel generalizing node with
  | zero => simp [climb] at member
  | succ fuel inductionHypothesis =>
      rcases List.mem_cons.mp member with same | higher
      · rw [same]
        exact .refl
      · cases up : parent node with
        | none =>
            rw [up] at higher
            cases fuel <;> simp [climb] at higher
        | some next =>
            rw [up] at higher
            exact .head up (inductionHypothesis higher)

theorem Ranked.le_of_above {rank : Node → Nat} (ranked : Ranked parent rank) {node upper : Node}
    (above : Above parent node upper) : rank upper ≤ rank node := by
  induction above with
  | refl => exact Nat.le_refl _
  | tail _ up inductionHypothesis =>
      exact Nat.le_trans (Nat.le_of_lt (ranked _ _ up)) inductionHypothesis

/-- A climb along a ranked parent function meets no node twice. -/
theorem Ranked.nodup_climb {rank : Node → Nat} (ranked : Ranked parent rank) (fuel : Nat)
    (start : Option Node) : (climb parent fuel start).Nodup := by
  induction fuel generalizing start with
  | zero => exact List.nodup_nil
  | succ fuel inductionHypothesis =>
      cases start with
      | none => exact List.nodup_nil
      | some node =>
          refine List.nodup_cons.mpr ⟨fun member => ?_, inductionHypothesis _⟩
          cases up : parent node with
          | none =>
              rw [up] at member
              cases fuel <;> simp [climb] at member
          | some next =>
              rw [up] at member
              have notAbove := ranked.le_of_above (above_of_mem_climb member)
              have strict := ranked _ _ up
              omega

/-- With more fuel than the rank of its start a climb meets every ancestor. -/
theorem Ranked.mem_climb_of_above {rank : Node → Nat} (ranked : Ranked parent rank) {fuel : Nat}
    {node upper : Node} (above : Above parent node upper) (enough : rank node < fuel) :
    upper ∈ climb parent fuel (some node) := by
  induction fuel generalizing node with
  | zero => omega
  | succ fuel inductionHypothesis =>
      rcases Relation.ReflTransGen.cases_head above with same | ⟨next, up, higher⟩
      · rw [same]
        exact List.mem_cons_self
      · have strict := ranked _ _ up
        refine List.mem_cons_of_mem _ ?_
        rw [up]
        exact inductionHypothesis higher (by omega)

/-! ## Ranks -/

/-- A parent function with finitely many children has a rank exactly when no
node is above its own parent. -/
theorem exists_ranked_iff {children : Finset Node}
    (finite : ∀ child up, parent child = some up → child ∈ children) :
    (∃ rank, Ranked parent rank) ↔
      ∀ child up, parent child = some up → ¬ Above parent up child := by
  constructor
  · rintro ⟨rank, ranked⟩ child up edge above
    exact absurd (ranked.le_of_above above) (not_le.mpr (ranked child up edge))
  · intro loopless
    classical
    -- A node ranks by the number of its ancestors.
    refine ⟨fun node => (children.filter (Above parent node)).card, fun child up edge => ?_⟩
    refine Finset.card_lt_card ((Finset.ssubset_iff_of_subset ?_).mpr ⟨child, ?_, ?_⟩)
    · intro upper member
      obtain ⟨present, above⟩ := Finset.mem_filter.mp member
      exact Finset.mem_filter.mpr ⟨present, .head edge above⟩
    · exact Finset.mem_filter.mpr ⟨finite child up edge, .refl⟩
    · intro member
      exact loopless child up edge (Finset.mem_filter.mp member).2

/-! ## The whole path -/

/-- `path` leads from `node` up to a node without a parent. -/
inductive IsPath (parent : Node → Option Node) : Node → List Node → Prop where
  | root {node : Node} (top : parent node = none) : IsPath parent node [node]
  | step {node up : Node} {path : List Node} (edge : parent node = some up)
      (higher : IsPath parent up path) : IsPath parent node (node :: path)

theorem Ranked.exists_isPath {rank : Node → Nat} (ranked : Ranked parent rank) (node : Node) :
    ∃ path, IsPath parent node path := by
  induction height : rank node using Nat.strong_induction_on generalizing node with
  | h bound inductionHypothesis =>
      cases edge : parent node with
      | none => exact ⟨[node], .root edge⟩
      | some up =>
          have lower : rank up < bound := height ▸ ranked node up edge
          obtain ⟨path, higher⟩ := inductionHypothesis (rank up) lower up rfl
          exact ⟨node :: path, .step edge higher⟩

namespace IsPath

variable {node : Node} {path : List Node}

/-- A path begins at its node. -/
theorem eq_cons_tail (isPath : IsPath parent node path) : path = node :: path.tail := by
  cases isPath <;> rfl

/-- A climb is the beginning of the path. -/
theorem climb_eq (isPath : IsPath parent node path) (fuel : Nat) :
    climb parent fuel (some node) = path.take fuel := by
  induction isPath generalizing fuel with
  | root top =>
      cases fuel with
      | zero => rfl
      | succ fuel => cases fuel <;> simp [climb, top]
  | step edge _ inductionHypothesis =>
      cases fuel with
      | zero => rfl
      | succ fuel => rw [climb, edge, inductionHypothesis, List.take_succ_cons]

theorem unique {other : List Node} (isPath : IsPath parent node path)
    (isOther : IsPath parent node other) : path = other := by
  have same := isPath.climb_eq (max path.length other.length)
  rw [isOther.climb_eq, List.take_of_length_le (Nat.le_max_right _ _),
    List.take_of_length_le (Nat.le_max_left _ _)] at same
  exact same.symm

theorem mem_iff (isPath : IsPath parent node path) {upper : Node} :
    upper ∈ path ↔ Above parent node upper := by
  constructor
  · intro member
    have whole := isPath.climb_eq path.length
    rw [List.take_length] at whole
    exact above_of_mem_climb (whole ▸ member)
  · intro above
    induction isPath with
    | root top =>
        rcases Relation.ReflTransGen.cases_head above with same | ⟨next, edge, _⟩
        · exact same ▸ List.mem_cons_self
        · rw [top] at edge
          cases edge
    | step edge _ inductionHypothesis =>
        rcases Relation.ReflTransGen.cases_head above with same | ⟨next, named, higher⟩
        · exact same ▸ List.mem_cons_self
        · rw [edge] at named
          cases named
          exact List.mem_cons_of_mem _ (inductionHypothesis higher)

theorem nodup (isPath : IsPath parent node path) {rank : Node → Nat}
    (ranked : Ranked parent rank) : path.Nodup := by
  have whole := isPath.climb_eq path.length
  rw [List.take_length] at whole
  exact whole ▸ ranked.nodup_climb path.length (some node)

/-- A climb reaches the root exactly when its fuel is as long as the path. -/
theorem isPath_climb_iff (isPath : IsPath parent node path) {fuel : Nat} :
    IsPath parent node (climb parent fuel (some node)) ↔ path.length ≤ fuel := by
  rw [isPath.climb_eq]
  constructor
  · intro whole
    exact List.take_eq_self_iff path |>.mp (isPath.unique whole).symm
  · intro enough
    rw [List.take_of_length_le enough]
    exact isPath

end IsPath

/-! ## Another parent for one node -/

section Moved

variable [DecidableEq Node] {node : Node} {up : Option Node}

/-- Giving `node` the parent `up` keeps a rank as long as `node` is not above its
new parent. -/
theorem exists_ranked_update {rank : Node → Nat} (ranked : Ranked parent rank)
    (outside : ∀ p ∈ up, ¬ Above parent p node) :
    ∃ rank', Ranked (Function.update parent node up) rank' := by
  classical
  -- Everything below `node` moves up together.
  let shift := ((up.map rank).getD 0) + 1
  refine ⟨fun k => if Above parent k node then rank k + shift else rank k, ?_⟩
  intro child p edge
  change (if Above parent p node then rank p + shift else rank p) <
    if Above parent child node then rank child + shift else rank child
  by_cases moved : child = node
  · subst moved
    rw [Function.update_self] at edge
    have below : Above parent child child := .refl
    rw [if_neg (outside p (Option.mem_def.mpr edge)), if_pos below]
    simp only [shift, edge, Option.map_some, Option.getD_some]
    omega
  · rw [Function.update_of_ne moved] at edge
    have strict := ranked child p edge
    have alike : Above parent child node ↔ Above parent p node := by
      refine ⟨fun above => ?_, fun above => .head edge above⟩
      rcases Relation.ReflTransGen.cases_head above with same | ⟨next, named, higher⟩
      · exact absurd same moved
      · rw [edge] at named
        cases named
        exact higher
    by_cases below : Above parent p node
    · rw [if_pos below, if_pos (alike.mpr below)]
      omega
    · rw [if_neg below, if_neg (alike.not.mpr below)]
      exact strict

/-- The nodes below `node` stay below it. -/
theorem above_update {below : Node} (above : Above parent below node) :
    Above (Function.update parent node up) below node := by
  induction above using Relation.ReflTransGen.head_induction_on with
  | refl => exact .refl
  | @head below next step _ inductionHypothesis =>
      -- The way up is cut at its first visit of `node`.
      by_cases arrived : below = node
      · exact arrived ▸ .refl
      · refine .head ?_ inductionHypothesis
        rw [Function.update_of_ne arrived]
        exact step

/-- A node above its new parent leaves no rank. -/
theorem not_ranked_update {p : Node} (inside : Above parent p node) (rank : Node → Nat) :
    ¬ Ranked (Function.update parent node (some p)) rank := by
  intro ranked
  have strict := ranked node p (Function.update_self ..)
  have still : Above (Function.update parent node (some p)) p node := above_update inside
  have below := ranked.le_of_above still
  omega

/-- A climb reads the parent of no node it does not meet, nor of the last node
its fuel lets it meet. -/
theorem climb_update_of_notMem (fuel : Nat) {start : Option Node}
    (unmet : node ∉ (climb parent (fuel + 1) start).take fuel) :
    climb (Function.update parent node up) (fuel + 1) start = climb parent (fuel + 1) start := by
  induction fuel generalizing start with
  | zero => cases start <;> rfl
  | succ fuel inductionHypothesis =>
      cases start with
      | none => rfl
      | some first =>
          rw [climb, List.take_succ_cons] at unmet
          obtain ⟨different, higher⟩ := not_or.mp (List.mem_cons.not.mp unmet)
          rw [climb, Function.update_of_ne (Ne.symm different), inductionHypothesis higher, climb]

end Moved

end ParentPath
