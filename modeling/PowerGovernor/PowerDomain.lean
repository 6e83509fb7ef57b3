import PowerGovernor.Budget.Manager
import PowerGovernor.Library.ParentPath
import PowerGovernor.Library.Stateful
import PowerGovernor.Library.Transition
import Mathlib.Data.List.Count

/-!
Hierarchical power domains.

Owns `PowerDomain`, the operations of `PowerDomainTree`, and the shape of the tree
over every run of `add`: parent links and children lists agree, no domain is above
itself, and the loop of `ancestors`, which has no step bound of its own, ends with
the path to the root.

Does not own any accounting; that is bound to budgets.
-/

set_option autoImplicit false

namespace PowerGovernor

open ParentPath

inductive PowerDomainType where
  | fleet | rack | node | accelerator | workloadClass | reservation
deriving DecidableEq, Repr

structure PowerDomain where
  id : PowerDomainId
  type : PowerDomainType
  parent : Option PowerDomainId
  children : List PowerDomainId
  name : Bytes
  physical : Bool
deriving DecidableEq

def PowerDomain.construct (id : PowerDomainId) (type : PowerDomainType)
    (parent : Option PowerDomainId) (name : Bytes) : PowerDomain where
  id := id
  type := type
  parent := parent
  children := []
  name := name
  physical := false

/-- The domains, each under its own id. -/
structure PowerDomainTree where
  nodes : Keyed PowerDomain.id
deriving DecidableEq

namespace PowerDomainTree

def empty : PowerDomainTree := ⟨Keyed.empty⟩

def contains (tree : PowerDomainTree) (id : PowerDomainId) : Bool := tree.nodes.contains id

def size (tree : PowerDomainTree) : Nat := tree.nodes.size

/-- `nodes_[p].children.push_back(id)`, for a domain `p` of the tree. -/
def pushChild (tree : PowerDomainTree) (p id : PowerDomainId) : PowerDomainTree :=
  ⟨tree.nodes.modify p (fun d => { d with children := d.children ++ [id] }) fun _ keyed => keyed⟩

def add (tree : PowerDomainTree) (id : PowerDomainId) (type : PowerDomainType)
    (parent : Option PowerDomainId) (name : Bytes) (physical : Bool) :
    Except Fault PowerDomainId × PowerDomainTree :=
  if !id.isValid then (.error (.invalidArgument "pg: domain id must be valid"), tree)
  else if tree.contains id then (.error (.invalidArgument "pg: duplicate domain id"), tree)
  -- A null parent passes this check and is stored, but no child is recorded for it.
  else if parent.any fun p => p.isValid && !tree.contains p then
    (.error (.invalidArgument "pg: parent domain does not exist"), tree)
  else
    let d := { PowerDomain.construct id type parent name with physical := physical }
    let grown : PowerDomainTree := ⟨tree.nodes.emplace d⟩
    match parent with
    | none => (.ok id, grown)
    | some p => (.ok id, if p.isValid then grown.pushChild p id else grown)

def get (tree : PowerDomainTree) (id : PowerDomainId) : Except Fault PowerDomain :=
  match tree.nodes.find? id with
  | none => .error (.outOfRange "pg: unknown domain id")
  | some d => .ok d

/-- The loop of `ancestors`; `none` while it has not ended after `fuel` tests of its
condition. -/
def ancestorsLoop (tree : PowerDomainTree) :
    Nat → Option PowerDomainId → List PowerDomainId → Option (List PowerDomainId)
  | 0, _, _ => none
  | _ + 1, none, out => some out
  | fuel + 1, some cur, out =>
    if cur.isValid then
      match tree.nodes.find? cur with
      | none => some (out ++ [cur])
      | some d => ancestorsLoop tree fuel d.parent (out ++ [cur])
    else some out

/-- The chain of ancestors from deepest to most general. -/
def ancestors (tree : PowerDomainTree) (fuel : Nat) (id : PowerDomainId) :
    Except Fault (Option (List PowerDomainId)) := do
  let d ← tree.get id
  return tree.ancestorsLoop fuel d.parent []

/-! ## Parent links -/

/-- The parent of a domain as `add` and `ancestors` read it: a null id is none. -/
def parentOf (tree : PowerDomainTree) (id : PowerDomainId) : Option PowerDomainId :=
  (tree.nodes.find? id).bind fun d => d.parent.filter StrongId.isValid

/-- `upper` is a proper ancestor of `id`. -/
def Ancestor (tree : PowerDomainTree) (id upper : PowerDomainId) : Prop :=
  Relation.TransGen (fun child up => tree.parentOf child = some up) id upper

variable {tree : PowerDomainTree}

theorem contains_iff {id : PowerDomainId} :
    tree.contains id = true ↔ ∃ d, tree.nodes.find? id = some d := Option.isSome_iff_exists

theorem contains_eq_false_iff {id : PowerDomainId} :
    tree.contains id = false ↔ tree.nodes.find? id = none := by
  rw [contains, Keyed.contains, Option.isSome_eq_false_iff, Option.isNone_iff_eq_none]

theorem find?_pushChild (p id k : PowerDomainId) :
    (tree.pushChild p id).nodes.find? k =
      if k = p then (tree.nodes.find? p).map fun d => { d with children := d.children ++ [id] }
      else tree.nodes.find? k := by
  rw [pushChild, Keyed.find?_modify]

/-! ## What an `add` does -/

/-- A new valid id whose valid parent is present. -/
structure Addable (tree : PowerDomainTree) (id : PowerDomainId) (parent : Option PowerDomainId) :
    Prop where
  valid : id.isValid = true
  fresh : tree.nodes.find? id = none
  parentPresent : ∀ p, parent.filter StrongId.isValid = some p → tree.contains p = true

/-- The tree with one more domain, entered into the children of its parent. -/
def grown (tree : PowerDomainTree) (d : PowerDomain) : PowerDomainTree :=
  match d.parent.filter StrongId.isValid with
  | none => ⟨tree.nodes.emplace d⟩
  | some p => pushChild ⟨tree.nodes.emplace d⟩ p d.id

/-- An `add` throws and changes nothing, or adds one domain. -/
theorem add_cases (tree : PowerDomainTree) (id : PowerDomainId) (type : PowerDomainType)
    (parent : Option PowerDomainId) (name : Bytes) (physical : Bool) :
    (∃ text, tree.add id type parent name physical = (.error (.invalidArgument text), tree)) ∨
      (tree.Addable id parent ∧ tree.add id type parent name physical =
        (.ok id, tree.grown ⟨id, type, parent, [], name, physical⟩)) := by
  unfold add
  cases valid : id.isValid with
  | false => exact .inl ⟨_, rfl⟩
  | true =>
      cases taken : tree.contains id with
      | true => exact .inl ⟨_, rfl⟩
      | false =>
          cases absent : parent.any fun p => p.isValid && !tree.contains p with
          | true => exact .inl ⟨_, rfl⟩
          | false =>
              refine .inr ⟨⟨valid, contains_eq_false_iff.mp taken, ?_⟩, ?_⟩
              · intro p named
                obtain ⟨rfl, valid⟩ := Option.filter_eq_some_iff.mp named
                simpa [valid] using absent
              · cases parent with
                | none => rfl
                | some p => cases named : p.isValid <;> simp [grown, Option.filter, named] <;> rfl

/-- Under the id of the new domain and of its parent the tree has changed. -/
theorem find?_grown {d : PowerDomain} (addable : tree.Addable d.id d.parent)
    (k : PowerDomainId) :
    (tree.grown d).nodes.find? k =
      if k = d.id then some d
      else if d.parent.filter StrongId.isValid = some k then
        (tree.nodes.find? k).map fun up => { up with children := up.children ++ [d.id] }
      else tree.nodes.find? k := by
  unfold grown
  split
  · rename_i root
    rw [Keyed.find?_emplace addable.fresh]
    simp [root]
  · rename_i p named
    have other : p ≠ d.id := by
      rintro rfl
      obtain ⟨up, found⟩ := contains_iff.mp (addable.parentPresent _ named)
      rw [addable.fresh] at found
      cases found
    rw [find?_pushChild, Keyed.find?_emplace addable.fresh, Keyed.find?_emplace addable.fresh,
      if_neg other, named]
    by_cases own : k = d.id
    · rw [if_neg (own ▸ Ne.symm other), if_pos own, if_pos own]
    · by_cases up : k = p
      · simp [up, other]
      · simp [up, own, Ne.symm up]

theorem parentOf_grown {d : PowerDomain} (addable : tree.Addable d.id d.parent) :
    (tree.grown d).parentOf =
      Function.update tree.parentOf d.id (d.parent.filter StrongId.isValid) := by
  funext k
  rw [parentOf, find?_grown addable]
  by_cases own : k = d.id
  · subst own
    simp
  · rw [if_neg own, Function.update_of_ne own]
    split
    · cases found : tree.nodes.find? k <;> simp [parentOf, found]
    · rfl

theorem contains_grown {d : PowerDomain} (addable : tree.Addable d.id d.parent)
    {k : PowerDomainId} : (tree.grown d).contains k = true ↔ k = d.id ∨ tree.contains k = true := by
  rw [contains_iff, find?_grown addable, contains_iff]
  by_cases own : k = d.id
  · simp [own]
  · rw [if_neg own]
    split <;> simp [own]

/-! ## The shape of the tree -/

/-- Parents are present, the parent links have a rank, and the children lists
repeat the parent links. -/
structure Shaped (tree : PowerDomainTree) : Prop where
  parentPresent : ∀ id p, tree.parentOf id = some p → tree.contains p = true
  ranked : ∃ rank, Ranked tree.parentOf rank
  children : ∀ p d, tree.nodes.find? p = some d →
    ∀ id, d.children.count id = if tree.parentOf id = some p then 1 else 0

theorem shaped_empty : empty.Shaped where
  parentPresent := nofun
  ranked := ⟨fun _ => 0, nofun⟩
  children := nofun

namespace Shaped

variable (shaped : tree.Shaped)
include shaped

/-- No absent domain is above a present one. -/
theorem not_above_absent {p fresh : PowerDomainId} (absent : tree.nodes.find? fresh = none)
    (present : tree.contains p = true) : ¬ Above tree.parentOf p fresh := by
  intro above
  rcases Relation.ReflTransGen.cases_tail above with same | ⟨child, _, edge⟩
  · rw [← same, contains_eq_false_iff.mpr absent] at present
    cases present
  · have upper := shaped.parentPresent child fresh edge
    rw [contains_eq_false_iff.mpr absent] at upper
    cases upper

theorem grown {d : PowerDomain} (addable : tree.Addable d.id d.parent)
    (childless : d.children = []) : (tree.grown d).Shaped := by
  have rooted : tree.parentOf d.id = none := by rw [parentOf, addable.fresh]; rfl
  constructor
  · intro id p edge
    rw [contains_grown addable]
    rw [parentOf_grown addable] at edge
    by_cases own : id = d.id
    · rw [own, Function.update_self] at edge
      exact .inr (addable.parentPresent p edge)
    · rw [Function.update_of_ne own] at edge
      exact .inr (shaped.parentPresent id p edge)
  · obtain ⟨rank, ranked⟩ := shaped.ranked
    rw [parentOf_grown addable]
    refine exists_ranked_update ranked fun p named => ?_
    exact shaped.not_above_absent addable.fresh (addable.parentPresent p named)
  · intro p up found id
    rw [find?_grown addable] at found
    rw [parentOf_grown addable]
    split at found
    · -- The new domain is nobody's parent.
      rename_i own
      obtain rfl := Option.some.inj found
      rw [childless, List.count_nil, if_neg]
      intro edge
      have absent : tree.contains d.id = false := contains_eq_false_iff.mpr addable.fresh
      have present : tree.contains d.id = true := by
        rw [own] at edge
        by_cases self : id = d.id
        · rw [self, Function.update_self] at edge
          exact addable.parentPresent _ edge
        · rw [Function.update_of_ne self] at edge
          exact shaped.parentPresent _ _ edge
      rw [absent] at present
      cases present
    · split at found
      · -- Its parent has one more child.
        rename_i _ named
        obtain ⟨old, stored, rfl⟩ := Option.map_eq_some_iff.mp found
        rw [List.count_append, shaped.children p old stored]
        by_cases new : id = d.id
        · rw [new, rooted, Function.update_self, named]
          simp
        · rw [Function.update_of_ne new]
          simp [Ne.symm new]
      · rename_i _ other
        rw [shaped.children p up found]
        by_cases new : id = d.id
        · rw [new, rooted, Function.update_self, if_neg other]
          simp
        · rw [Function.update_of_ne new]

/-- No domain is its own ancestor. -/
theorem ancestor_irrefl (id : PowerDomainId) : ¬ tree.Ancestor id id := by
  intro above
  obtain ⟨rank, ranked⟩ := shaped.ranked
  obtain ⟨up, edge, back⟩ := Relation.TransGen.head'_iff.mp above
  have lower := ranked id up edge
  have higher := ranked.le_of_above back
  omega

theorem contains_of_above {id upper : PowerDomainId} (present : tree.contains id = true)
    (above : Above tree.parentOf id upper) : tree.contains upper = true := by
  rcases Relation.ReflTransGen.cases_tail above with same | ⟨child, _, edge⟩
  · rwa [same]
  · exact shaped.parentPresent child upper edge

/-- A path of domains is no longer than the tree has domains. -/
theorem length_le_size {id : PowerDomainId} {path : List PowerDomainId}
    (present : tree.contains id = true) (isPath : IsPath tree.parentOf id path) :
    path.length ≤ tree.size := by
  obtain ⟨rank, ranked⟩ := shaped.ranked
  have inside : path ⊆ tree.nodes.entries.map PowerDomain.id := by
    intro upper member
    have there := shaped.contains_of_above present (isPath.mem_iff.mp member)
    obtain ⟨d, found⟩ := contains_iff.mp there
    rw [← Keyed.key_of_find? found]
    exact List.mem_map_of_mem (Keyed.mem_of_find? found)
  have bound := (List.subperm_of_subset (isPath.nodup ranked) inside).length_le
  rwa [List.length_map] at bound

/-- The loop of `ancestors` appends the path above its domain and ends. -/
theorem ancestorsLoop_eq {id : PowerDomainId} {path : List PowerDomainId}
    (isPath : IsPath tree.parentOf id path) {d : PowerDomain}
    (found : tree.nodes.find? id = some d) {fuel : Nat} (enough : path.length ≤ fuel)
    (out : List PowerDomainId) :
    tree.ancestorsLoop fuel d.parent out = some (out ++ path.tail) := by
  induction isPath generalizing d fuel out with
  | root top =>
      obtain ⟨fuel, rfl⟩ := Nat.exists_eq_succ_of_ne_zero (Nat.ne_of_gt enough)
      rw [parentOf, found, Option.bind_some] at top
      cases parent : d.parent with
      | none => simp [ancestorsLoop]
      | some p =>
          have null : ¬ p.isValid = true := by
            intro valid
            simp [parent, Option.filter, valid] at top
          simp [ancestorsLoop, null]
  | step edge higher inductionHypothesis =>
      rename_i id up path
      obtain ⟨fuel, rfl⟩ := Nat.exists_eq_succ_of_ne_zero (Nat.ne_of_gt (Nat.zero_lt_of_lt enough))
      obtain ⟨parent, stored⟩ := contains_iff.mp (shaped.parentPresent id up edge)
      rw [parentOf, found, Option.bind_some] at edge
      obtain ⟨named, valid⟩ := Option.filter_eq_some_iff.mp edge
      rw [named, ancestorsLoop, if_pos valid, stored]
      have further : path.length ≤ fuel := Nat.le_of_succ_le_succ enough
      calc tree.ancestorsLoop fuel parent.parent (out ++ [up])
          = some (out ++ [up] ++ path.tail) := inductionHypothesis stored further (out ++ [up])
        _ = some (out ++ path) := by
            rw [List.append_assoc, List.singleton_append, ← higher.eq_cons_tail]

/-- `ancestors` of a present domain ends with the path above it. -/
theorem ancestors_eq {id : PowerDomainId} {path : List PowerDomainId}
    (present : tree.contains id = true) (isPath : IsPath tree.parentOf id path) {fuel : Nat}
    (enough : tree.size ≤ fuel) : tree.ancestors fuel id = .ok (some path.tail) := by
  obtain ⟨d, found⟩ := contains_iff.mp present
  have bound := shaped.length_le_size present isPath
  have ended := shaped.ancestorsLoop_eq isPath found (bound.trans enough) []
  rw [ancestors, get, found]
  exact congrArg Except.ok ended

end Shaped

/-! ## Runs of `add` -/

/-- The arguments of an `add`. -/
structure AddCall where
  id : PowerDomainId
  type : PowerDomainType
  parent : Option PowerDomainId
  name : Bytes
  physical : Bool

/-- What a call returns or throws, and the tree it leaves behind. -/
def AddCall.perform (call : AddCall) (tree : PowerDomainTree) :
    Except Fault PowerDomainId × PowerDomainTree :=
  tree.add call.id call.type call.parent call.name call.physical

/-- The trees that arbitrary calls of `add` build. -/
def addRuns : TransitionSystem PowerDomainTree AddCall where
  init := fun tree => tree = empty
  step := fun tree call tree' => tree' = (call.perform tree).2

theorem Shaped.perform (shaped : tree.Shaped) (call : AddCall) : (call.perform tree).2.Shaped := by
  rcases tree.add_cases call.id call.type call.parent call.name call.physical with
    ⟨text, thrown⟩ | ⟨addable, added⟩
  · rwa [AddCall.perform, thrown]
  · rw [AddCall.perform, added]
    exact shaped.grown addable rfl

theorem shaped_of_reachable (reached : addRuns.Reachable tree) : tree.Shaped := by
  refine reached.invariant Shaped ?_ ?_
  · rintro tree rfl
    exact shaped_empty
  · rintro tree call tree' shaped rfl
    exact shaped.perform call

/-- A call that throws changes nothing. -/
theorem unchanged_of_thrown {call : AddCall} {fault : Fault}
    (thrown : (call.perform tree).1 = .error fault) : (call.perform tree).2 = tree := by
  rcases tree.add_cases call.id call.type call.parent call.name call.physical with
    ⟨text, refused⟩ | ⟨_, added⟩
  · rw [AddCall.perform, refused]
  · rw [AddCall.perform, added] at thrown
    cases thrown

/-- A parent named by a null id is stored, though no domain carries it. -/
theorem null_parent_is_stored :
    let call : AddCall := ⟨⟨1⟩, .node, some ⟨0⟩, [], false⟩
    let tree := (call.perform empty).2
    (call.perform empty).1 = .ok ⟨1⟩ ∧ addRuns.Reachable tree ∧
      ¬ ∀ d ∈ tree.nodes.entries, ∀ p, d.parent = some p → tree.contains p = true := by
  refine ⟨by decide, .step _ (.start rfl) rfl, fun present => ?_⟩
  have missing := present ⟨⟨1⟩, .node, some ⟨0⟩, [], [], false⟩ (by decide) ⟨0⟩ rfl
  exact absurd missing (by decide)

/-- Over every run of `add` the domains form a tree, in which a null parent counts
as none, and `ancestors` ends with the path to the root. -/
theorem domains_form_a_tree (reached : addRuns.Reachable tree) :
    (∀ (call : AddCall) (fault : Fault), (call.perform tree).1 = .error fault →
        (call.perform tree).2 = tree) ∧
      (∀ d ∈ tree.nodes.entries, ∀ p, d.parent = some p → p.isValid = true →
        tree.contains p = true) ∧
      (∀ id, ¬ tree.Ancestor id id) ∧
      (∀ p d, tree.nodes.find? p = some d →
        ∀ id, d.children.count id = if tree.parentOf id = some p then 1 else 0) ∧
      ∀ id, tree.contains id = true → ∃ path,
        (∀ fuel, tree.size ≤ fuel → tree.ancestors fuel id = .ok (some path)) ∧
          IsPath tree.parentOf id (id :: path) ∧ path.Nodup ∧ id ∉ path := by
  have shaped := shaped_of_reachable reached
  obtain ⟨rank, ranked⟩ := shaped.ranked
  refine ⟨fun call fault => unchanged_of_thrown, ?_, shaped.ancestor_irrefl, shaped.children, ?_⟩
  · intro d member p named valid
    refine shaped.parentPresent d.id p ?_
    rw [parentOf, Keyed.find?_of_mem member, Option.bind_some, named]
    exact Option.filter_eq_some_iff.mpr ⟨rfl, valid⟩
  · intro id present
    obtain ⟨path, isPath⟩ := ranked.exists_isPath id
    have whole := isPath.eq_cons_tail
    have distinct := isPath.nodup ranked
    rw [whole] at distinct
    obtain ⟨outside, distinct⟩ := List.nodup_cons.mp distinct
    exact ⟨path.tail, fun fuel enough => shaped.ancestors_eq present isPath enough,
      whole ▸ isPath, distinct, outside⟩

/-- A fleet, a rack in it, a refused duplicate and a node in the rack. -/
theorem domains_form_a_tree_rack :
    let calls : List AddCall :=
      [⟨⟨1⟩, .fleet, none, [], false⟩, ⟨⟨2⟩, .rack, some ⟨1⟩, [], false⟩,
        ⟨⟨1⟩, .rack, some ⟨2⟩, [], false⟩, ⟨⟨3⟩, .node, some ⟨2⟩, [], true⟩]
    let tree := calls.foldl (fun tree call => (call.perform tree).2) empty
    tree.contains ⟨3⟩ = true ∧ ∃ path, tree.ancestors 3 ⟨3⟩ = .ok (some path) ∧
      IsPath tree.parentOf ⟨3⟩ (⟨3⟩ :: path) ∧ path.Nodup ∧ ⟨3⟩ ∉ path := by
  intro calls tree
  have reached : addRuns.Reachable tree := (TransitionSystem.Reachable.start rfl).run
    (fun _ _ => rfl) calls
  obtain ⟨_, _, _, _, paths⟩ := domains_form_a_tree reached
  have present : tree.contains ⟨3⟩ = true := by decide
  obtain ⟨path, returned, rest⟩ := paths ⟨3⟩ present
  exact ⟨present, path, returned 3 (by decide), rest⟩

end PowerDomainTree

end PowerGovernor
