import Mathlib.Algebra.BigOperators.Group.List.Basic
import Mathlib.Algebra.Order.BigOperators.Group.List
import Mathlib.Data.List.Nodup
import Mathlib.Tactic.Abel

/-!
Finite stores of records that carry their own key.

Owns the store, its lookup, insertion of a fresh record, in-place update and removal
of the record under a key, and sums over all records. The order of the entries is the
order in which the store is iterated; no lookup depends on it.
-/

set_option autoImplicit false

/-- A store of records with pairwise distinct keys. -/
structure Keyed {K V : Type} (key : V → K) where
  entries : List V
  distinct : (entries.map key).Nodup

namespace Keyed

variable {K V : Type} {key : V → K}

@[ext] theorem ext {left right : Keyed key} (same : left.entries = right.entries) :
    left = right := by
  cases left
  cases right
  simp_all

instance [DecidableEq V] : DecidableEq (Keyed key) := fun left right =>
  decidable_of_iff (left.entries = right.entries) Keyed.ext_iff.symm

def empty : Keyed key := ⟨[], List.nodup_nil⟩

def size (store : Keyed key) : Nat := store.entries.length

/-- The sum of a weight over all records. -/
def total {A : Type} [AddCommMonoid A] (store : Keyed key) (weight : V → A) : A :=
  (store.entries.map weight).sum

@[simp] theorem total_empty {A : Type} [AddCommMonoid A] (weight : V → A) :
    (empty : Keyed key).total weight = 0 := rfl

theorem total_congr {A : Type} [AddCommMonoid A] {store : Keyed key} {left right : V → A}
    (same : ∀ v ∈ store.entries, left v = right v) : store.total left = store.total right := by
  rw [total, total, List.map_congr_left same]

variable [DecidableEq K]

def find? (store : Keyed key) (k : K) : Option V :=
  store.entries.find? fun v => key v = k

def contains (store : Keyed key) (k : K) : Bool := (store.find? k).isSome

@[simp] theorem find?_empty (k : K) : (empty : Keyed key).find? k = none := rfl

theorem key_of_find? {store : Keyed key} {k : K} {v : V} (found : store.find? k = some v) :
    key v = k := by
  simpa using List.find?_some found

theorem mem_of_find? {store : Keyed key} {k : K} {v : V} (found : store.find? k = some v) :
    v ∈ store.entries :=
  List.mem_of_find?_eq_some found

/-- A record is the one found under its own key. -/
theorem find?_of_mem {store : Keyed key} {v : V} (member : v ∈ store.entries) :
    store.find? (key v) = some v := by
  cases found : store.find? (key v) with
  | none =>
      have absent := List.find?_eq_none.mp found v member
      simp at absent
  | some other =>
      have same := List.inj_on_of_nodup_map store.distinct (mem_of_find? found) member
        (key_of_find? found)
      rw [same]

theorem find?_eq_none_iff {store : Keyed key} {k : K} :
    store.find? k = none ↔ ∀ v ∈ store.entries, key v ≠ k := by
  simp [find?, List.find?_eq_none]

/-! ## Insertion of a fresh record -/

private theorem distinct_append {store : Keyed key} {v : V} (fresh : store.find? (key v) = none) :
    ((store.entries ++ [v]).map key).Nodup := by
  rw [List.map_append, List.nodup_append]
  refine ⟨store.distinct, by simp, ?_⟩
  intro left leftMember right rightMember same
  obtain ⟨other, otherMember, rfl⟩ := List.mem_map.mp leftMember
  obtain rfl : right = key v := by simpa using rightMember
  exact find?_eq_none_iff.mp fresh other otherMember same

/-- Insert a record unless its key is taken. -/
def emplace (store : Keyed key) (v : V) : Keyed key :=
  if fresh : store.find? (key v) = none then ⟨store.entries ++ [v], distinct_append fresh⟩
  else store

theorem emplace_of_taken {store : Keyed key} {v : V} (taken : store.find? (key v) ≠ none) :
    store.emplace v = store :=
  dif_neg taken

theorem entries_emplace {store : Keyed key} {v : V} (fresh : store.find? (key v) = none) :
    (store.emplace v).entries = store.entries ++ [v] := by
  rw [emplace, dif_pos fresh]

theorem find?_emplace {store : Keyed key} {v : V} (fresh : store.find? (key v) = none) (k : K) :
    (store.emplace v).find? k = if k = key v then some v else store.find? k := by
  rw [find?, entries_emplace fresh, List.find?_append]
  by_cases same : k = key v
  · subst same
    have absent : store.entries.find? (fun other => key other = key v) = none := fresh
    simp [absent]
  · rw [if_neg same]
    simp [find?, Ne.symm same]

theorem forall_emplace {store : Keyed key} {v : V} {P : V → Prop}
    (all : ∀ u ∈ store.entries, P u) (new : P v) : ∀ u ∈ (store.emplace v).entries, P u := by
  intro u member
  unfold emplace at member
  split at member
  · rcases List.mem_append.mp member with old | added
    · exact all u old
    · rw [List.mem_singleton.mp added]
      exact new
  · exact all u member

/-- Records with new and pairwise distinct keys. -/
def Fresh (store : Keyed key) (added : List V) : Prop :=
  (added.map key).Nodup ∧ ∀ v ∈ added, store.find? (key v) = none

theorem fresh_empty {added : List V} (distinct : (added.map key).Nodup) :
    (empty : Keyed key).Fresh added := ⟨distinct, fun _ _ => rfl⟩

theorem Fresh.head {store : Keyed key} {v : V} {rest : List V}
    (fresh : store.Fresh (v :: rest)) : store.find? (key v) = none :=
  fresh.2 v List.mem_cons_self

theorem Fresh.tail {store : Keyed key} {v : V} {rest : List V}
    (fresh : store.Fresh (v :: rest)) : (store.emplace v).Fresh rest := by
  obtain ⟨new, distinct⟩ := List.nodup_cons.mp fresh.1
  refine ⟨distinct, fun other member => ?_⟩
  rw [find?_emplace fresh.head, if_neg]
  · exact fresh.2 other (List.mem_cons_of_mem v member)
  · intro same
    exact new (same ▸ List.mem_map_of_mem member)

/-- A new record, and records that are new beside it. -/
theorem Fresh.cons {store : Keyed key} {v : V} {rest : List V}
    (free : store.find? (key v) = none) (fresh : (store.emplace v).Fresh rest) :
    store.Fresh (v :: rest) := by
  have others : ∀ other ∈ rest, key other ≠ key v ∧ store.find? (key other) = none := by
    intro other member
    have absent := fresh.2 other member
    rw [find?_emplace free] at absent
    split at absent
    · cases absent
    · rename_i different
      exact ⟨different, absent⟩
  constructor
  · apply List.nodup_cons.mpr
    refine ⟨fun member => ?_, fresh.1⟩
    obtain ⟨other, present, same⟩ := List.mem_map.mp member
    exact (others other present).1 same
  · intro other member
    rcases List.mem_cons.mp member with rfl | later
    · exact free
    · exact (others other later).2

theorem entries_foldl_emplace {store : Keyed key} {added : List V} (fresh : store.Fresh added) :
    (added.foldl emplace store).entries = store.entries ++ added := by
  induction added generalizing store with
  | nil => exact (List.append_nil _).symm
  | cons v rest inductionHypothesis =>
      rw [List.foldl_cons, inductionHypothesis fresh.tail, entries_emplace fresh.head]
      exact List.append_assoc _ [v] rest

/-- A store of the images finds the image of what the original finds. -/
theorem find?_of_perm_map {W : Type} {key' : W → K} {store : Keyed key} {image : Keyed key'}
    (f : V → W) (keeps : ∀ v, key' (f v) = key v)
    (same : image.entries.Perm (store.entries.map f)) (k : K) :
    image.find? k = (store.find? k).map f := by
  cases found : store.find? k with
  | some v =>
      have member : f v ∈ image.entries :=
        same.mem_iff.mpr (List.mem_map_of_mem (mem_of_find? found))
      have imageFound := find?_of_mem member
      rw [keeps, key_of_find? found] at imageFound
      exact imageFound
  | none =>
      apply find?_eq_none_iff.mpr
      intro w member
      obtain ⟨v, original, rfl⟩ := List.mem_map.mp (same.mem_iff.mp member)
      rw [keeps]
      exact find?_eq_none_iff.mp found v original

/-! ## In-place update -/

private theorem map_key_update (entries : List V) (k : K) (f : V → V)
    (keeps : ∀ v, key v = k → key (f v) = k) :
    (entries.map fun v => if key v = k then f v else v).map key = entries.map key := by
  rw [List.map_map]
  refine List.map_congr_left fun v _ => ?_
  by_cases same : key v = k
  · simp [same, keeps v same]
  · simp [same]

/-- Update the record under `k`, if there is one, keeping its key. -/
def modify (store : Keyed key) (k : K) (f : V → V) (keeps : ∀ v, key v = k → key (f v) = k) :
    Keyed key where
  entries := store.entries.map fun v => if key v = k then f v else v
  distinct := by
    rw [map_key_update store.entries k f keeps]
    exact store.distinct

private theorem find?_map_update (entries : List V) (k : K) (f : V → V)
    (keeps : ∀ v, key v = k → key (f v) = k) (other : K) :
    (entries.map fun v => if key v = k then f v else v).find? (fun v => key v = other) =
      if other = k then (entries.find? fun v => key v = k).map f
      else entries.find? fun v => key v = other := by
  induction entries with
  | nil => simp
  | cons head tail inductionHypothesis =>
      simp only [List.map_cons, List.find?_cons, inductionHypothesis]
      by_cases headKey : key head = k
      · have kept := keeps head headKey
        by_cases same : other = k
        · subst same
          simp [headKey, kept]
        · simp [headKey, kept, same, Ne.symm same]
      · by_cases same : other = k
        · subst same
          simp [headKey]
        · simp [headKey, same]

section Modify

variable {store : Keyed key} {k : K} {f : V → V} {keeps : ∀ v, key v = k → key (f v) = k}

/-- An update keeps the keys. -/
theorem keys_modify : (store.modify k f keeps).entries.map key = store.entries.map key :=
  map_key_update store.entries k f keeps

theorem find?_modify (other : K) :
    (store.modify k f keeps).find? other =
      if other = k then (store.find? k).map f else store.find? other :=
  find?_map_update store.entries k f keeps other

theorem find?_modify_self : (store.modify k f keeps).find? k = (store.find? k).map f := by
  rw [find?_modify, if_pos rfl]

theorem find?_modify_other {other : K} (different : other ≠ k) :
    (store.modify k f keeps).find? other = store.find? other := by
  rw [find?_modify, if_neg different]

/-- Updates that agree on the record there is are the same. -/
theorem modify_congr {g : V → V} {keeps' : ∀ v, key v = k → key (g v) = k}
    (same : ∀ v, store.find? k = some v → f v = g v) :
    store.modify k f keeps = store.modify k g keeps' := by
  apply Keyed.ext
  refine List.map_congr_left fun v member => ?_
  by_cases own : key v = k
  · rw [if_pos own, if_pos own]
    exact same v (own ▸ find?_of_mem member)
  · rw [if_neg own, if_neg own]

/-- A property of all records survives an update that re-establishes it. -/
theorem forall_modify {P : V → Prop} (all : ∀ v ∈ store.entries, P v)
    (updated : ∀ v ∈ store.entries, key v = k → P (f v)) :
    ∀ v ∈ (store.modify k f keeps).entries, P v := by
  intro v member
  obtain ⟨old, oldMember, rfl⟩ := List.mem_map.mp member
  by_cases same : key old = k
  · rw [if_pos same]
    exact updated old oldMember same
  · rw [if_neg same]
    exact all old oldMember

end Modify

/-! ## Assignment -/

/-- Write a record under its own key, whether or not the key is taken. -/
def assign (store : Keyed key) (v : V) : Keyed key :=
  (store.modify (key v) (fun _ => v) fun _ _ => rfl).emplace v

theorem find?_assign (store : Keyed key) (v : V) (k : K) :
    (store.assign v).find? k = if k = key v then some v else store.find? k := by
  unfold assign
  cases found : store.find? (key v) with
  | none =>
      have fresh : (store.modify (key v) (fun _ => v) fun _ _ => rfl).find? (key v) = none := by
        rw [find?_modify_self, found, Option.map_none]
      rw [find?_emplace fresh]
      split
      · rfl
      · rename_i different
        exact find?_modify_other different
  | some old =>
      have taken : (store.modify (key v) (fun _ => v) fun _ _ => rfl).find? (key v) = some v := by
        rw [find?_modify_self, found, Option.map_some]
      rw [emplace_of_taken (by rw [taken]; nofun)]
      split
      · rename_i same
        rw [same, taken]
      · rename_i different
        exact find?_modify_other different

/-- Writing under a taken key keeps the order of the keys. -/
theorem keys_assign {store : Keyed key} {v : V} (taken : store.find? (key v) ≠ none) :
    (store.assign v).entries.map key = store.entries.map key := by
  have kept : (store.modify (key v) (fun _ => v) fun _ _ => rfl).find? (key v) ≠ none := by
    rw [find?_modify_self]
    simpa using taken
  rw [assign, emplace_of_taken kept]
  exact map_key_update store.entries (key v) (fun _ => v) fun _ _ => rfl

/-- Stores with the same keys in the same order and the same records are equal. -/
theorem eq_of_keys {left right : Keyed key}
    (keys : left.entries.map key = right.entries.map key)
    (records : ∀ k, left.find? k = right.find? k) : left = right := by
  have length : left.entries.length = right.entries.length := by
    simpa using congrArg List.length keys
  apply Keyed.ext
  apply List.ext_getElem length
  intro i leftBound rightBound
  have sameKey : key left.entries[i] = key right.entries[i] := by
    have at_ := congrArg (fun ks => ks[i]?) keys
    simpa [leftBound, rightBound] using at_
  have leftFound : left.find? (key left.entries[i]) = some left.entries[i] :=
    find?_of_mem (List.getElem_mem leftBound)
  have rightFound : right.find? (key right.entries[i]) = some right.entries[i] :=
    find?_of_mem (List.getElem_mem rightBound)
  rw [records, sameKey, rightFound] at leftFound
  exact (Option.some.inj leftFound).symm

/-- Writing under a free key inserts. -/
theorem assign_of_free {store : Keyed key} {v : V} (free : store.find? (key v) = none) :
    store.assign v = store.emplace v := by
  have kept : store.modify (key v) (fun _ => v) (fun _ _ => rfl) = store := by
    apply Keyed.ext
    refine (List.map_congr_left fun u member => ?_).trans (List.map_id store.entries)
    exact if_neg (find?_eq_none_iff.mp free u member)
  rw [assign, kept]

theorem entries_foldl_assign {store : Keyed key} {added : List V} (fresh : store.Fresh added) :
    (added.foldl assign store).entries = store.entries ++ added := by
  induction added generalizing store with
  | nil => exact (List.append_nil _).symm
  | cons v rest inductionHypothesis =>
      rw [List.foldl_cons, assign_of_free fresh.head, inductionHypothesis fresh.tail,
        entries_emplace fresh.head]
      exact List.append_assoc _ [v] rest

/-- The last of the written records under a key wins. -/
theorem find?_foldl_assign (store : Keyed key) (written : List V) (k : K) :
    (written.foldl assign store).find? k =
      (written.reverse.find? fun v => key v = k).or (store.find? k) := by
  induction written generalizing store with
  | nil => rfl
  | cons v rest inductionHypothesis =>
      rw [List.foldl_cons, inductionHypothesis, find?_assign, List.reverse_cons, List.find?_append,
        Option.or_assoc]
      congr 1
      by_cases same : k = key v
      · simp [same]
      · simp [same, Ne.symm same]

theorem keys_foldl_assign {store : Keyed key} {written : List V}
    (taken : ∀ v ∈ written, store.find? (key v) ≠ none) :
    (written.foldl assign store).entries.map key = store.entries.map key := by
  induction written generalizing store with
  | nil => rfl
  | cons v rest inductionHypothesis =>
      have first := taken v List.mem_cons_self
      rw [List.foldl_cons, inductionHypothesis, keys_assign first]
      intro other member
      rw [find?_assign]
      split
      · nofun
      · exact taken other (List.mem_cons_of_mem _ member)

/-- Writing records changes nothing exactly when the last one under each key is
the one already stored. -/
theorem foldl_assign_eq_self_iff (store : Keyed key) (written : List V) :
    written.foldl assign store = store ↔
      ∀ k v, (written.reverse.find? fun u => key u = k) = some v → store.find? k = some v := by
  constructor
  · intro same k v last
    have found := find?_foldl_assign store written k
    rw [same, last, Option.some_or] at found
    exact found
  · intro stored
    apply eq_of_keys
    · apply keys_foldl_assign
      intro v member
      cases last : written.reverse.find? fun u => key u = key v with
      | none =>
          have absent := List.find?_eq_none.mp last v (List.mem_reverse.mpr member)
          simp at absent
      | some u =>
          rw [stored _ u last]
          nofun
    · intro k
      rw [find?_foldl_assign]
      cases last : written.reverse.find? fun u => key u = k with
      | none => rfl
      | some v => rw [stored k v last, Option.some_or]

/-! ## Removal -/

/-- Drop the record under a key, if there is one. -/
def erase (store : Keyed key) (k : K) : Keyed key where
  entries := store.entries.filter fun v => key v ≠ k
  distinct := store.distinct.sublist (List.filter_sublist.map key)

theorem find?_erase (store : Keyed key) (k other : K) :
    (store.erase k).find? other = if other = k then none else store.find? other := by
  split
  · rename_i same
    refine find?_eq_none_iff.mpr fun v member => ?_
    rw [same]
    exact of_decide_eq_true (List.mem_filter.mp member).2
  · rename_i different
    cases found : store.find? other with
    | none =>
        refine find?_eq_none_iff.mpr fun v member => ?_
        exact find?_eq_none_iff.mp found v (List.mem_filter.mp member).1
    | some v =>
        have keyed := key_of_find? found
        have kept : v ∈ (store.erase k).entries := by
          refine List.mem_filter.mpr ⟨mem_of_find? found, ?_⟩
          rw [keyed]
          exact decide_eq_true different
        rw [← keyed]
        exact find?_of_mem kept

/-- Dropping under a free key changes nothing. -/
theorem erase_of_free {store : Keyed key} {k : K} (free : store.find? k = none) :
    store.erase k = store := by
  apply Keyed.ext
  refine List.filter_eq_self.mpr fun v member => ?_
  exact decide_eq_true (find?_eq_none_iff.mp free v member)

/-- Stores that find the same records hold the same number. -/
theorem size_eq_of_find? {left right : Keyed key}
    (records : ∀ k, left.find? k = right.find? k) : left.size = right.size := by
  have apart : ∀ store : Keyed key, store.entries.Nodup := fun store => store.distinct.of_map key
  refine ((List.perm_ext_iff_of_nodup (apart left) (apart right)).mpr fun v => ?_).length_eq
  constructor
  · intro member
    exact mem_of_find? ((records (key v)).symm.trans (find?_of_mem member))
  · intro member
    exact mem_of_find? ((records (key v)).trans (find?_of_mem member))

/-! ## Sums over the records -/

theorem total_emplace {A : Type} [AddCommMonoid A] {store : Keyed key} {v : V}
    (fresh : store.find? (key v) = none) (weight : V → A) :
    (store.emplace v).total weight = store.total weight + weight v := by
  simp [total, entries_emplace fresh]

private theorem sum_update {A : Type} [AddCommGroup A] (entries : List V)
    (distinct : (entries.map key).Nodup) {k : K} (f : V → V) {v : V} (member : v ∈ entries)
    (keyed : key v = k) (weight : V → A) :
    ((entries.map fun u => if key u = k then f u else u).map weight).sum =
      (entries.map weight).sum + (weight (f v) - weight v) := by
  induction entries with
  | nil => simp at member
  | cons head tail inductionHypothesis =>
      simp only [List.map_cons, List.nodup_cons] at distinct
      by_cases headKey : key head = k
      · have unchanged : (tail.map fun u => if key u = k then f u else u) = tail := by
          refine (List.map_congr_left fun u member => ?_).trans (List.map_id tail)
          have different : key u ≠ k := by
            intro same
            refine distinct.1 (List.mem_map.mpr ⟨u, member, ?_⟩)
            rw [same, headKey]
          rw [if_neg different, id]
        have isHead : v = head := by
          rcases List.mem_cons.mp member with same | inTail
          · exact same
          · refine absurd (List.mem_map.mpr ⟨v, inTail, ?_⟩) distinct.1
            rw [keyed, headKey]
        subst isHead
        simp only [List.map_cons, if_pos headKey, List.sum_cons, unchanged]
        abel
      · have inTail : v ∈ tail := by
          rcases List.mem_cons.mp member with same | inTail
          · exact absurd (same ▸ keyed) headKey
          · exact inTail
        simp only [List.map_cons, if_neg headKey, List.sum_cons,
          inductionHypothesis distinct.2 inTail]
        abel

/-- Updating one record changes a sum by the change of its own weight. -/
theorem total_modify {A : Type} [AddCommGroup A] {store : Keyed key} {k : K} {f : V → V}
    {keeps : ∀ v, key v = k → key (f v) = k} {v : V} (found : store.find? k = some v)
    (weight : V → A) :
    (store.modify k f keeps).total weight = store.total weight + (weight (f v) - weight v) :=
  sum_update store.entries store.distinct f (mem_of_find? found) (key_of_find? found) weight

/-- Writing a record changes a sum by its weight, less that of the record it replaces. -/
theorem total_assign {A : Type} [AddCommGroup A] (store : Keyed key) (v : V) (weight : V → A) :
    (store.assign v).total weight =
      store.total weight + (weight v - ((store.find? (key v)).map weight).getD 0) := by
  cases found : store.find? (key v) with
  | none =>
      rw [assign_of_free found, total_emplace found, Option.map_none, Option.getD_none, sub_zero]
  | some old =>
      have taken : (store.modify (key v) (fun _ => v) fun _ _ => rfl).find? (key v) ≠ none := by
        rw [find?_modify_self, found]
        nofun
      rw [assign, emplace_of_taken taken, total_modify found]
      rfl

/-- One record's weight is at most the sum of non-negative weights. -/
theorem weight_le_total {A : Type} [AddCommMonoid A] [PartialOrder A] [IsOrderedAddMonoid A]
    {store : Keyed key} {k : K} {v : V} (found : store.find? k = some v) {weight : V → A}
    (nonneg : ∀ u, 0 ≤ weight u) : weight v ≤ store.total weight := by
  refine List.single_le_sum ?_ _ (List.mem_map_of_mem (mem_of_find? found))
  intro x member
  obtain ⟨u, _, rfl⟩ := List.mem_map.mp member
  exact nonneg u

/-- The non-negative weights of the records under different keys are part of the sum. -/
theorem sum_weights_le_total {A : Type} [AddCommMonoid A] [PartialOrder A] [IsOrderedAddMonoid A]
    (store : Keyed key) {weight : V → A} (nonneg : ∀ u, 0 ≤ weight u) {keys : List K}
    (distinct : keys.Nodup) :
    (keys.map fun k => ((store.find? k).map weight).getD 0).sum ≤ store.total weight := by
  have found : (keys.map fun k => ((store.find? k).map weight).getD 0).sum =
      ((keys.filterMap store.find?).map weight).sum := by
    clear distinct
    induction keys with
    | nil => rfl
    | cons k rest inductionHypothesis =>
        rw [List.map_cons, List.sum_cons, inductionHypothesis, List.filterMap_cons]
        cases store.find? k with
        | none => exact zero_add _
        | some v => rfl
  have apart : (keys.filterMap store.find?).Nodup := by
    refine distinct.filterMap fun k k' v here here' => ?_
    exact (key_of_find? here).symm.trans (key_of_find? here')
  have among : keys.filterMap store.find? ⊆ store.entries := by
    intro v member
    obtain ⟨k, _, here⟩ := List.mem_filterMap.mp member
    exact mem_of_find? here
  obtain ⟨same, perm, part⟩ := List.subperm_of_subset apart among
  rw [found, ← (perm.map weight).sum_eq]
  refine (part.map weight).sum_le_sum ?_
  intro x member
  obtain ⟨u, _, rfl⟩ := List.mem_map.mp member
  exact nonneg u

end Keyed
