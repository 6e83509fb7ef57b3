import Mathlib.Data.List.Count
import Mathlib.Data.List.Nodup
import Mathlib.Logic.Function.Basic

/-!
Lists of items sorted into buckets by a label.

Owns the relation between the buckets and a partial labelling: each item
that has a label lies once in the bucket of its label and in no other.
Owns also the two moves that keep it, adding an item to a bucket and taking one out,
and the buckets of a list of records, which hold the keys of the records of one label
in the order of the list.
-/

set_option autoImplicit false

namespace Buckets

variable {K Item : Type} [DecidableEq K] [DecidableEq Item]

/-- Each item lies once in the bucket of its label and in no other bucket. -/
def Sorts (buckets : K → List Item) (label : Item → Option K) : Prop :=
  ∀ k item, (buckets k).count item = if label item = some k then 1 else 0

variable {buckets : K → List Item} {label : Item → Option K} {k : K} {item : Item}

theorem sorts_empty : Sorts (fun _ : K => ([] : List Item)) fun _ => none := by
  intro k item
  rfl

/-- An item without a label is added to a bucket. -/
theorem Sorts.push (sorts : Sorts buckets label) (absent : label item = none) (k : K) :
    Sorts (Function.update buckets k (buckets k ++ [item]))
      (Function.update label item (some k)) := by
  intro other member
  have before := sorts other member
  by_cases here : other = k
  · subst here
    rw [Function.update_self, List.count_append, before]
    by_cases same : member = item
    · subst same
      simp [absent]
    · simp [Function.update_of_ne same, Ne.symm same]
  · rw [Function.update_of_ne here, before]
    by_cases same : member = item
    · subst same
      simp [absent, Ne.symm here]
    · rw [Function.update_of_ne same]

/-- An item is taken out of its bucket. -/
theorem Sorts.erase (sorts : Sorts buckets label) (present : label item = some k) :
    Sorts (Function.update buckets k ((buckets k).erase item))
      (Function.update label item none) := by
  intro other member
  have before := sorts other member
  by_cases same : member = item
  · subst same
    rw [Function.update_self, if_neg nofun]
    by_cases here : other = k
    · subst here
      rw [Function.update_self, List.count_erase_self, before, if_pos present]
    · rw [Function.update_of_ne here, before, present, if_neg]
      exact fun equal => here (Option.some.inj equal).symm
  · rw [Function.update_of_ne same]
    by_cases here : other = k
    · subst here
      rw [Function.update_self, List.count_erase_of_ne same, before]
    · rw [Function.update_of_ne here, before]

/-- An item moves to another bucket. -/
theorem Sorts.move (sorts : Sorts buckets label) (present : label item = some k) (k' : K) :
    let erased := Function.update buckets k ((buckets k).erase item)
    Sorts (Function.update erased k' (erased k' ++ [item]))
      (Function.update label item (some k')) := by
  have moved := (sorts.erase present).push (Function.update_self ..) k'
  rwa [Function.update_idem] at moved

/-! ## The order inside the buckets -/

section Lists

variable {V : Type} {key : V → Item} {label : V → K} {buckets : K → List Item} {records : List V}
  {v : V}

/-- Each bucket holds the keys of the records of its label, in the order of the records. -/
def Lists (buckets : K → List Item) (key : V → Item) (label : V → K) (records : List V) : Prop :=
  ∀ k, buckets k = (records.filter fun v => label v = k).map key

omit [DecidableEq Item] in
theorem lists_nil : Lists (fun _ : K => ([] : List Item)) key label [] := by
  intro k
  rfl

omit [DecidableEq Item] in
/-- A record is added at the end of the list and its key at the end of its bucket. -/
theorem Lists.push (lists : Lists buckets key label records) (v : V) :
    Lists (Function.update buckets (label v) (buckets (label v) ++ [key v])) key label
      (records ++ [v]) := by
  intro k
  rw [List.filter_append, List.map_append, ← lists k]
  by_cases here : label v = k
  · subst here
    rw [Function.update_self, List.filter_cons_of_pos (by simp)]
    rfl
  · rw [Function.update_of_ne (Ne.symm here), List.filter_cons_of_neg (by simpa using here)]
    exact (List.append_nil _).symm

/-- The record under a key leaves the list and the key leaves its bucket. -/
theorem Lists.erase (lists : Lists buckets key label records) (distinct : (records.map key).Nodup)
    (member : v ∈ records) :
    Lists (Function.update buckets (label v) ((buckets (label v)).erase (key v))) key label
      (records.filter fun u => key u ≠ key v) := by
  intro k
  have left : (records.filter fun u => key u ≠ key v).filter (fun u => label u = k) =
      (records.filter fun u => label u = k).filter fun u => key u ≠ key v := by
    rw [List.filter_filter, List.filter_filter]
    exact List.filter_congr fun u _ => Bool.and_comm ..
  rw [left]
  by_cases here : label v = k
  · subst here
    have once : ((records.filter fun u => label u = label v).map key).Nodup :=
      distinct.sublist (List.filter_sublist.map key)
    rw [Function.update_self, lists, once.erase_eq_filter, List.filter_map]
    congr 1
    refine List.filter_congr fun u _ => ?_
    rw [Function.comp_apply, decide_not]
    rfl
  · rw [Function.update_of_ne (Ne.symm here), lists]
    congr 1
    refine (List.filter_eq_self.mpr fun u listed => ?_).symm
    obtain ⟨present, labelled⟩ := List.mem_filter.mp listed
    have apart : key u ≠ key v := by
      intro same
      have equal := List.inj_on_of_nodup_map distinct present member same
      rw [equal] at labelled
      exact here (of_decide_eq_true labelled)
    exact decide_eq_true apart

end Lists

end Buckets
