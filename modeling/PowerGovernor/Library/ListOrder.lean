import Mathlib.Data.List.Nodup
import Mathlib.Data.List.Sort

/-!
The orders of a list of records.

Owns when a list has one order only, when an order of the keys determines that of
the records, and the order that sorting by distinct keys picks out of all of them.
-/

set_option autoImplicit false

namespace ListOrder

variable {α κ : Type} {key : α → κ} {left right : List α}

/-- Lists of the same records are one up to order. -/
theorem perm_of_mem_iff (leftDistinct : (left.map key).Nodup)
    (rightDistinct : (right.map key).Nodup) (same : ∀ a, a ∈ left ↔ a ∈ right) :
    left.Perm right :=
  (List.perm_ext_iff_of_nodup leftDistinct.of_map rightDistinct.of_map).mpr same

/-- Lists of at most one record have one order. -/
theorem eq_of_perm (perm : left.Perm right) (single : right.length ≤ 1) : left = right := by
  match right with
  | [] => exact perm.eq_nil
  | [a] => exact perm.eq_singleton
  | a :: b :: rest => exact absurd single (by simp)

/-- A list has one order only exactly when it has at most one record. -/
theorem forall_perm_eq_iff (distinct : right.Nodup) :
    (∀ order : List α, order.Perm right → order = right) ↔ right.length ≤ 1 := by
  refine ⟨fun one => ?_, fun single order perm => eq_of_perm perm single⟩
  match right with
  | [] => exact Nat.zero_le 1
  | [a] => exact Nat.le_refl 1
  | a :: b :: rest =>
      obtain ⟨rfl, _⟩ := List.cons.inj (one (b :: a :: rest) (List.Perm.swap a b rest))
      exact absurd List.mem_cons_self (List.nodup_cons.mp distinct).1

/-- The order of the keys is the order of the records. -/
theorem eq_of_perm_of_keys (distinct : (right.map key).Nodup) (perm : left.Perm right)
    (keys : left.map key = right.map key) : left = right := by
  apply List.ext_getElem perm.length_eq
  intro i leftBound rightBound
  have sameKey : key left[i] = key right[i] := by
    have place := congrArg (fun ks => ks[i]?) keys
    simpa [leftBound, rightBound] using place
  have member : left[i] ∈ right := perm.mem_iff.mp (List.getElem_mem leftBound)
  exact List.inj_on_of_nodup_map distinct member (List.getElem_mem rightBound) sameKey

/-- Sorting by distinct keys does not depend on the order before. -/
theorem insertionSort_eq_of_perm {le : κ → κ → Prop} [DecidableRel le]
    (total : ∀ a b, le a b ∨ le b a) (trans : ∀ a b c, le a b → le b c → le a c)
    (antisymm : ∀ a b, le a b → le b a → a = b) (distinct : (right.map key).Nodup)
    (perm : left.Perm right) :
    left.insertionSort (fun a b => le (key a) (key b)) =
      right.insertionSort fun a b => le (key a) (key b) := by
  have ordersAll : Std.Total fun a b : α => le (key a) (key b) := ⟨fun a b => total _ _⟩
  have transitive : IsTrans α fun a b => le (key a) (key b) := ⟨fun a b c => trans _ _ _⟩
  have sorted := fun items : List α =>
    List.pairwise_insertionSort (fun a b => le (key a) (key b)) items
  have member : ∀ a, a ∈ left.insertionSort (fun a b => le (key a) (key b)) → a ∈ right :=
    fun a inSorted => perm.mem_iff.mp ((List.mem_insertionSort _).mp inSorted)
  apply List.Perm.eq_of_pairwise _ (sorted left) (sorted right)
  · exact (List.perm_insertionSort _ left).trans (perm.trans (List.perm_insertionSort _ right).symm)
  · intro a b inLeft inRight below above
    have alsoRight := (List.mem_insertionSort _).mp inRight
    exact List.inj_on_of_nodup_map distinct (member a inLeft) alsoRight (antisymm _ _ below above)

end ListOrder
