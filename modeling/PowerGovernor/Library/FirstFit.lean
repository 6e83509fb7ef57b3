import Mathlib.Algebra.BigOperators.Group.List.Basic
import Mathlib.Algebra.Order.BigOperators.Group.List
import Mathlib.Algebra.Order.Group.Defs

/-!
First-fit allocation.

Owns requests that each take one amount from several resources, the demand of a
list of requests, the allocation that grants the requests in turn as far as each
fits beside those granted before it, the rule by which a machine simulates it,
and the case in which everything is granted.
-/

set_option autoImplicit false

/-- What each request takes, and what each resource has. -/
structure FirstFit (I R A : Type) where
  resources : I → List R
  amount : I → A
  limit : R → A

namespace FirstFit

variable {I R A : Type} [DecidableEq R] [AddCommMonoid A] (p : FirstFit I R A)

/-! ## Demand -/

/-- What one request takes from a resource. -/
def share (r : R) (i : I) : A := if r ∈ p.resources i then p.amount i else 0

/-- What a list of requests takes from a resource. -/
def demand (granted : List I) (r : R) : A := (granted.map (p.share r)).sum

@[simp] theorem demand_nil (r : R) : p.demand [] r = 0 := rfl

theorem demand_append (left right : List I) (r : R) :
    p.demand (left ++ right) r = p.demand left r + p.demand right r := by
  unfold demand
  rw [List.map_append, List.sum_append]

theorem demand_append_singleton (granted : List I) (i : I) (r : R) :
    p.demand (granted ++ [i]) r = p.demand granted r + p.share r i := by
  rw [demand_append]
  simp [demand]

theorem demand_cons (i : I) (requests : List I) (r : R) :
    p.demand (i :: requests) r = p.share r i + p.demand requests r := by
  unfold demand
  rw [List.map_cons, List.sum_cons]

/-- Requests for nothing do not count. -/
theorem demand_filter {requests : List I} {kept : I → Bool}
    (idle : ∀ i ∈ requests, kept i = false → p.amount i = 0) (r : R) :
    p.demand (requests.filter kept) r = p.demand requests r := by
  induction requests with
  | nil => rfl
  | cons i rest inductionHypothesis =>
      have others := inductionHypothesis fun other member =>
        idle other (List.mem_cons_of_mem i member)
      rw [List.filter_cons, demand_cons]
      cases taken : kept i with
      | true => rw [if_pos rfl, demand_cons, others]
      | false =>
          have nothing : p.share r i = 0 := by
            unfold share
            rw [idle i List.mem_cons_self taken, ite_self]
          rw [if_neg Bool.false_ne_true, others, nothing, zero_add]

/-! ## Granting in turn -/

variable [LinearOrder A]

/-- Every resource of the request has room for it beside the granted ones. -/
def Fits (granted : List I) (i : I) : Prop :=
  ∀ r ∈ p.resources i, p.demand granted r + p.amount i ≤ p.limit r

instance decidableFits (granted : List I) (i : I) : Decidable (p.Fits granted i) := by
  unfold Fits
  infer_instance

/-- Decide one request. -/
def grantOne (granted : List I) (i : I) : List I :=
  if p.Fits granted i then granted ++ [i] else granted

/-- The requests that are granted, in order. -/
def grant (requests : List I) : List I := requests.foldl p.grantOne []

/-- A machine that keeps up with every single decision, and passes over the
requests that are not eligible, keeps up with them all. -/
theorem simulates {S : Type} {step : S → I → S} {Rel : List I → S → Prop} (eligible : I → Bool)
    {requests : List I} {s : S} (start : Rel [] s)
    (each : ∀ before i after, requests = before ++ i :: after → ∀ s,
      Rel (p.grant (before.filter eligible)) s →
      Rel (p.grant ((before ++ [i]).filter eligible)) (step s i)) :
    Rel (p.grant (requests.filter eligible)) (requests.foldl step s) := by
  have general : ∀ before after s, requests = before ++ after →
      Rel (p.grant (before.filter eligible)) s →
        Rel (p.grant (requests.filter eligible)) (after.foldl step s) := by
    intro before after
    induction after generalizing before with
    | nil =>
        intro s split rel
        rw [split, List.append_nil]
        exact rel
    | cons i rest inductionHypothesis =>
        intro s split rel
        apply inductionHypothesis (before ++ [i])
        · rw [split, List.append_assoc, List.singleton_append]
        · exact each before i rest split s rel
  exact general [] requests s rfl start

/-- One more request is decided, or passed over. -/
theorem grant_filter_append_singleton (eligible : I → Bool) (before : List I) (i : I) :
    p.grant ((before ++ [i]).filter eligible) =
      if eligible i then p.grantOne (p.grant (before.filter eligible)) i
      else p.grant (before.filter eligible) := by
  rw [List.filter_append, List.filter_singleton]
  unfold grant
  rw [List.foldl_append]
  cases eligible i <;> rfl

theorem share_nonneg (nonneg : ∀ i, 0 ≤ p.amount i) (r : R) (i : I) : 0 ≤ p.share r i := by
  unfold share
  split
  · exact nonneg i
  · exact le_refl 0

theorem grant_sublist (requests : List I) : (p.grant requests).Sublist requests := by
  have general : ∀ (rest granted before : List I), granted.Sublist before →
      (rest.foldl p.grantOne granted).Sublist (before ++ rest) := by
    intro rest
    induction rest with
    | nil =>
        intro granted before sub
        rw [List.append_nil]
        exact sub
    | cons i rest inductionHypothesis =>
        intro granted before sub
        have next : (p.grantOne granted i).Sublist (before ++ [i]) := by
          unfold grantOne
          split
          · exact sub.append_right [i]
          · exact sub.trans (List.sublist_append_left before [i])
        have result := inductionHypothesis _ _ next
        rw [List.append_assoc] at result
        exact result
  exact general requests [] [] (List.Sublist.refl [])

/-- What is granted stays within every limit. -/
theorem demand_grant_le {requests : List I} {r : R} (room : 0 ≤ p.limit r) :
    p.demand (p.grant requests) r ≤ p.limit r := by
  have general : ∀ (rest granted : List I), p.demand granted r ≤ p.limit r →
      p.demand (rest.foldl p.grantOne granted) r ≤ p.limit r := by
    intro rest
    induction rest with
    | nil => exact fun _ within => within
    | cons i rest inductionHypothesis =>
        intro granted within
        apply inductionHypothesis
        unfold grantOne
        split
        · rename_i fits
          rw [demand_append_singleton]
          unfold share
          split
          · rename_i member
            exact fits r member
          · rw [add_zero]
            exact within
        · exact within
  exact general requests [] room

variable [IsOrderedAddMonoid A]

theorem demand_nonneg (nonneg : ∀ i, 0 ≤ p.amount i) (granted : List I) (r : R) :
    0 ≤ p.demand granted r := by
  apply List.sum_nonneg
  intro share member
  obtain ⟨i, _, rfl⟩ := List.mem_map.mp member
  exact p.share_nonneg nonneg r i

/-- Fewer requests take less. -/
theorem demand_le_of_sublist (nonneg : ∀ i, 0 ≤ p.amount i) {fewer more : List I}
    (sub : fewer.Sublist more) (r : R) : p.demand fewer r ≤ p.demand more r := by
  induction sub with
  | slnil => exact le_refl _
  | cons i _ inductionHypothesis =>
      rw [demand_cons]
      exact inductionHypothesis.trans (le_add_of_nonneg_left (p.share_nonneg nonneg r i))
  | cons_cons i _ inductionHypothesis =>
      rw [demand_cons, demand_cons]
      exact add_le_add_right inductionHypothesis _

/-- A request that is missing among the fewer is part of the difference. -/
theorem demand_add_share_le (nonneg : ∀ i, 0 ≤ p.amount i) {fewer more : List I}
    (sub : fewer.Sublist more) {i : I} (member : i ∈ more) (missing : i ∉ fewer) (r : R) :
    p.demand fewer r + p.share r i ≤ p.demand more r := by
  induction sub with
  | slnil => cases member
  | cons other rest inductionHypothesis =>
      rw [demand_cons]
      rcases List.mem_cons.mp member with rfl | later
      · rw [add_comm]
        exact add_le_add_right (p.demand_le_of_sublist nonneg rest r) _
      · exact (inductionHypothesis later missing).trans
          (le_add_of_nonneg_left (p.share_nonneg nonneg r other))
  | cons_cons other rest inductionHypothesis =>
      rw [List.mem_cons, not_or] at missing
      rw [demand_cons, demand_cons, add_assoc]
      rcases List.mem_cons.mp member with same | later
      · exact absurd same missing.1
      · exact add_le_add_right (inductionHypothesis later missing.2) _

/-- Requests that fit together are all granted. -/
theorem grant_eq_self (nonneg : ∀ i, 0 ≤ p.amount i) {requests : List I}
    (room : ∀ i ∈ requests, ∀ r ∈ p.resources i, p.demand requests r ≤ p.limit r) :
    p.grant requests = requests := by
  have general : ∀ (rest granted : List I),
      (∀ i ∈ rest, ∀ r ∈ p.resources i, p.demand (granted ++ rest) r ≤ p.limit r) →
      rest.foldl p.grantOne granted = granted ++ rest := by
    intro rest
    induction rest with
    | nil =>
        intro granted _
        exact (List.append_nil granted).symm
    | cons i rest inductionHypothesis =>
        intro granted room
        have regroup : granted ++ i :: rest = granted ++ [i] ++ rest := by simp
        have fits : p.Fits granted i := by
          intro r member
          have within := room i List.mem_cons_self r member
          rw [regroup, demand_append, demand_append_singleton, share, if_pos member] at within
          have others := p.demand_nonneg nonneg rest r
          exact (le_add_of_nonneg_right others).trans within
        rw [List.foldl_cons, grantOne, if_pos fits, regroup]
        apply inductionHypothesis
        rw [← regroup]
        intro other member
        exact room other (List.mem_cons_of_mem i member)
  exact general requests [] room

end FirstFit
