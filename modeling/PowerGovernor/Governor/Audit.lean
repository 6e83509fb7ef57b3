import PowerGovernor.Governor.State

/-!
The consistency checks of a Governor.

Owns the leak audit of the reservations, the check that combines it with the one of the
budgets, and what the audit is true of.
-/

set_option autoImplicit false

namespace PowerGovernor

namespace ReservationManager

/-- The loop of `audit_no_leaks`. -/
def auditLoop (now : Timestamp) : List Reservation → Except Fault Bool
  | [] => .ok true
  | r :: rest =>
    if r.state = .released ∨ r.state = .expired then auditLoop now rest
    else if r.created.isZero then auditLoop now rest
    else do
      let age ← now.elapsedSince r.created
      -- Expired but not released.
      if r.validity.ns < age.ns then return false else auditLoop now rest

/-- `audit_no_leaks` is `noexcept`. -/
def auditNoLeaks (rm : ReservationManager) (now : Timestamp) : Except Fault Bool :=
  noexcept (auditLoop now rm.map.entries)

/-- The audit passes a reservation that has ended or has not expired. -/
theorem auditLoop_eq_true_iff {now : Timestamp} {reservations : List Reservation} :
    auditLoop now reservations = .ok true ↔ ∀ r ∈ reservations,
      r.state = .released ∨ r.state = .expired ∨ r.expired now = .ok false := by
  induction reservations with
  | nil => exact ⟨fun _ _ member => (nomatch member), fun _ => rfl⟩
  | cons r rest inductionHypothesis =>
      rw [List.forall_mem_cons, ← inductionHypothesis]
      rw [auditLoop]
      unfold Reservation.expired
      by_cases ended : r.state = .released ∨ r.state = .expired
      · rw [if_pos ended]
        exact ⟨fun passed => ⟨or_assoc.mp (.inl ended), passed⟩, fun both => both.2⟩
      · rw [if_neg ended]
        by_cases unset : r.created.isZero = true
        · rw [if_pos unset, if_pos unset]
          exact ⟨fun passed => ⟨.inr (.inr rfl), passed⟩, fun both => both.2⟩
        · rw [if_neg unset, if_neg unset, ← or_assoc, or_iff_right ended]
          cases now.elapsedSince r.created with
          | error fault => cases fault <;> simp [noexcept, bind, Except.bind]
          | ok age =>
              simp only [noexcept, bind, Except.bind, pure, Except.pure]
              by_cases late : r.validity.ns < age.ns
              · simp [late]
              · simp [late]

end ReservationManager

/-- `accounting_consistent` of a Governor, at the time of its clock. -/
def Governor.accountingConsistent (g : Governor) (now : Timestamp) : Except Fault Bool :=
  if g.budgets.accountingConsistent then g.reservations.auditNoLeaks now else .ok false

end PowerGovernor
