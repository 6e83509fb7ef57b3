import PowerGovernor.Budget.Capacity

/-!
Availability and reservation.

Owns the agreement of the two walks of a chain: what `available` reports to a decision is
what `reserve` grants, up to its tolerance, and what a granted reservation takes off.
-/

set_option autoImplicit false

namespace PowerGovernor

namespace BudgetManager

variable {m : BudgetManager}

/-- Every budget on the chain of an installed budget is installed. -/
def Rooted (m : BudgetManager) (id : BudgetId) : Prop :=
  ∀ b ∈ m.chain id, ∃ s, m.state? b = some s

theorem rooted_of_ancestors {id : BudgetId}
    (ancestors : ∀ upper, m.InSubtree id upper → m.has upper = true) : m.Rooted id :=
  fun b onChain => has_iff.mp (ancestors b (inSubtree_of_mem_chain onChain))

/-- A chain of installed budgets has an amount available if each of them has it left,
whatever the sign of the amount. -/
theorem le_available_iff_of_rooted {id : BudgetId} (valid : id.isValid = true)
    (rooted : m.Rooted id) {bound : ℚ} :
    bound ≤ (m.available id).value ↔
      ∀ b ∈ m.chain id, ∃ s, m.state? b = some s ∧ bound ≤ s.ownAvailable.value := by
  rcases lt_or_ge 0 bound with positive | nonpos
  · rw [le_available_iff positive]
    exact ⟨And.right, fun each => ⟨each id (mem_chain_self valid), each⟩⟩
  · refine iff_of_true (nonpos.trans (m.available id).nonneg) fun b onChain => ?_
    obtain ⟨s, installed⟩ := rooted b onChain
    exact ⟨s, installed, nonpos.trans s.ownAvailable.nonneg⟩

/-- The capacity check passes for what is available and the tolerance. -/
theorem room_iff_le_available {id : BudgetId} (valid : id.isValid = true) (rooted : m.Rooted id)
    {amount : Watts} :
    (∀ b ∈ m.chain id, ∃ s, m.state? b = some s ∧
      amount.value ≤ s.ownAvailable.value + slack) ↔
      amount.value ≤ (m.available id).value + slack := by
  rw [← sub_le_iff_le_add, le_available_iff_of_rooted valid rooted]
  simp only [sub_le_iff_le_add]

/-- Amounts with the same positive lower bounds are equal. -/
theorem eq_of_positive_bounds {left right : ℚ} (nonnegLeft : 0 ≤ left) (nonnegRight : 0 ≤ right)
    (bounds : ∀ bound, 0 < bound → (bound ≤ left ↔ bound ≤ right)) : left = right := by
  have below : ∀ {x y : ℚ}, 0 ≤ x → 0 ≤ y → (0 < x → x ≤ y) → x ≤ y := by
    intro x y nonneg nonneg' ordered
    rcases nonneg.eq_or_lt with rfl | positive
    · exact nonneg'
    · exact ordered positive
  apply le_antisymm
  · exact below nonnegLeft nonnegRight fun positive => (bounds left positive).mp le_rfl
  · exact below nonnegRight nonnegLeft fun positive => (bounds right positive).mpr le_rfl

/-- A booking takes its amount off what is available, down to nothing. -/
theorem available_adjustChain {id : BudgetId} (valid : id.isValid = true) (rooted : m.Rooted id)
    (nodup : (m.chain id).Nodup) (counter : Counter) (amount : Watts) :
    ((m.adjustChain counter amount.value (m.chain id)).available id).value =
      max 0 ((m.available id).value - amount.value) := by
  have sameChain : (m.adjustChain counter amount.value (m.chain id)).chain id = m.chain id :=
    chain_congr (parentOf_adjustChain _ _ _) id
  have after : ∀ b ∈ m.chain id, ∀ s, m.state? b = some s →
      (m.adjustChain counter amount.value (m.chain id)).state? b =
        some (s.bump counter amount.value) := by
    intro b onChain s installed
    rw [state?_adjustChain_of_mem nodup onChain, installed, Option.map_some]
  have rootedAfter : (m.adjustChain counter amount.value (m.chain id)).Rooted id := by
    intro b onChain
    rw [sameChain] at onChain
    obtain ⟨s, installed⟩ := rooted b onChain
    exact ⟨_, after b onChain s installed⟩
  refine eq_of_positive_bounds (Watts.nonneg _) (le_max_left _ _) fun bound positive => ?_
  rw [le_available_iff_of_rooted valid rootedAfter, sameChain, le_max_iff,
    or_iff_right (not_le.mpr positive), le_sub_iff_add_le,
    le_available_iff_of_rooted valid rooted]
  refine forall₂_congr fun b onChain => ?_
  obtain ⟨s, installed⟩ := rooted b onChain
  rw [after b onChain s installed, installed]
  simp only [Option.some.injEq, exists_eq_left', ownAvailable_bump, le_max_iff,
    or_iff_right (not_le.mpr positive), le_sub_iff_add_le]

/-- The availability that decisions see is the one reservations get: a reservation under
the current generation of an authoritative budget whose ancestors are installed succeeds
for what is available and the tolerance, and takes its amount off. -/
theorem reserve_iff_le_available (m : BudgetManager) (id : BudgetId) (s : BudgetState)
    (valid : id.isValid = true) (installed : m.state? id = some s)
    (authoritative : s.cfg.authoritative = true)
    (ancestors : ∀ upper, m.InSubtree id upper → m.has upper = true) (amount : Watts)
    (rid : ReservationId) :
    ((m.reserve id amount rid s.cfg.generation).2 = true ↔
      amount.value ≤ (m.available id).value + slack) ∧
    ((m.chain id).Nodup → (m.reserve id amount rid s.cfg.generation).2 = true →
      ((m.reserve id amount rid s.cfg.generation).1.available id).value =
        max 0 ((m.available id).value - amount.value)) := by
  have rooted := rooted_of_ancestors ancestors
  unfold reserve
  rcases book_cases .reserved true m id amount s.cfg.generation with
    ⟨refused, unbookable⟩ | ⟨taken, bookable⟩
  · rw [refused]
    refine ⟨iff_of_false nofun fun enough => unbookable ?_, nofun⟩
    exact ⟨⟨s, installed, rfl, fun _ => authoritative⟩,
      (room_iff_le_available valid rooted).mpr enough⟩
  · rw [taken]
    refine ⟨iff_of_true rfl ((room_iff_le_available valid rooted).mp bookable.room), ?_⟩
    exact fun nodup _ => available_adjustChain valid rooted nodup .reserved amount

/-- Ten watts on the accelerator under its node. -/
theorem reserve_iff_le_available_twoLevels :
    ((twoLevels.reserve ⟨2⟩ (Watts.clamped 10) ⟨1⟩ .first).2 = true ↔
      (Watts.clamped 10).value ≤ (twoLevels.available ⟨2⟩).value + slack) ∧
    ((twoLevels.chain ⟨2⟩).Nodup →
      (twoLevels.reserve ⟨2⟩ (Watts.clamped 10) ⟨1⟩ .first).2 = true →
      ((twoLevels.reserve ⟨2⟩ (Watts.clamped 10) ⟨1⟩ .first).1.available ⟨2⟩).value =
        max 0 ((twoLevels.available ⟨2⟩).value - (Watts.clamped 10).value)) := by
  have installed : twoLevels.state? ⟨2⟩ = some ⟨gpuBudget, Watts.zero, Watts.zero⟩ := by
    decide +kernel
  refine reserve_iff_le_available twoLevels ⟨2⟩ _ rfl installed rfl ?_ (Watts.clamped 10) ⟨1⟩
  intro upper above
  rcases above.cases_tail with rfl | ⟨child, _, parent⟩
  · exact has_iff.mpr ⟨_, installed⟩
  · exact (sound_of_reachable twoLevels_reachable).parentsInstalled child upper parent

end BudgetManager

end PowerGovernor
