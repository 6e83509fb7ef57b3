import PowerGovernor.Budget.Forest
import PowerGovernor.Reservation.Ledger

/-!
Reservations over budgets that are installed along the way.

Owns the invariant that what the reservations hold is booked on their chains and within
the maxima, and that every lifecycle call and every install of a fresh budget keep it.

Does not own re-issues. What a lapsed reservation leaves booked is not given back, so the
books may say more than what is held, never less.
-/

set_option autoImplicit false

namespace PowerGovernor

/-- What is held is reserved on the whole chain, and no budget is booked beyond its maximum
and one tolerance for each call. -/
structure Books.Committed (s : Books) (calls : Nat) : Prop where
  sound : s.budgets.Sound calls
  regular : ∀ r ∈ s.reservations.map.entries, r.Regular
  installed : ∀ r ∈ s.reservations.map.entries, r.state.holds = true →
    s.budgets.has r.budget = true
  covered : ∀ b amount, s.budgets.amount? .reserved b = some amount →
    s.outstanding .reserved b ≤ amount.value

/-- A call books at most once. -/
theorem Effect.sound {s s' : Books} {call : ReservationCall} (effect : Effect s call s')
    {calls : Nat} (sound : s.budgets.Sound calls) : s'.budgets.Sound (calls + 1) := by
  cases effect with
  | idle _ budgets =>
      rw [budgets]
      exact sound.mono (Nat.le_succ calls)
  | plan | quiet | lapse => exact sound.mono (Nat.le_succ calls)
  | reserve reserves => exact BudgetManager.sound_book sound .reserved reserves.bookable
  | activate activates =>
      obtain ⟨gen, bookable⟩ := activates.bookable
      exact BudgetManager.sound_book sound .used bookable
  | @release r gen now releases =>
      have first : (s.unreserved r).Sound calls :=
        BudgetManager.sound_unbook sound .reserved r.budget r.reservedPower
      show (s.returned r gen).Sound (calls + 1)
      rcases s.returned_cases r gen with ⟨once, _⟩ | ⟨twice, _⟩
      · rw [once]
        exact first.mono (Nat.le_succ calls)
      · rw [twice, ← s.chain_unreserved r]
        exact (BudgetManager.sound_unbook first .used r.budget r.reservedPower).mono
          (Nat.le_succ calls)

namespace Books.Committed

variable {s : Books} {calls : Nat}

theorem mono (committed : s.Committed calls) {more : Nat} (le : calls ≤ more) :
    s.Committed more :=
  ⟨committed.sound.mono le, committed.regular, committed.installed, committed.covered⟩

theorem of_same (committed : s.Committed calls) {s' : Books}
    (reservations : s'.reservations = s.reservations) (budgets : s'.budgets = s.budgets) :
    s'.Committed calls := by
  obtain ⟨sound, regular, installed, covered⟩ := committed
  refine ⟨budgets ▸ sound, reservations ▸ regular, ?_, ?_⟩
  · rw [reservations, budgets]
    exact installed
  · simp only [Books.outstanding, reservations, budgets]
    exact covered

/-- The books before anything is installed or planned. -/
theorem empty (ids : Allocators) : (⟨.empty, .empty, ids⟩ : Books).Committed 0 where
  sound := BudgetManager.sound_empty
  regular := fun _ member => absurd member List.not_mem_nil
  installed := fun _ member => absurd member List.not_mem_nil
  covered := fun _ _ counted => by cases counted

/-- The power of a reservation that holds is on every budget of its chain. -/
theorem reservedPower_le (committed : s.Committed calls) {r : Reservation}
    (found : s.reservations.find? r.id = some r) (holds : r.state.holds = true)
    {b : BudgetId} (onChain : b ∈ s.budgets.chain r.budget) {amount : Watts}
    (counted : s.budgets.amount? .reserved b = some amount) :
    r.reservedPower.value ≤ amount.value := by
  have counts : Counter.reserved.counts r.state = true := holds
  exact (Books.reservedPower_le_outstanding found counts onChain).trans
    (committed.covered b amount counted)

theorem lifecycle (committed : s.Committed calls) (call : ReservationCall) :
    (call.after s).Committed (calls + 1) := by
  have effect := call.effect s
  refine ⟨effect.sound committed.sound, Tallied.regular_step committed.regular effect, ?_, ?_⟩
  · intro r' member holds
    obtain ⟨r, found, budget, held⟩ := effect.held r' member holds
    rw [effect.has, budget]
    rcases held with ⟨held, _⟩ | ⟨_, _, st, installed⟩
    · exact committed.installed r (Keyed.mem_of_find? found) held
    · exact BudgetManager.has_iff.mpr ⟨st, installed⟩
  · intro b after counted
    obtain ⟨amount, before, left, value, leaves⟩ := effect.reserved_moved
      committed.sound.acyclic committed.regular (fun r found holds c onChain amount before =>
        committed.reservedPower_le found holds onChain before) counted
    have covered := committed.covered b amount before
    -- a reservation that lapses leaves its share on the books
    have nonneg : 0 ≤ left := by
      rcases leaves with zero | ⟨r, _, share⟩
      · exact zero.ge
      · rw [share]
        exact Reservation.share_nonneg
    linarith

/-- A fresh budget is on no chain that something is held on. -/
theorem install (committed : s.Committed calls) {b : PowerBudget}
    (grows : (BudgetCall.install b).GrowsForest s.budgets) :
    ({ s with budgets := (s.budgets.install b).1 } : Books).Committed calls := by
  obtain ⟨granted, states⟩ := BudgetManager.install_fresh grows.1
  have absent : s.budgets.has b.id ≠ true := by
    intro present
    obtain ⟨st, found⟩ := BudgetManager.has_iff.mp present
    rw [grows.1] at found
    cases found
  have offChain : ∀ r ∈ s.reservations.map.entries, r.state.holds = true →
      b.id ∉ s.budgets.chain r.budget := fun r member holds onChain =>
    absent (committed.sound.forest.has_of_mem_chain (committed.installed r member holds) onChain)
  have sameShares : ∀ k, ({ s with budgets := (s.budgets.install b).1 } : Books).outstanding
      .reserved k = s.outstanding .reserved k := by
    intro k
    refine Keyed.total_congr fun r member => ?_
    by_cases holds : r.state.holds = true
    · have kept : (s.budgets.install b).1.chain r.budget = s.budgets.chain r.budget :=
        BudgetManager.chain_install granted
          (.inr fun early => offChain r member holds (List.mem_of_mem_take early))
      unfold Reservation.share
      rw [← kept]
    · have uncounted : Counter.reserved.counts r.state = false := Bool.not_eq_true _ ▸ holds
      rw [Reservation.share_of_uncounted uncounted, Reservation.share_of_uncounted uncounted]
  refine ⟨BudgetManager.sound_install committed.sound grows, committed.regular, ?_, ?_⟩
  · exact fun r member holds =>
      (BudgetManager.has_install granted).mpr (.inr (committed.installed r member holds))
  · intro k amount counted
    rw [sameShares]
    obtain ⟨st, found, rfl⟩ := BudgetManager.amount?_eq_some.mp counted
    rw [states] at found
    by_cases own : k = b.id
    · rw [if_pos own] at found
      obtain rfl := Option.some.inj found
      have nothing : s.outstanding .reserved k = 0 := by
        refine List.sum_eq_zero fun power member => ?_
        obtain ⟨r, here, rfl⟩ := List.mem_map.mp member
        unfold Reservation.share
        rw [if_neg]
        rintro ⟨holds, onChain⟩
        exact offChain r here holds (own ▸ onChain)
      exact nothing.le
    · rw [if_neg own] at found
      exact committed.covered k _ (BudgetManager.amount?_eq_some.mpr ⟨st, found, rfl⟩)

end Books.Committed

end PowerGovernor
