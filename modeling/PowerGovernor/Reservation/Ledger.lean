import Mathlib.Tactic.Linarith
import PowerGovernor.Budget.Capacity
import PowerGovernor.Library.Transition
import PowerGovernor.Reservation.Doubles
import PowerGovernor.Reservation.Effect

/-!
The two ledgers between reservations and budgets.

Owns the runs of the reservation lifecycle over a fixed acyclic budget forest,
the sum of reserved power each budget should account for, and the conditions on
a call under which the reserved and the used counters stay equal to those sums.

Two edges break a ledger. A reservation that lapses in `admit` or `activate`
keeps its capacity booked, and a release before activation returns usage that
some other reservation attributed.
-/

set_option autoImplicit false

namespace PowerGovernor

/-- The states whose reserved power a counter accounts for. -/
def Counter.counts : Counter → ReservationState → Bool
  | .reserved => ReservationState.holds
  | .used => ReservationState.uses

theorem Counter.holds_of_counts {counter : Counter} {state : ReservationState}
    (counts : counter.counts state = true) : state.holds = true := by
  cases counter with
  | reserved => exact counts
  | used => cases state <;> first | rfl | cases counts

namespace ReservationState

variable {state : ReservationState}

theorem unused_of_waiting (waiting : state = .reserved ∨ state = .admitted) :
    Counter.used.counts state = false := by
  rcases waiting with rfl | rfl <;> rfl

theorem uncounted_of_early {counter : Counter} (early : state = .planned ∨ state = .validated) :
    counter.counts state = false := by
  cases counter <;> rcases early with rfl | rfl <;> rfl

end ReservationState

/-- Planning sets nothing aside; a reservation that holds capacity holds what
it requested. -/
structure Reservation.Regular (r : Reservation) : Prop where
  planning : r.state = .planned ∨ r.state = .validated → r.reservedPower = Watts.zero
  holding : r.state.holds = true → r.reservedPower = r.requestedPower

theorem Reservation.regular_of_ended {r : Reservation}
    (ended : r.state = .released ∨ r.state = .expired) : r.Regular := by
  obtain released | expired := ended
  · constructor <;> simp [released, ReservationState.holds]
  · constructor <;> simp [expired, ReservationState.holds]

open Classical in
/-- What a reservation should contribute to a counter of `b`: its reserved power
when it is counted and its budget lies in the subtree of `b`. -/
noncomputable def Reservation.attributed (m : BudgetManager) (counter : Counter) (b : BudgetId)
    (r : Reservation) : ℚ :=
  if counter.counts r.state = true ∧ m.InSubtree r.budget b then r.reservedPower.value else 0

namespace Books

/-- The power of all reservations attributed to `b`. -/
noncomputable def attributed (s : Books) (counter : Counter) (b : BudgetId) : ℚ :=
  s.reservations.map.total (Reservation.attributed s.budgets counter b)

/-- The power of one reservation attributed to `b`. -/
noncomputable def attributedOf (s : Books) (counter : Counter) (b : BudgetId)
    (id : ReservationId) : ℚ :=
  ((s.reservations.find? id).map (Reservation.attributed s.budgets counter b)).getD 0

/-- Every installed budget accounts for exactly the power attributed to it. -/
def LedgerExact (s : Books) (counter : Counter) : Prop :=
  ∀ b st, s.budgets.state? b = some st → (st.get counter).value = s.attributed counter b

theorem attributed_eq_zero {s : Books} {counter : Counter}
    (uncounted : ∀ r ∈ s.reservations.map.entries, counter.counts r.state = false)
    (b : BudgetId) : s.attributed counter b = 0 := by
  apply List.sum_eq_zero
  intro power member
  obtain ⟨r, rMember, rfl⟩ := List.mem_map.mp member
  simp [Reservation.attributed, uncounted r rMember]

end Books

/-- No reservation and nothing booked at the start, over any acyclic forest. -/
structure Books.Initial (s : Books) : Prop where
  none : s.reservations = .empty
  acyclic : s.budgets.Acyclic
  unbooked : ∀ id st, s.budgets.state? id = some st →
    st.reserved = Watts.zero ∧ st.used = Watts.zero

/-- The lifecycle runs whose calls meet a condition, without re-issue and with the rounding
of the budgets. -/
def lifecycleRuns (Meets : Books → ReservationCall → Prop) :
    TransitionSystem Books ReservationCall where
  init := Books.Initial
  step := fun s call s' => Meets s call ∧ s' = call.afterInDoubles s

/-- The books after a list of calls. -/
def Books.run (s : Books) (calls : List ReservationCall) : Books :=
  calls.foldl (fun s call => call.after s) s

/-- The books after a list of calls, with the rounding of the budgets. -/
def Books.runInDoubles (s : Books) (calls : List ReservationCall) : Books :=
  calls.foldl (fun s call => call.afterInDoubles s) s

theorem reachable_run {s : Books} (reached : (lifecycleRuns fun _ _ => True).Reachable s)
    (calls : List ReservationCall) :
    (lifecycleRuns fun _ _ => True).Reachable (s.runInDoubles calls) := by
  induction calls generalizing s with
  | nil => exact reached
  | cons call rest inductionHypothesis =>
      exact inductionHypothesis (.step call reached ⟨trivial, rfl⟩)

/-! ## The ledger along chains -/

namespace Reservation

/-- What a reservation contributes to a counter of a budget on its chain. -/
def share (m : BudgetManager) (counter : Counter) (b : BudgetId) (r : Reservation) : ℚ :=
  if counter.counts r.state = true ∧ b ∈ m.chain r.budget then r.reservedPower.value else 0

variable {m : BudgetManager} {counter : Counter} {b : BudgetId} {r : Reservation}

theorem share_nonneg : 0 ≤ r.share m counter b := by
  unfold share
  split
  · exact r.reservedPower.nonneg
  · exact le_refl 0

theorem share_of_counted (counted : counter.counts r.state = true) {id : BudgetId}
    {power : Watts} (budget : r.budget = id) (reserved : r.reservedPower = power) :
    r.share m counter b = if b ∈ m.chain id then power.value else 0 := by
  subst budget reserved
  simp [share, counted]

theorem share_of_uncounted (uncounted : counter.counts r.state = false) :
    r.share m counter b = 0 := by
  simp [share, uncounted]

theorem share_of_zero (zero : r.reservedPower.value = 0) : r.share m counter b = 0 := by
  simp [share, zero]

theorem share_same {before : Reservation}
    (counts : counter.counts r.state = counter.counts before.state)
    (budget : r.budget = before.budget) (reserved : r.reservedPower = before.reservedPower) :
    r.share m counter b = before.share m counter b := by
  simp only [share, counts, budget, reserved]

theorem share_congr {m' : BudgetManager} (same : m'.parentOf = m.parentOf) :
    r.share m' counter b = r.share m counter b := by
  rw [share, share, BudgetManager.chain_congr same]

end Reservation

/-- The sum of the shares. -/
def Books.outstanding (s : Books) (counter : Counter) (b : BudgetId) : ℚ :=
  s.reservations.map.total (Reservation.share s.budgets counter b)

/-- A write changes the sum by the change of the written reservation's share. -/
theorem Books.outstanding_write (s : Books) {r : Reservation} {f : Reservation → Reservation}
    {keeps : ∀ r, (f r).id = r.id} {budgets : BudgetManager}
    (found : s.reservations.find? r.id = some r)
    (parents : (s.write r.id f keeps budgets).budgets.parentOf = s.budgets.parentOf)
    (counter : Counter) (b : BudgetId) :
    (s.write r.id f keeps budgets).outstanding counter b = s.outstanding counter b +
      ((f r).share s.budgets counter b - r.share s.budgets counter b) := by
  have sameShares : (s.write r.id f keeps budgets).outstanding counter b =
      (s.write r.id f keeps budgets).reservations.map.total
        (Reservation.share s.budgets counter b) :=
    Keyed.total_congr fun v _ => Reservation.share_congr parents
  rw [sameShares, Books.total_write found]
  rfl

/-- A counted reservation is part of the sum on every budget of its chain. -/
theorem Books.reservedPower_le_outstanding {s : Books} {counter : Counter} {r : Reservation}
    (found : s.reservations.find? r.id = some r) (counted : counter.counts r.state = true)
    {b : BudgetId} (onChain : b ∈ s.budgets.chain r.budget) :
    r.reservedPower.value ≤ s.outstanding counter b := by
  have share : r.share s.budgets counter b = r.reservedPower.value := by
    rw [Reservation.share_of_counted counted rfl rfl, if_pos onChain]
  rw [← share]
  exact Keyed.weight_le_total found fun _ => Reservation.share_nonneg

/-- Returning the reserved power of a reservation that has not ended moves the
reserved counter by its share, when the counters on its chain account for it. -/
theorem Books.reserved_of_returned (s : Books) (acyclic : s.budgets.Acyclic) {r : Reservation}
    (regular : r.Regular) (pending : r.state ≠ .released ∧ r.state ≠ .expired)
    (accounted : r.state.holds = true → ∀ b ∈ s.budgets.chain r.budget, ∀ amount,
      s.budgets.amount? .reserved b = some amount → r.reservedPower.value ≤ amount.value)
    {gen : BudgetGeneration} {b : BudgetId} {after : Watts}
    (counted : (s.returned r gen).amount? .reserved b = some after) :
    ∃ amount, s.budgets.amount? .reserved b = some amount ∧
      after.value = amount.value - r.share s.budgets .reserved b := by
  have different : Counter.reserved ≠ Counter.used := by decide
  have first : (s.unreserved r).amount? .reserved b = some after := by
    rcases s.returned_cases r gen with ⟨once, _⟩ | ⟨twice, _⟩
    · rw [once] at counted
      exact counted
    · rw [twice, BudgetManager.amount?_adjustChain_other different] at counted
      exact counted
  have planning : r.state.holds = false → r.reservedPower = Watts.zero := by
    intro idle
    obtain ⟨notReleased, notExpired⟩ := pending
    apply regular.planning
    cases state : r.state <;> simp_all [ReservationState.holds]
  have share : r.share s.budgets .reserved b =
      if b ∈ s.budgets.chain r.budget then r.reservedPower.value else 0 := by
    cases holds : r.state.holds with
    | true =>
        have counted : Counter.reserved.counts r.state = true := holds
        exact Reservation.share_of_counted counted rfl rfl
    | false => simp [Reservation.share, planning holds]
  have unclamped : ∀ c ∈ s.budgets.chain r.budget, ∀ amount,
      s.budgets.amount? .reserved c = some amount →
        0 ≤ amount.value + -r.reservedPower.value := by
    intro c onChain amount before
    cases holds : r.state.holds with
    | true =>
        have booked := accounted holds c onChain amount before
        linarith
    | false =>
        rw [planning holds]
        simpa using amount.nonneg
  obtain ⟨amount, before, value⟩ :=
    BudgetManager.value_of_adjustChain acyclic unclamped first
  refine ⟨amount, before, ?_⟩
  rw [value, share]
  split
  · ring
  · ring

/-- A call moves the reserved counter of a budget by what it moves the sum of the
shares, except that a reservation that lapses leaves its share booked. -/
theorem Effect.reserved_moved {s s' : Books} {call : ReservationCall} (effect : Effect s call s')
    (acyclic : s.budgets.Acyclic) (regular : ∀ r ∈ s.reservations.map.entries, r.Regular)
    (accounted : ∀ r, s.reservations.find? r.id = some r → r.state.holds = true →
      ∀ b ∈ s.budgets.chain r.budget, ∀ amount, s.budgets.amount? .reserved b = some amount →
        r.reservedPower.value ≤ amount.value)
    {b : BudgetId} {after : Watts} (counted : s'.budgets.amount? .reserved b = some after) :
    ∃ amount, s.budgets.amount? .reserved b = some amount ∧ ∃ left : ℚ,
      after.value = amount.value + left +
        (s'.outstanding .reserved b - s.outstanding .reserved b) ∧
      (left = 0 ∨ ∃ r, call.Lapses s r ∧ left = r.share s.budgets .reserved b) := by
  have different : Counter.reserved ≠ Counter.used := by decide
  have parents := effect.parentOf
  cases effect with
  | idle reservations budgets =>
      rw [budgets] at counted
      refine ⟨after, counted, 0, ?_, .inl rfl⟩
      simp only [Books.outstanding, reservations, budgets]
      ring
  | @plan r ids fresh planned unreserved =>
      refine ⟨after, counted, 0, ?_, .inl rfl⟩
      have share : r.share s.budgets .reserved b = 0 :=
        Reservation.share_of_uncounted (ReservationState.uncounted_of_early (.inl planned))
      have same : (s.reservations.map.emplace r).total (Reservation.share s.budgets .reserved b) =
          s.outstanding .reserved b + r.share s.budgets .reserved b :=
        Keyed.total_emplace fresh _
      change _ = _ + ((s.reservations.map.emplace r).total _ - _)
      rw [same, share]
      ring
  | @quiet r f keeps found edge same =>
      have counts : Counter.reserved.counts (f r).state = Counter.reserved.counts r.state :=
        edge.holds
      refine ⟨after, counted, 0, ?_, .inl rfl⟩
      rw [s.outstanding_write found parents,
        Reservation.share_same counts same.budget same.reservedPower]
      ring
  | @lapse r lapses =>
      refine ⟨after, counted, _, ?_, .inr ⟨r, lapses, rfl⟩⟩
      rw [s.outstanding_write lapses.found parents,
        Reservation.share_of_uncounted (r := r.lapsed) rfl]
      ring
  | @reserve r gen reserves =>
      have idle : Counter.reserved.counts r.state = false :=
        ReservationState.uncounted_of_early reserves.early
      have share : (r.reservedUnder gen).share s.budgets .reserved b =
          if b ∈ s.budgets.chain r.budget then r.requestedPower.value else 0 :=
        Reservation.share_of_counted rfl rfl rfl
      obtain ⟨amount, before, value⟩ := BudgetManager.value_of_adjustChain acyclic
        (s.budgets.unclamped_book .reserved r.budget r.requestedPower) counted
      refine ⟨amount, before, 0, ?_, .inl rfl⟩
      rw [s.outstanding_write reserves.found parents, value, share,
        Reservation.share_of_uncounted idle]
      ring
  | @activate r now activates =>
      have holds : Counter.reserved.counts r.state = true :=
        ReservationState.holds_of_waiting activates.waiting
      have share : (r.activeFrom now).share s.budgets .reserved b =
          r.share s.budgets .reserved b :=
        Reservation.share_same holds.symm rfl rfl
      change (s.budgets.adjustChain .used _ _).amount? .reserved b = some after at counted
      rw [BudgetManager.amount?_adjustChain_other different] at counted
      refine ⟨after, counted, 0, ?_, .inl rfl⟩
      rw [s.outstanding_write activates.found parents, share]
      ring
  | @release r gen now releases =>
      obtain ⟨amount, before, value⟩ := s.reserved_of_returned acyclic
        (regular r (Keyed.mem_of_find? releases.found)) releases.pending
        (accounted r releases.found) counted
      refine ⟨amount, before, 0, ?_, .inl rfl⟩
      rw [s.outstanding_write releases.found parents, value,
        Reservation.share_of_uncounted (r := r.releasedFrom now) rfl]
      ring

/-- A counter of every budget is the sum of the shares. -/
structure Tallied (counter : Counter) (s : Books) : Prop where
  acyclic : s.budgets.Acyclic
  regular : ∀ r ∈ s.reservations.map.entries, r.Regular
  balanced : ∀ b amount, s.budgets.amount? counter b = some amount →
    amount.value = s.outstanding counter b

/-- The invariant of the runs that keep one counter's ledger. -/
structure Kept (counter : Counter) (s : Books) : Prop extends Tallied counter s where
  covered : ∀ r ∈ s.reservations.map.entries, counter.counts r.state = true →
    r.reservedPower.value = 0 ∨ s.budgets.Covers r.budget

namespace Tallied

variable {counter : Counter} {s s' : Books}

/-- The initial states of the runs. -/
theorem of_initial (counter : Counter) (initial : s.Initial) : Tallied counter s := by
  obtain ⟨none, acyclic, unbooked⟩ := initial
  have noEntries : s.reservations.map.entries = [] := by
    rw [none]
    rfl
  refine ⟨acyclic, ?_, ?_⟩
  · simp [noEntries]
  · intro b amount counted
    obtain ⟨st, installed, rfl⟩ := BudgetManager.amount?_eq_some.mp counted
    obtain ⟨reserved, used⟩ := unbooked b st installed
    have zero : st.get counter = Watts.zero := by
      cases counter with
      | reserved => exact reserved
      | used => exact used
    simp [zero, Books.outstanding, Keyed.total, noEntries]

/-! ## One step -/

theorem regular_step (regular : ∀ r ∈ s.reservations.map.entries, r.Regular)
    {call : ReservationCall} (effect : Effect s call s') :
    ∀ r ∈ s'.reservations.map.entries, r.Regular := by
  cases effect with
  | idle reservations _ =>
      rw [reservations]
      exact regular
  | plan fresh planned unreserved =>
      apply Keyed.forall_emplace regular
      refine ⟨fun _ => unreserved, fun holds => ?_⟩
      simp [planned, ReservationState.holds] at holds
  | @quiet r f keeps found edge same =>
      have before := regular r (Keyed.mem_of_find? found)
      apply Books.forall_write regular found
      refine ⟨fun early => ?_, fun holds => ?_⟩
      · rw [same.reservedPower]
        exact before.planning (edge.planning early)
      · rw [same.reservedPower, same.requestedPower]
        rw [edge.holds] at holds
        exact before.holding holds
  | lapse lapses =>
      apply Books.forall_write regular lapses.found
      exact Reservation.regular_of_ended (.inr rfl)
  | reserve reserves =>
      apply Books.forall_write regular reserves.found
      refine ⟨?_, fun _ => rfl⟩
      rintro (planned | validated)
      · cases planned
      · cases validated
  | @activate r now activates =>
      have before := regular r (Keyed.mem_of_find? activates.found)
      apply Books.forall_write regular activates.found
      refine ⟨?_, fun _ => before.holding ?_⟩
      · rintro (planned | validated)
        · cases planned
        · cases validated
      rcases activates.waiting with reserved | admitted
      · rw [reserved]
        rfl
      · rw [admitted]
        rfl
  | release releases =>
      apply Books.forall_write regular releases.found
      exact Reservation.regular_of_ended (.inl rfl)

/-- A write keeps the balance when every counter moves by the change of the
written reservation's share. -/
theorem balanced_write {r : Reservation} {f : Reservation → Reservation}
    {keeps : ∀ r, (f r).id = r.id} {budgets : BudgetManager}
    (balanced : ∀ b amount, s.budgets.amount? counter b = some amount →
      amount.value = s.outstanding counter b)
    (found : s.reservations.find? r.id = some r)
    (parents : budgets.parentOf = s.budgets.parentOf)
    (moved : ∀ b amount', budgets.amount? counter b = some amount' →
      ∃ amount, s.budgets.amount? counter b = some amount ∧
        amount'.value = amount.value +
          ((f r).share s.budgets counter b - r.share s.budgets counter b)) :
    ∀ b amount, (s.write r.id f keeps budgets).budgets.amount? counter b = some amount →
      amount.value = (s.write r.id f keeps budgets).outstanding counter b := by
  intro b amount' counted
  obtain ⟨amount, before, value⟩ := moved b amount' counted
  rw [value, s.outstanding_write found parents, balanced b amount before]

/-- An effect that writes one reservation keeps the tally when the counters move by the
change of its share. -/
theorem of_write (tallied : Tallied counter s) {call : ReservationCall} {r : Reservation}
    {f : Reservation → Reservation} {keeps : ∀ r, (f r).id = r.id} {budgets : BudgetManager}
    (effect : Effect s call (s.write r.id f keeps budgets))
    (found : s.reservations.find? r.id = some r)
    (moved : ∀ b amount', budgets.amount? counter b = some amount' →
      ∃ amount, s.budgets.amount? counter b = some amount ∧
        amount'.value = amount.value +
          ((f r).share s.budgets counter b - r.share s.budgets counter b)) :
    Tallied counter (s.write r.id f keeps budgets) := by
  refine ⟨?_, regular_step tallied.regular effect, ?_⟩
  · unfold BudgetManager.Acyclic
    rw [effect.parentOf]
    exact tallied.acyclic
  · exact balanced_write tallied.balanced found effect.parentOf moved

theorem of_idle (tallied : Tallied counter s) (reservations : s'.reservations = s.reservations)
    (budgets : s'.budgets = s.budgets) : Tallied counter s' := by
  refine ⟨?_, ?_, ?_⟩
  · rw [budgets]
    exact tallied.acyclic
  · rw [reservations]
    exact tallied.regular
  · simp only [Books.outstanding, reservations, budgets]
    exact tallied.balanced

theorem of_plan (tallied : Tallied counter s) {r : Reservation} {ids : Allocators}
    (fresh : s.reservations.find? r.id = none) (planned : r.state = .planned)
    (unreserved : r.reservedPower = Watts.zero) :
    Tallied counter ⟨⟨s.reservations.map.emplace r⟩, s.budgets, ids⟩ := by
  have uncounted : counter.counts r.state = false := by
    rw [planned]
    cases counter <;> rfl
  refine ⟨tallied.acyclic, ?_, ?_⟩
  · apply Keyed.forall_emplace tallied.regular
    refine ⟨fun _ => unreserved, fun holds => ?_⟩
    simp [planned, ReservationState.holds] at holds
  · intro b amount counted
    have same : (s.reservations.map.emplace r).total (Reservation.share s.budgets counter b) =
        s.outstanding counter b + Reservation.share s.budgets counter b r :=
      Keyed.total_emplace fresh _
    change amount.value = (s.reservations.map.emplace r).total _
    rw [same, Reservation.share_of_uncounted uncounted, add_zero]
    exact tallied.balanced b amount counted

/-- A counted reservation's power is on the counter of every budget of its
chain, so returning it is never cut off. -/
theorem reservedPower_le (tallied : Tallied counter s) {r : Reservation}
    (found : s.reservations.find? r.id = some r) (counted : counter.counts r.state = true)
    {b : BudgetId} (onChain : b ∈ s.budgets.chain r.budget) {amount : Watts}
    (before : s.budgets.amount? counter b = some amount) :
    r.reservedPower.value ≤ amount.value := by
  rw [tallied.balanced b amount before]
  exact Books.reservedPower_le_outstanding found counted onChain

end Tallied

namespace Kept

variable {counter : Counter} {s s' : Books}

theorem of_initial (counter : Counter) (initial : s.Initial) : Kept counter s := by
  refine ⟨Tallied.of_initial counter initial, ?_⟩
  obtain ⟨none, _, _⟩ := initial
  have noEntries : s.reservations.map.entries = [] := by
    rw [none]
    rfl
  simp [noEntries]

/-- Where the chains cover the forest, a share along the chain is the power
attributed to the subtree. -/
theorem attributed_eq_share (kept : Kept counter s) {r : Reservation}
    (member : r ∈ s.reservations.map.entries) {b : BudgetId} (present : s.budgets.has b = true) :
    r.attributed s.budgets counter b = r.share s.budgets counter b := by
  by_cases counts : counter.counts r.state = true
  · rcases kept.covered r member counts with zero | covers
    · simp [Reservation.share_of_zero zero, Reservation.attributed, zero]
    · have onChain : b ∈ s.budgets.chain r.budget ↔ s.budgets.InSubtree r.budget b :=
        ⟨BudgetManager.inSubtree_of_mem_chain, fun inside => covers b inside present⟩
      by_cases inside : s.budgets.InSubtree r.budget b
      · simp [Reservation.attributed, Reservation.share, counts, inside, onChain.mpr inside]
      · simp [Reservation.attributed, Reservation.share, inside, mt onChain.mp inside]
  · simp [Reservation.attributed, Reservation.share, counts]

theorem ledgerExact (kept : Kept counter s) : s.LedgerExact counter := by
  intro b st installed
  have counted : (st.get counter).value = s.outstanding counter b :=
    kept.balanced b _ (BudgetManager.amount?_eq_some.mpr ⟨st, installed, rfl⟩)
  have present : s.budgets.has b = true := BudgetManager.has_iff.mpr ⟨st, installed⟩
  rw [counted]
  exact Keyed.total_congr fun r member => (kept.attributed_eq_share member present).symm

/-- The counted reservations stay covered: only `reserve` and `activate` make a reservation
count. -/
theorem covered_step (kept : Kept counter s) {call : ReservationCall} (effect : Effect s call s')
    (reserves : counter = .reserved → ∀ r gen, call.Reserves s r gen →
      r.requestedPower.value = 0 ∨ s.budgets.Covers r.budget)
    (activates : counter = .used → ∀ r, call.Activates s r →
      r.requestedPower.value = 0 ∨ s.budgets.Covers r.budget) :
    ∀ r ∈ s'.reservations.map.entries, counter.counts r.state = true →
      r.reservedPower.value = 0 ∨ s'.budgets.Covers r.budget := by
  have transfer : ∀ (power : Watts) id, power.value = 0 ∨ s.budgets.Covers id →
      power.value = 0 ∨ s'.budgets.Covers id := by
    intro power id before
    rcases before with zero | covers
    · exact .inl zero
    · exact .inr (BudgetManager.covers_congr effect.parentOf effect.has covers)
  have before : ∀ r ∈ s.reservations.map.entries, counter.counts r.state = true →
      r.reservedPower.value = 0 ∨ s'.budgets.Covers r.budget :=
    fun r member counts => transfer _ _ (kept.covered r member counts)
  cases effect with
  | idle reservations _ =>
      rw [reservations]
      exact before
  | plan fresh planned _ =>
      apply Keyed.forall_emplace before
      intro counts
      rw [ReservationState.uncounted_of_early (.inl planned)] at counts
      cases counts
  | @quiet r f keeps found edge same =>
      have counts : counter.counts (f r).state = counter.counts r.state := by
        cases counter with
        | reserved => exact edge.holds
        | used => exact edge.uses
      apply Books.forall_write before found
      rw [counts, same.reservedPower, same.budget]
      exact before r (Keyed.mem_of_find? found)
  | lapse lapses =>
      apply Books.forall_write before lapses.found
      cases counter <;> exact nofun
  | @reserve r gen reservesIt =>
      apply Books.forall_write before reservesIt.found
      intro counts
      cases counter with
      | reserved => exact transfer _ _ (reserves rfl r gen reservesIt)
      | used => cases counts
  | @activate r now activatesIt =>
      apply Books.forall_write before activatesIt.found
      intro _
      have member := Keyed.mem_of_find? activatesIt.found
      have holds := ReservationState.holds_of_waiting activatesIt.waiting
      cases counter with
      | reserved => exact before r member holds
      | used =>
          have requested : r.reservedPower = r.requestedPower :=
            (kept.regular r member).holding holds
          show r.reservedPower.value = 0 ∨ _
          rw [requested]
          exact transfer _ _ (activates rfl r activatesIt)
  | release releases =>
      apply Books.forall_write before releases.found
      cases counter <;> exact nofun

end Kept

/-! ## The reserved ledger -/

/-- The condition under which a call keeps the reserved ledger: the budgets it books on
come out as without rounding, no reservation with power lapses while it holds capacity, and
power is reserved only under a budget whose chain covers the forest above it. -/
structure KeepsCapacity (s : Books) (call : ReservationCall) : Prop where
  exactly : call.Exactly s
  lapses : ∀ r, call.Lapses s r → r.reservedPower.value = 0
  reserves : ∀ r gen, call.Reserves s r gen →
    r.requestedPower.value = 0 ∨ s.budgets.Covers r.budget

namespace Kept

variable {s s' : Books} {call : ReservationCall}

theorem reserved_step (kept : Kept .reserved s) (effect : Effect s call s')
    (meets : KeepsCapacity s call) : Kept .reserved s' := by
  refine ⟨⟨?_, Tallied.regular_step kept.regular effect, ?_⟩,
    kept.covered_step effect (fun _ => meets.reserves) nofun⟩
  · unfold BudgetManager.Acyclic
    rw [effect.parentOf]
    exact kept.acyclic
  · intro b after counted
    obtain ⟨amount, before, left, value, leaves⟩ := effect.reserved_moved kept.acyclic
      kept.regular (fun r found holds c onChain amount before =>
        kept.reservedPower_le found holds onChain before) counted
    have nothing : left = 0 := by
      rcases leaves with zero | ⟨r, lapses, share⟩
      · exact zero
      · rw [share, Reservation.share_of_zero (meets.lapses r lapses)]
    rw [value, nothing, kept.balanced b amount before]
    ring

/-- Every state of a run whose calls keep the reserved ledger. -/
theorem of_reachable_reserved (reached : (lifecycleRuns KeepsCapacity).Reachable s) :
    Kept .reserved s := by
  refine reached.invariant (Kept .reserved) (fun _ => of_initial .reserved) ?_
  rintro s call _ kept ⟨meets, rfl⟩
  rw [ReservationCall.afterInDoubles_of_exact kept.acyclic meets.exactly]
  exact kept.reserved_step (call.effect s) meets

end Kept

/-- In a run whose calls all meet `KeepsCapacity`, after every step each
installed budget's reserved amount is the sum of the reserved power of the
RESERVED, ADMITTED and ACTIVE reservations in its subtree. -/
theorem reserved_eq_held {s : Books} (reached : (lifecycleRuns KeepsCapacity).Reachable s) :
    s.LedgerExact .reserved :=
  (Kept.of_reachable_reserved reached).ledgerExact

/-! Reservations on the two levels of `BudgetManager.twoLevels`, planned at one
second with a validity of three. -/

def seconds (n : Fin 1000) : Timestamp :=
  ⟨n * 1000000000, by omega, by omega⟩

def planTime : Timestamp := seconds 1

def planValidity : Duration := ⟨3000000000, by decide, by decide⟩

def planOnGpu (watts : ℚ) : ReservationCall :=
  .plan ⟨10⟩ .throughput ⟨1⟩ ⟨2⟩ (Watts.clamped watts) Joules.zero .first .first .blank planTime
    planValidity

def opened : Books := ⟨.empty, .twoLevels, .start⟩

theorem opened_initial : opened.Initial := by
  refine ⟨rfl, BudgetManager.twoLevels_acyclic, fun id st installed => ?_⟩
  have unbooked : ∀ st ∈ BudgetManager.twoLevels.states.entries,
      st.reserved = Watts.zero ∧ st.used = Watts.zero := by decide +kernel
  exact unbooked st (Keyed.mem_of_find? installed)

/-- 150 W are reserved in time and admitted too late. -/
def lateAdmission : Books :=
  opened.runInDoubles
    [planOnGpu 150, .reserve ⟨1⟩ .first (seconds 1), .admitReservation ⟨1⟩ (seconds 10)]

/-- The expired reservation's 150 W stay booked. -/
theorem reserved_leaks_on_expiry :
    ¬ ∀ s, (lifecycleRuns fun _ _ => True).Reachable s → s.LedgerExact .reserved := by
  intro exact
  have reached : (lifecycleRuns fun _ _ => True).Reachable lateAdmission :=
    reachable_run (.start opened_initial) _
  have gpu : lateAdmission.budgets.state? ⟨2⟩ =
      some ⟨BudgetManager.gpuBudget, Watts.clamped 150, Watts.zero⟩ := by decide +kernel
  have expired : ∀ r ∈ lateAdmission.reservations.map.entries,
      Counter.reserved.counts r.state = false := by decide +kernel
  have ledger := exact lateAdmission reached ⟨2⟩ _ gpu
  rw [Books.attributed_eq_zero expired] at ledger
  norm_num [BudgetState.get] at ledger

/-- 150 W are reserved and stay reserved. -/
def gpuReserved : Books :=
  opened.runInDoubles [planOnGpu 150, .reserve ⟨1⟩ .first (seconds 1)]

theorem twoLevels_covers_gpu : BudgetManager.twoLevels.Covers ⟨2⟩ := by
  have states : BudgetManager.twoLevels.states.entries =
      [⟨BudgetManager.nodeBudget, Watts.zero, Watts.zero⟩,
        ⟨BudgetManager.gpuBudget, Watts.zero, Watts.zero⟩] := by decide +kernel
  have ranked : ParentPath.Ranked BudgetManager.twoLevels.parentOf
      fun b => if b = ⟨2⟩ then 1 else 0 := by
    intro child up parent
    have node : BudgetManager.nodeBudget.id = ⟨1⟩ := rfl
    have gpu : BudgetManager.gpuBudget.id = ⟨2⟩ := rfl
    simp only [BudgetManager.parentOf, BudgetManager.state?, Keyed.find?, states,
      List.find?_cons, node, gpu, List.find?_nil] at parent
    by_cases isGpu : child = ⟨2⟩
    · subst isGpu
      have named : some (⟨1⟩ : BudgetId) = some up := parent
      obtain rfl := Option.some.inj named
      decide
    · have isNode : (⟨2⟩ : BudgetId) ≠ child := Ne.symm isGpu
      simp only [isNode, decide_false] at parent
      split at parent
      · cases parent
      · cases parent
  exact BudgetManager.covers_of_ranked ranked rfl (by decide)

theorem reserved_eq_held_gpuReserved : gpuReserved.LedgerExact .reserved := by
  have plans : KeepsCapacity opened (planOnGpu 150) :=
    ⟨trivial, fun _ lapses => lapses.elim, fun _ _ reserves => reserves.elim⟩
  have planned : (lifecycleRuns KeepsCapacity).Reachable
      ((planOnGpu 150).afterInDoubles opened) :=
    .step _ (.start opened_initial) ⟨plans, rfl⟩
  have onGpu : ∀ r ∈ ((planOnGpu 150).afterInDoubles opened).reservations.map.entries,
      r.budget = ⟨2⟩ ∧ r.requestedPower = Watts.clamped 150 := by decide +kernel
  have reserves : KeepsCapacity ((planOnGpu 150).afterInDoubles opened)
      (.reserve ⟨1⟩ .first (seconds 1)) := by
    refine ⟨fun r found _ => ?_, fun _ lapses => lapses.elim, fun r gen reserves => .inr ?_⟩
    · obtain ⟨budget, power⟩ := onGpu r (Keyed.mem_of_find? found)
      rw [budget, power]
      constructor <;> decide +kernel
    · rw [(onGpu r (Keyed.mem_of_find? reserves.found)).1]
      exact twoLevels_covers_gpu
  exact reserved_eq_held (.step _ planned ⟨reserves, rfl⟩)

/-! ## The used ledger -/

/-- A release before activation finds no usage on the chain it could take. -/
def ReservationCall.LeavesUsage (s : Books) (call : ReservationCall) : Prop :=
  ∀ r gen, call.Releases s r gen → r.state = .reserved ∨ r.state = .admitted →
    r.reservedPower.value = 0 ∨ ¬ s.budgets.Returnable .used r.budget r.reservedPower gen ∨
      ∀ b ∈ s.budgets.chain r.budget, s.budgets.amount? .used b = some Watts.zero

namespace Tallied

variable {s s' : Books} {call : ReservationCall} {r : Reservation}

/-- The usage of an ACTIVE reservation can be returned. -/
theorem returnable_of_active (tallied : Tallied .used s) {r : Reservation} {gen : BudgetGeneration}
    (releases : call.Releases s r gen) (active : Counter.used.counts r.state = true) :
    s.budgets.Returnable .used r.budget r.reservedPower gen := by
  obtain ⟨installed, booked⟩ := releases.returnable
  refine ⟨installed, fun b onChain => ?_⟩
  obtain ⟨st, found, _⟩ := booked b onChain
  have counted : s.budgets.amount? .used b = some (st.get .used) :=
    BudgetManager.amount?_eq_some.mpr ⟨st, found, rfl⟩
  have used := tallied.reservedPower_le releases.found active onChain counted
  exact ⟨st, found, le_add_of_le_of_nonneg used slack_nonneg⟩

/-- The usage of an ACTIVE reservation is taken off its chain. -/
theorem used_of_active (tallied : Tallied .used s) {r : Reservation}
    (found : s.reservations.find? r.id = some r) (active : Counter.used.counts r.state = true)
    {b : BudgetId} {after : Watts}
    (counted : ((s.unreserved r).adjustChain .used (-r.reservedPower.value)
      (s.budgets.chain r.budget)).amount? .used b = some after) :
    ∃ amount, s.budgets.amount? .used b = some amount ∧
      after.value = amount.value - r.share s.budgets .used b := by
  have unclamped : ∀ c ∈ (s.unreserved r).chain r.budget, ∀ amount,
      (s.unreserved r).amount? .used c = some amount →
        0 ≤ amount.value + -r.reservedPower.value := by
    intro c onChain amount before
    rw [s.chain_unreserved] at onChain
    rw [s.used_unreserved] at before
    have used := tallied.reservedPower_le found active onChain before
    linarith
  rw [← s.chain_unreserved r] at counted
  obtain ⟨amount, before, value⟩ :=
    BudgetManager.value_of_adjustChain (s.acyclic_unreserved r tallied.acyclic) unclamped counted
  rw [s.used_unreserved] at before
  rw [s.chain_unreserved] at value
  refine ⟨amount, before, ?_⟩
  rw [value, Reservation.share_of_counted active rfl rfl]
  split
  · ring
  · ring

/-- A waiting reservation has no usage, and where its chain has none either, or none
is returnable, nothing is taken. -/
theorem used_of_waiting (tallied : Tallied .used s) {r : Reservation} {gen : BudgetGeneration}
    (returnable : (s.unreserved r).Returnable .used r.budget r.reservedPower gen)
    (untaken : r.reservedPower.value = 0 ∨
      ¬ s.budgets.Returnable .used r.budget r.reservedPower gen ∨
        ∀ b ∈ s.budgets.chain r.budget, s.budgets.amount? .used b = some Watts.zero)
    {b : BudgetId} {after : Watts}
    (counted : ((s.unreserved r).adjustChain .used (-r.reservedPower.value)
      (s.budgets.chain r.budget)).amount? .used b = some after) :
    ∃ amount, s.budgets.amount? .used b = some amount ∧ after.value = amount.value := by
  by_cases onChain : b ∈ s.budgets.chain r.budget
  · rw [BudgetManager.amount?_adjustChain_of_mem
      (BudgetManager.nodup_chain tallied.acyclic _) onChain, s.used_unreserved] at counted
    obtain ⟨amount, before, rfl⟩ := Option.map_eq_some_iff.mp counted
    refine ⟨amount, before, ?_⟩
    rcases untaken with zero | notReturnable | unusedChain
    · simp [zero, amount.nonneg]
    · exact absurd (s.returnable_unreserved r |>.mp returnable) notReturnable
    · rw [unusedChain b onChain] at before
      obtain rfl := Option.some.inj before
      simp [r.reservedPower.nonneg]
  · rw [BudgetManager.amount?_adjustChain_of_notMem onChain, s.used_unreserved] at counted
    exact ⟨after, counted, rfl⟩

/-- A release moves the used counter by the released reservation's own usage. -/
theorem used_of_returned (tallied : Tallied .used s) {r : Reservation} {gen : BudgetGeneration}
    (releases : call.Releases s r gen) (leaves : call.LeavesUsage s) {b : BudgetId} {after : Watts}
    (counted : (s.returned r gen).amount? .used b = some after) :
    ∃ amount, s.budgets.amount? .used b = some amount ∧
      after.value = amount.value - r.share s.budgets .used b := by
  rcases s.returned_cases r gen with ⟨once, refused⟩ | ⟨twice, holds, returnable⟩
  · -- Usage is left alone. An ACTIVE reservation's usage would have been returned.
    have unused : Counter.used.counts r.state = false := by
      cases active : Counter.used.counts r.state with
      | false => rfl
      | true =>
          have holds : r.state.holds = true := Counter.holds_of_counts active
          refine absurd ?_ (refused holds)
          exact (s.returnable_unreserved r).mpr (tallied.returnable_of_active releases active)
    rw [once, s.used_unreserved] at counted
    refine ⟨after, counted, ?_⟩
    rw [Reservation.share_of_uncounted unused, sub_zero]
  · rw [twice] at counted
    cases active : Counter.used.counts r.state with
    | true => exact tallied.used_of_active releases.found active counted
    | false =>
        -- Nothing on the chain may be taken from the other reservations.
        have waiting : r.state = .reserved ∨ r.state = .admitted := by
          cases state : r.state <;>
            simp_all [ReservationState.holds, Counter.counts, ReservationState.uses]
        obtain ⟨amount, before, value⟩ :=
          tallied.used_of_waiting returnable (leaves r gen releases waiting) counted
        refine ⟨amount, before, ?_⟩
        rw [value, Reservation.share_of_uncounted active, sub_zero]

/-- A call keeps the tally of the used counters, if no release takes the usage of others. -/
theorem used_step (tallied : Tallied .used s) (effect : Effect s call s')
    (leaves : call.LeavesUsage s) : Tallied .used s' := by
  have different : Counter.used ≠ Counter.reserved := by decide
  cases effect with
  | idle reservations budgets => exact tallied.of_idle reservations budgets
  | plan fresh planned unreserved => exact tallied.of_plan fresh planned unreserved
  | @quiet r f keeps found edge same =>
      have effect : Effect s call (s.write r.id f keeps s.budgets) := .quiet keeps found edge same
      have counts : Counter.used.counts (f r).state = Counter.used.counts r.state :=
        edge.uses
      apply tallied.of_write effect found
      intro b amount counted
      refine ⟨amount, counted, ?_⟩
      rw [Reservation.share_same counts same.budget same.reservedPower, sub_self, add_zero]
  | @lapse r lapses =>
      have idle : Counter.used.counts r.state = false :=
        ReservationState.unused_of_waiting lapses.waiting
      apply tallied.of_write (.lapse lapses) lapses.found
      intro b amount counted
      refine ⟨amount, counted, ?_⟩
      rw [Reservation.share_of_uncounted idle, Reservation.share_of_uncounted rfl]
      ring
  | @reserve r gen reserves =>
      have idle : Counter.used.counts r.state = false :=
        ReservationState.uncounted_of_early reserves.early
      apply tallied.of_write (.reserve reserves) reserves.found
      intro b amount counted
      rw [BudgetManager.amount?_adjustChain_other different] at counted
      refine ⟨amount, counted, ?_⟩
      have share : (r.reservedUnder gen).share s.budgets .used b = 0 :=
        Reservation.share_of_uncounted rfl
      rw [share, Reservation.share_of_uncounted idle, sub_zero, add_zero]
  | @activate r now activates =>
      have idle : Counter.used.counts r.state = false :=
        ReservationState.unused_of_waiting activates.waiting
      have regular := tallied.regular r (Keyed.mem_of_find? activates.found)
      have requested : r.reservedPower = r.requestedPower :=
        regular.holding (ReservationState.holds_of_waiting activates.waiting)
      apply tallied.of_write (.activate activates) activates.found
      intro b after counted
      obtain ⟨amount, before, value⟩ := BudgetManager.value_of_adjustChain tallied.acyclic
        (s.budgets.unclamped_book .used r.budget r.requestedPower) counted
      refine ⟨amount, before, ?_⟩
      have share : (r.activeFrom now).share s.budgets .used b =
          if b ∈ s.budgets.chain r.budget then r.requestedPower.value else 0 :=
        Reservation.share_of_counted rfl rfl requested
      rw [value, share, Reservation.share_of_uncounted idle, sub_zero]
  | @release r gen now releases =>
      apply tallied.of_write (.release releases) releases.found
      intro b after counted
      obtain ⟨amount, before, value⟩ := tallied.used_of_returned releases leaves counted
      refine ⟨amount, before, ?_⟩
      rw [value, Reservation.share_of_uncounted (r := r.releasedFrom now) rfl]
      ring

end Tallied

/-- The condition under which a call keeps the used ledger: the budgets it books on come
out as without rounding, power is activated only under a budget whose chain covers the forest
above it, and a release before activation finds no usage on the chain it could take. -/
structure KeepsUsage (s : Books) (call : ReservationCall) : Prop where
  exactly : call.Exactly s
  activates : ∀ r, call.Activates s r → r.requestedPower.value = 0 ∨ s.budgets.Covers r.budget
  releases : call.LeavesUsage s

namespace Kept

variable {s s' : Books} {call : ReservationCall}

theorem used_step (kept : Kept .used s) (effect : Effect s call s')
    (meets : KeepsUsage s call) : Kept .used s' :=
  ⟨kept.toTallied.used_step effect meets.releases,
    kept.covered_step effect nofun fun _ => meets.activates⟩

theorem of_reachable_used (reached : (lifecycleRuns KeepsUsage).Reachable s) :
    Kept .used s := by
  refine reached.invariant (Kept .used) (fun _ => of_initial .used) ?_
  rintro s call _ kept ⟨meets, rfl⟩
  rw [ReservationCall.afterInDoubles_of_exact kept.acyclic meets.exactly]
  exact kept.used_step (call.effect s) meets

end Kept

/-- In a run whose calls all meet `KeepsUsage`, after every step each installed
budget's used amount is the sum of the reserved power of the ACTIVE reservations
in its subtree, and a further release changes a used amount only by what was
attributed to the released reservation itself. -/
theorem used_eq_active {s : Books} (reached : (lifecycleRuns KeepsUsage).Reachable s) :
    s.LedgerExact .used ∧
      ∀ id gen now, KeepsUsage s (.release id gen now) →
        ∀ b st st', s.budgets.state? b = some st →
          ((ReservationCall.release id gen now).afterInDoubles s).budgets.state? b = some st' →
            st'.used.value -
                ((ReservationCall.release id gen now).afterInDoubles s).attributedOf .used b id =
              st.used.value - s.attributedOf .used b id := by
  have kept := Kept.of_reachable_used reached
  refine ⟨kept.ledgerExact, ?_⟩
  intro id gen now meets b st st' installed installed'
  rw [ReservationCall.afterInDoubles_of_exact kept.acyclic meets.exactly] at installed' ⊢
  rcases ReservationCall.release_cases s id gen now with refused | ⟨r, releases, granted⟩
  · rw [refused] at installed' ⊢
    rw [installed] at installed'
    rw [Option.some.inj installed']
  · have found := releases.found
    obtain rfl : r.id = id := Keyed.key_of_find? releases.2.1
    rw [granted] at installed' ⊢
    have counted : (s.returned r gen).amount? .used b = some st'.used :=
      BudgetManager.amount?_eq_some.mpr ⟨st', installed', rfl⟩
    obtain ⟨amount, before, value⟩ := kept.used_of_returned releases meets.releases counted
    have same : amount = st.used := by
      have stUsed : s.budgets.amount? .used b = some st.used :=
        BudgetManager.amount?_eq_some.mpr ⟨st, installed, rfl⟩
      exact Option.some.inj (before.symm.trans stUsed)
    have own : s.attributedOf .used b r.id = r.share s.budgets .used b := by
      have present : s.budgets.has b = true := BudgetManager.has_iff.mpr ⟨st, installed⟩
      rw [Books.attributedOf, found, Option.map_some, Option.getD_some]
      exact kept.attributed_eq_share (Keyed.mem_of_find? found) present
    have ended : (s.write r.id (.releasedFrom now) (Reservation.releasedFrom_id now)
        (s.returned r gen)).attributedOf .used b r.id = 0 := by
      rw [Books.attributedOf, Books.find?_write_self found, Option.map_some, Option.getD_some]
      simp [Reservation.attributed, Reservation.releasedFrom, Counter.counts,
        ReservationState.uses]
    rw [own, ended, value, same, sub_zero]

/-- 20 W are reserved and activated. -/
def gpuActive : Books :=
  opened.runInDoubles
    [planOnGpu 20, .reserve ⟨1⟩ .first (seconds 1), .activate ⟨1⟩ .first (seconds 1)]

theorem used_eq_active_gpuActive : gpuActive.LedgerExact .used := by
  let planned := (planOnGpu 20).afterInDoubles opened
  let reserved := (ReservationCall.reserve ⟨1⟩ .first (seconds 1)).afterInDoubles planned
  have plans : KeepsUsage opened (planOnGpu 20) :=
    ⟨trivial, fun _ activates => activates.elim, fun _ _ releases => releases.elim⟩
  have onGpu : (∀ r ∈ planned.reservations.map.entries,
        r.budget = ⟨2⟩ ∧ r.requestedPower = Watts.clamped 20) ∧
      ∀ r ∈ reserved.reservations.map.entries,
        r.budget = ⟨2⟩ ∧ r.requestedPower = Watts.clamped 20 := by
    constructor <;> decide +kernel
  have reserves : KeepsUsage planned (.reserve ⟨1⟩ .first (seconds 1)) := by
    refine ⟨fun r found _ => ?_, fun _ activates => activates.elim,
      fun _ _ releases => releases.elim⟩
    obtain ⟨budget, power⟩ := onGpu.1 r (Keyed.mem_of_find? found)
    rw [budget, power]
    constructor <;> decide +kernel
  have activates : KeepsUsage reserved (.activate ⟨1⟩ .first (seconds 1)) := by
    refine ⟨fun r found _ => ?_, fun r activates => .inr ?_, fun _ _ releases => releases.elim⟩
    · obtain ⟨budget, power⟩ := onGpu.2 r (Keyed.mem_of_find? found)
      rw [budget, power]
      constructor <;> decide +kernel
    · have same : reserved = (ReservationCall.reserve ⟨1⟩ .first (seconds 1)).after planned :=
        ReservationCall.afterInDoubles_of_exact BudgetManager.twoLevels_acyclic reserves.exactly
      have effect := ReservationCall.effect planned (.reserve ⟨1⟩ .first (seconds 1))
      rw [(onGpu.2 r (Keyed.mem_of_find? activates.found)).1, same]
      exact BudgetManager.covers_congr effect.parentOf effect.has twoLevels_covers_gpu
  have first : (lifecycleRuns KeepsUsage).Reachable planned :=
    .step _ (.start opened_initial) ⟨plans, rfl⟩
  have second : (lifecycleRuns KeepsUsage).Reachable reserved :=
    .step _ first ⟨reserves, rfl⟩
  exact (used_eq_active (.step _ second ⟨activates, rfl⟩)).1

/-- Two reservations of 20 W: the first is active when the second is released
before its activation. -/
def releasedUnused : Books :=
  opened.runInDoubles [planOnGpu 20, planOnGpu 20, .reserve ⟨1⟩ .first (seconds 1),
    .reserve ⟨2⟩ .first (seconds 1), .activate ⟨1⟩ .first (seconds 1),
    .release ⟨2⟩ .first (seconds 1)]

/-- The second release takes the usage of the first reservation away. -/
theorem used_stolen_by_release :
    ¬ ∀ s, (lifecycleRuns fun _ _ => True).Reachable s → s.LedgerExact .used := by
  intro exact
  have reached : (lifecycleRuns fun _ _ => True).Reachable releasedUnused :=
    reachable_run (.start opened_initial) _
  have gpu : releasedUnused.budgets.state? ⟨2⟩ =
      some ⟨BudgetManager.gpuBudget, Watts.clamped 20, Watts.zero⟩ := by decide +kernel
  have active : ∃ r, releasedUnused.reservations.find? ⟨1⟩ = some r ∧ r.state = .active ∧
      r.budget = ⟨2⟩ ∧ r.reservedPower = Watts.clamped 20 := by
    refine ⟨(releasedUnused.reservations.find? ⟨1⟩).getD .blank, ?_⟩
    decide +kernel
  obtain ⟨r, found, state, budget, power⟩ := active
  have own : r.attributed releasedUnused.budgets .used ⟨2⟩ = 20 := by
    have inside : releasedUnused.budgets.InSubtree r.budget ⟨2⟩ := by
      rw [budget]
      exact .refl
    rw [Reservation.attributed, if_pos ⟨by rw [state]; rfl, inside⟩, power]
    norm_num
  have least :
      r.attributed releasedUnused.budgets .used ⟨2⟩ ≤ releasedUnused.attributed .used ⟨2⟩ :=
    Keyed.weight_le_total found fun u => by
      unfold Reservation.attributed
      split
      · exact u.reservedPower.nonneg
      · exact le_refl 0
  have ledger := exact releasedUnused reached ⟨2⟩ _ gpu
  rw [own, ← ledger] at least
  norm_num [BudgetState.get] at least

end PowerGovernor
