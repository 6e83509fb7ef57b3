import PowerGovernor.Governor.Run
import PowerGovernor.Reservation.Effect
import PowerGovernor.Reservation.Identity

/-!
The reservation operations of a Governor as lifecycle calls.

Owns the books a Governor works on, the lifecycle call behind each of its
reservation operations, and the theorem that such an operation does to the books
what the call does, and nothing to the rest of the Governor but its index.
-/

set_option autoImplicit false

namespace PowerGovernor

namespace Governor

/-- The reservations, the budgets and the allocators. -/
def books (g : Governor) : Books := ⟨g.reservations, g.budgets, g.ids⟩

theorem books_settle {α : Type} (g : Governor) (first : Except Fault α) (next : α → Governor)
    (id : ReservationId) (state : ReservationState) (result : α → ReservationResult) :
    (g.settle (first >>= fun a => Except.ok ((next a).finish id state (result a)))).books =
      match first >>= fun a => Except.ok (result a, (next a).books) with
      | .ok (_, seen) => seen
      | .error _ => g.books := by
  cases first with
  | error fault => rfl
  | ok a => exact view_finish books (fun _ _ => rfl) (next a) id state (result a)

/-- A plan under an id no reservation has is accepted and adds the reservation. -/
theorem planReservation_fresh {g : Governor}
    (fresh : g.reservations.find? ⟨g.ids.reservation⟩ = none) (workload : WorkloadId)
    (powerClass : WorkloadPowerClass) (scope : PowerDomainId) (budget : BudgetId) (power : Watts)
    (energy : Joules) (policyGen : PolicyGeneration) (deviceGen : DeviceGeneration)
    (now : Timestamp) (validity : Duration) :
    ∃ g', g.planReservation workload powerClass scope budget power energy policyGen deviceGen now
        validity = (g', ⟨true, "planned", ⟨g.ids.reservation⟩⟩) ∧
      g'.books = ⟨⟨g.reservations.map.emplace (ReservationManager.planned ⟨g.ids.reservation⟩
        workload powerClass scope budget power energy policyGen deviceGen g.authority.envelope now
        validity)⟩, g.budgets, g.ids.allocateReservation.2⟩ := by
  unfold planReservation
  rw [ReservationManager.plan_of_free fresh]
  exact ⟨_, rfl, rfl⟩

/-- An operation that ends in `finish` returns what its lifecycle call returns, and
leaves the same books. -/
theorem finish_returns {α : Type} {first : Except Fault α} {next : α → Governor}
    {id : ReservationId} {state : ReservationState} {result : α → ReservationResult}
    {outcome : ReservationResult} {left : Books}
    (returned : (first >>= fun a => Except.ok (result a, (next a).books)) =
      .ok (outcome, left)) :
    ∃ g', (first >>= fun a => Except.ok ((next a).finish id state (result a))) =
      .ok (g', outcome) ∧ g'.books = left := by
  obtain ⟨a, ended, made⟩ := bind_eq_ok.mp returned
  obtain ⟨rfl, rfl⟩ := Prod.mk.inj (Except.ok.inj made)
  have result_eq := finish_result (next a) id state (result a)
  refine ⟨((next a).finish id state (result a)).1, ?_,
    view_finish books (fun _ _ => rfl) (next a) id state (result a)⟩
  rw [ended]
  exact congrArg (fun last => Except.ok (((next a).finish id state (result a)).1, last)) result_eq

/-- It returns nothing else. -/
theorem exec_of_finish {α : Type} {first : Except Fault α} {next : α → Governor}
    {id : ReservationId} {state : ReservationState} {result : α → ReservationResult}
    {outcome : ReservationResult} {g' : Governor}
    (returned : (first >>= fun a => Except.ok ((next a).finish id state (result a))) =
      .ok (g', outcome)) :
    ∃ left, (first >>= fun a => Except.ok (result a, (next a).books)) = .ok (outcome, left) ∧
      g'.books = left := by
  obtain ⟨a, ended, finished⟩ := bind_eq_ok.mp returned
  have finished := Except.ok.inj finished
  obtain rfl : result a = outcome :=
    (finish_result _ _ _ _).symm.trans (congrArg Prod.snd finished)
  refine ⟨(next a).books, bind_eq_ok.mpr ⟨a, ended, rfl⟩, ?_⟩
  exact (congrArg (fun both => both.1.books) finished).symm.trans
    (view_finish books (fun _ _ => rfl) (next a) id state (result a))

section Returns

variable {g g' : Governor} {id : ReservationId} {budgetGen : BudgetGeneration} {now : Timestamp}
  {result : ReservationResult} {left : Books}

theorem validateReservation_returns {policyGen : PolicyGeneration}
    (returned : ReservationCall.exec g.books (.validate id policyGen) = .ok (result, left)) :
    ∃ g', g.validateReservation id policyGen = .ok (g', result) ∧ g'.books = left :=
  finish_returns returned

theorem reserveReservation_returns
    (returned : ReservationCall.exec g.books (.reserve id budgetGen now) = .ok (result, left)) :
    ∃ g', g.reserveReservation id budgetGen now = .ok (g', result) ∧ g'.books = left :=
  finish_returns returned

theorem activateReservation_returns
    (returned : ReservationCall.exec g.books (.activate id budgetGen now) = .ok (result, left)) :
    ∃ g', g.activateReservation id budgetGen now = .ok (g', result) ∧ g'.books = left :=
  finish_returns returned

theorem releaseReservation_returns
    (returned : ReservationCall.exec g.books (.release id budgetGen now) = .ok (result, left)) :
    ∃ g', g.releaseReservation id budgetGen now = .ok (g', result) ∧ g'.books = left :=
  finish_returns returned

theorem exec_of_reserveReservation
    (returned : g.reserveReservation id budgetGen now = .ok (g', result)) :
    ∃ left, ReservationCall.exec g.books (.reserve id budgetGen now) = .ok (result, left) ∧
      g'.books = left := exec_of_finish returned

theorem exec_of_admitReservation
    (returned : g.admitReservation id now = .ok (g', result)) :
    ∃ left, ReservationCall.exec g.books (.admitReservation id now) = .ok (result, left) ∧
      g'.books = left := exec_of_finish returned

theorem exec_of_activateReservation
    (returned : g.activateReservation id budgetGen now = .ok (g', result)) :
    ∃ left, ReservationCall.exec g.books (.activate id budgetGen now) = .ok (result, left) ∧
      g'.books = left := exec_of_finish returned

theorem exec_of_releaseReservation
    (returned : g.releaseReservation id budgetGen now = .ok (g', result)) :
    ∃ left, ReservationCall.exec g.books (.release id budgetGen now) = .ok (result, left) ∧
      g'.books = left := exec_of_finish returned

end Returns

/-- What no reservation operation changes. -/
def surroundings (g : Governor) :
    GovernorConfig × AuthorityGate × PowerPolicy × Option DeviceState :=
  (g.cfg, g.authority, g.policy, g.device)

theorem surroundings_settle {α : Type} {g : Governor} {first : Except Fault α}
    {next : α → Governor} {id : ReservationId} {state : ReservationState}
    {result : α → ReservationResult} (same : ∀ a, (next a).surroundings = g.surroundings) :
    (g.settle (first >>= fun a =>
      Except.ok ((next a).finish id state (result a)))).surroundings = g.surroundings :=
  view_settle surroundings (fun _ _ => rfl) same

end Governor

namespace GovernorCall

/-- The lifecycle call behind a reservation operation. -/
def lifecycle (g : Governor) : GovernorCall → Option ReservationCall
  | .planReservation workload powerClass scope budget power energy policyGen deviceGen now
      validity =>
    some (.plan workload powerClass scope budget power energy policyGen deviceGen
      g.authority.envelope now validity)
  | .validateReservation id policyGen => some (.validate id policyGen)
  | .reserveReservation id budgetGen now => some (.reserve id budgetGen now)
  | .admitReservation id now => some (.admitReservation id now)
  | .activateReservation id budgetGen now => some (.activate id budgetGen now)
  | .releaseReservation id budgetGen now => some (.release id budgetGen now)
  | _ => none

variable {g : Governor} {call : GovernorCall} {lifecycleCall : ReservationCall}

/-- A reservation operation does to the books what its lifecycle call does. -/
theorem books_after (is : call.lifecycle g = some lifecycleCall) :
    (call.after g).books = lifecycleCall.after g.books := by
  cases call with
  | planReservation workload powerClass scope budget power energy policyGen deviceGen now
      validity =>
      obtain rfl := Option.some.inj is
      show (g.planReservation _ _ _ _ _ _ _ _ _ _).1.books = _
      unfold Governor.planReservation ReservationCall.after
      dsimp only [ReservationCall.exec]
      split <;> rfl
  | validateReservation id policyGen =>
      obtain rfl := Option.some.inj is
      exact Governor.books_settle g _ _ id _ _
  | reserveReservation id budgetGen now =>
      obtain rfl := Option.some.inj is
      exact Governor.books_settle g _ _ id _ _
  | admitReservation id now =>
      obtain rfl := Option.some.inj is
      exact Governor.books_settle g _ _ id _ _
  | activateReservation id budgetGen now =>
      obtain rfl := Option.some.inj is
      exact Governor.books_settle g _ _ id _ _
  | releaseReservation id budgetGen now =>
      obtain rfl := Option.some.inj is
      exact Governor.books_settle g _ _ id _ _
  | _ => cases is

/-- It does nothing to the rest. -/
theorem surroundings_after (is : call.lifecycle g = some lifecycleCall) :
    (call.after g).surroundings = g.surroundings := by
  cases call with
  | planReservation workload powerClass scope budget power energy policyGen deviceGen now
      validity =>
      show (g.planReservation _ _ _ _ _ _ _ _ _ _).1.surroundings = _
      unfold Governor.planReservation
      dsimp only
      split <;> rfl
  | validateReservation => exact Governor.surroundings_settle fun _ => rfl
  | reserveReservation => exact Governor.surroundings_settle fun _ => rfl
  | admitReservation => exact Governor.surroundings_settle fun _ => rfl
  | activateReservation => exact Governor.surroundings_settle fun _ => rfl
  | releaseReservation => exact Governor.surroundings_settle fun _ => rfl
  | _ => cases is

/-- No call but a load loses a reservation, changes its terms or moves it back. -/
theorem forward_after (saved : ∀ file now, call ≠ .load file now) {id : ReservationId}
    {r : Reservation} (found : g.reservations.find? id = some r) :
    ∃ r', (call.after g).reservations.find? id = some r' ∧ r.state.Forward r'.state ∧
      r'.asPlanned = r.asPlanned := by
  have lifecycle : ∀ lifecycleCall, call.lifecycle g = some lifecycleCall →
      ∃ r', (call.after g).reservations.find? id = some r' ∧ r.state.Forward r'.state ∧
        r'.asPlanned = r.asPlanned := by
    intro lifecycleCall is
    have books : (call.after g).reservations = (lifecycleCall.after g.books).reservations :=
      congrArg Books.reservations (books_after is)
    rw [books]
    exact lifecycleCall.forward_after found
  have kept : (call.after g).reservations = g.reservations →
      ∃ r', (call.after g).reservations.find? id = some r' ∧ r.state.Forward r'.state ∧
        r'.asPlanned = r.asPlanned := by
    intro same
    rw [same]
    exact ⟨r, found, .inl rfl, rfl⟩
  cases call with
  | load file now => exact absurd rfl (saved file now)
  | installPolicy p =>
      apply kept
      show (g.installPolicy p).1.reservations = g.reservations
      rcases g.installPolicy_cases p with ⟨_, installed⟩ | ⟨_, refused⟩
      · rw [installed]
      · rw [refused]
  | observeBackend sample now =>
      obtain ⟨generation, left⟩ := Governor.observeBackend_leaves sample now g
      have same := congrArg Governor.reservations left
      exact kept same
  | decideFor budget workload cls requested requestedEnergy duration now =>
      obtain ⟨burst, engine, ids, _, left⟩ :=
        Governor.decideFor_leaves budget workload cls requested requestedEnergy duration now g
      have same := congrArg Governor.reservations left
      exact kept same
  | installBudget | budgetManager | accountEnergy | resetHysteresis | invalidateLiveTelemetry =>
      exact kept rfl
  | _ => exact lifecycle _ rfl

end GovernorCall

end PowerGovernor
