import PowerGovernor.Library.Transition
import PowerGovernor.Reservation.Effect
import PowerGovernor.Reservation.Identity

/-!
The lifecycle of a reservation over runs.

Owns the budget calls a lifecycle call makes, the operations of
`ReservationManager` with whatever budgets and allocators each is given, and the
proof that in every run a step changes at most the reservation it names, states
only move forward, and each reservation moves power at most once in each way.
-/

set_option autoImplicit false

namespace PowerGovernor

/-! ## The budget calls of a lifecycle call -/

/-- The three calls of the budget interface a reservation may make once. -/
inductive PowerMove where
  | reserve | activate | release
deriving DecidableEq, Repr

namespace PowerMove

/-- The state a reservation has reached once the move is made. -/
def reached : PowerMove → ReservationState
  | .reserve => .reserved
  | .activate => .active
  | .release => .released

end PowerMove

namespace BudgetCall

/-- The move a call makes, and the reservation it makes it for. -/
def move? : BudgetCall → Option (PowerMove × ReservationId)
  | .reserve _ _ rid _ => some (.reserve, rid)
  | .activate _ _ rid _ => some (.activate, rid)
  | .release _ _ rid _ => some (.release, rid)
  | .install _ | .deactivate .. => none

/-- The budgets after some calls. -/
def run (m : BudgetManager) (calls : List BudgetCall) : BudgetManager :=
  calls.foldl (fun m call => (call.exec m).1) m

/-- The moves of those calls that return `true`. -/
def moves (m : BudgetManager) : List BudgetCall → List (PowerMove × ReservationId)
  | [] => []
  | call :: rest =>
    let later := moves (call.exec m).1 rest
    if (call.exec m).2 then call.move?.toList ++ later else later

end BudgetCall

namespace ReservationCall

/-- The calls a lifecycle call makes on the budgets, in order. -/
def budgetCalls (s : Books) : ReservationCall → List BudgetCall
  | .reserve id budgetGen now =>
    match s.reservations.find? id with
    | none => []
    | some r =>
      if r.state ≠ .validated ∧ r.state ≠ .planned then []
      else if r.expired now = .ok false then
        [.reserve r.budget r.requestedPower id budgetGen]
      else []
  | .activate id budgetGen now =>
    match s.reservations.find? id with
    | none => []
    | some r =>
      if r.state ≠ .admitted ∧ r.state ≠ .reserved then []
      else if r.expired now = .ok false ∧ r.budgetGeneration = budgetGen then
        [.activate r.budget r.requestedPower id budgetGen]
      else []
  | .release id budgetGen _ =>
    match s.reservations.find? id with
    | none => []
    | some r =>
      if r.state = .released ∨ r.state = .expired ∨
        (r.budgetGeneration.isNull ∧ (r.state = .admitted ∨ r.state = .active)) then []
      else
        .release r.budget r.reservedPower id budgetGen ::
          if (s.budgets.release r.budget r.reservedPower id budgetGen).2 ∧ r.state.holds then
            [.deactivate r.budget r.reservedPower id budgetGen]
          else []
  | .plan .. | .validate .. | .admitReservation .. | .accountEnergy .. => []

variable {s : Books}

/-- The call is one of the three that move power. -/
def movesPower : ReservationCall → Bool
  | .reserve .. | .activate .. | .release .. => true
  | .plan .. | .validate .. | .admitReservation .. | .accountEnergy .. => false

/-- The call returns a result that is accepted. -/
def Succeeds (s : Books) (call : ReservationCall) : Prop :=
  ∃ result s', call.exec s = .ok (result, s') ∧ result.ok = true

/-- A lifecycle call makes these budget calls: they lead to the budgets it
leaves behind, one of them moves power exactly when a call that moves power
succeeds, and a move that is made finds the reservation the call names short of
the state it ends in. -/
structure Makes (s : Books) (call : ReservationCall) : Prop where
  budgets : (call.after s).budgets = BudgetCall.run s.budgets (call.budgetCalls s)
  once : (BudgetCall.moves s.budgets (call.budgetCalls s)).length ≤ 1
  succeeds : BudgetCall.moves s.budgets (call.budgetCalls s) ≠ [] ↔
    call.movesPower = true ∧ Succeeds s call
  advances : ∀ move id, (move, id) ∈ BudgetCall.moves s.budgets (call.budgetCalls s) →
    id = call.named s ∧ (∃ r, s.reservations.find? id = some r ∧
      r.state.progress < move.reached.progress) ∧
    ∃ r, (call.after s).reservations.find? id = some r ∧ r.state = move.reached

/-- The call throws, or is refused and leaves the budgets alone. -/
def Declined (s : Books) (call : ReservationCall) : Prop :=
  (∃ fault, call.exec s = .error fault) ∨
    ∃ reason s', call.exec s = .ok (.refused reason, s') ∧ s'.budgets = s.budgets

namespace Declined

variable {call : ReservationCall}

theorem budgets (declined : Declined s call) : (call.after s).budgets = s.budgets := by
  unfold after
  rcases declined with ⟨fault, thrown⟩ | ⟨reason, s', refused, kept⟩
  · rw [thrown]
  · rw [refused]
    exact kept

theorem not_succeeds (declined : Declined s call) : ¬ Succeeds s call := by
  rintro ⟨result, s', returned, accepted⟩
  rcases declined with ⟨fault, thrown⟩ | ⟨reason, s'', refused, _⟩
  · rw [thrown] at returned
    cases returned
  · rw [refused] at returned
    cases returned
    cases accepted

end Declined

namespace Makes

variable {call : ReservationCall}

/-- A call that lists no budget call. -/
theorem nothing (calls : call.budgetCalls s = []) (kept : (call.after s).budgets = s.budgets)
    (idle : ¬ (call.movesPower = true ∧ Succeeds s call)) : Makes s call where
  budgets := by
    rw [calls, kept]
    rfl
  once := by simp [calls, BudgetCall.moves]
  succeeds := by simpa [calls, BudgetCall.moves] using idle
  advances := by simp [calls, BudgetCall.moves]

/-- A declined call made no budget call, or one that is refused. -/
theorem declined (declined : Declined s call)
    (calls : call.budgetCalls s = [] ∨ ∃ first, call.budgetCalls s = [first] ∧
      first.exec s.budgets = (s.budgets, false)) : Makes s call := by
  have idle : ¬ (call.movesPower = true ∧ Succeeds s call) :=
    fun ⟨_, succeeds⟩ => declined.not_succeeds succeeds
  rcases calls with calls | ⟨first, calls, refused⟩
  · exact .nothing calls declined.budgets idle
  · exact {
      budgets := by simp [calls, declined.budgets, BudgetCall.run, refused]
      once := by simp [calls, BudgetCall.moves, refused]
      succeeds := by simpa [calls, BudgetCall.moves, refused] using idle
      advances := by simp [calls, BudgetCall.moves, refused] }

/-- A call whose first budget call is granted and moves power; the others move
none. -/
theorem moved {first : BudgetCall} {rest : List BudgetCall} {move : PowerMove}
    {r r' : Reservation} {reason : String} {s' : Books}
    (powerful : call.movesPower = true) (calls : call.budgetCalls s = first :: rest)
    (granted : (first.exec s.budgets).2 = true) (makes : first.move? = some (move, call.named s))
    (quiet : BudgetCall.moves (first.exec s.budgets).1 rest = [])
    (returned : call.exec s = .ok (.accepted reason, s'))
    (budgets : s'.budgets = BudgetCall.run (first.exec s.budgets).1 rest)
    (found : s.reservations.find? (call.named s) = some r)
    (short : r.state.progress < move.reached.progress)
    (foundAfter : s'.reservations.find? (call.named s) = some r')
    (reached : r'.state = move.reached) : Makes s call := by
  have moves : BudgetCall.moves s.budgets (call.budgetCalls s) = [(move, call.named s)] := by
    simp [calls, BudgetCall.moves, granted, makes, quiet]
  have left : call.after s = s' := by rw [after, returned]
  refine ⟨?_, by rw [moves]; exact le_refl 1, ?_, fun other id member => ?_⟩
  · rw [calls, left, budgets]
    rfl
  · rw [moves]
    exact iff_of_true (List.cons_ne_nil _ _) ⟨powerful, _, s', returned, rfl⟩
  · rw [moves, List.mem_singleton] at member
    obtain ⟨rfl, rfl⟩ := Prod.mk.inj member
    exact ⟨rfl, ⟨r, found, short⟩, r', left ▸ foundAfter, reached⟩

end Makes

end ReservationCall

/-! ## The operations on a reservation that is found -/

namespace ReservationManager

variable {rm : ReservationManager} {bm : BudgetManager} {id : ReservationId} {r : Reservation}
  {budgetGen : BudgetGeneration} {now : Timestamp}

theorem reserve_alive (found : rm.find? id = some r)
    (reservable : ¬ (r.state ≠ .validated ∧ r.state ≠ .planned))
    (alive : r.expired now = .ok false) :
    rm.reserve id bm budgetGen now =
      let (budgets, ok) := bm.reserve r.budget r.requestedPower id budgetGen
      if ok then
        .ok (.accepted "reserved",
          rm.write id (.reservedUnder budgetGen) (Reservation.reservedUnder_id budgetGen), budgets)
      else
        .ok (.refused "budget reserve failed (capacity/generation/authority)", rm, budgets) := by
  unfold reserve
  rw [mutableGet_eq_ok.mpr found]
  simp only [bind, Except.bind, if_neg reservable, alive, Bool.false_eq_true, if_false]
  cases (bm.reserve r.budget r.requestedPower id budgetGen).2 <;> rfl

theorem activate_alive (found : rm.find? id = some r)
    (activatable : ¬ (r.state ≠ .admitted ∧ r.state ≠ .reserved))
    (alive : r.expired now = .ok false) (current : r.budgetGeneration = budgetGen) :
    rm.activate id bm budgetGen now =
      let (budgets, ok) := bm.activate r.budget r.requestedPower id budgetGen
      if ok then
        .ok (.accepted "active",
          rm.write id (.activeFrom now) (Reservation.activeFrom_id now), budgets)
      else
        .ok (.refused "budget activate failed", rm, budgets) := by
  unfold activate
  rw [mutableGet_eq_ok.mpr found]
  simp only [bind, Except.bind, if_neg activatable, alive, Bool.false_eq_true, if_false,
    if_neg (not_not.mpr current)]
  cases (bm.activate r.budget r.requestedPower id budgetGen).2 <;> rfl

/-- A reservation that has not expired is activated if it waits for it under this
generation and its budget is bookable, and refused otherwise. -/
theorem activate_accepts_iff (found : rm.find? id = some r) (alive : r.expired now = .ok false) :
    ∃ result rm' bm', rm.activate id bm budgetGen now = .ok (result, rm', bm') ∧
      (result.ok = true ↔ (r.state = .reserved ∨ r.state = .admitted) ∧
        r.budgetGeneration = budgetGen ∧
          bm.Bookable false r.budget r.requestedPower budgetGen) := by
  by_cases activatable : r.state ≠ .admitted ∧ r.state ≠ .reserved
  · refine ⟨.refused "stale activation: reservation not admitted", rm, bm, ?_, ?_⟩
    · unfold activate
      rw [mutableGet_eq_ok.mpr found]
      exact if_pos activatable
    · exact iff_of_false Bool.false_ne_true
        fun waits => waits.1.elim activatable.2 activatable.1
  by_cases current : r.budgetGeneration = budgetGen
  · have waits : r.state = .reserved ∨ r.state = .admitted := by
      rcases not_and_or.mp activatable with admitted | reserved
      · exact .inr (not_not.mp admitted)
      · exact .inl (not_not.mp reserved)
    rw [activate_alive found activatable alive current]
    rcases BudgetManager.book_cases .used false bm r.budget r.requestedPower budgetGen with
      ⟨booked, unbookable⟩ | ⟨booked, bookable⟩
    · rw [BudgetManager.activate, booked]
      exact ⟨_, _, _, rfl, iff_of_false Bool.false_ne_true
        fun others => unbookable others.2.2⟩
    · rw [BudgetManager.activate, booked]
      exact ⟨_, _, _, rfl, iff_of_true rfl ⟨waits, current, bookable⟩⟩
  · refine ⟨.refused "stale activation: budget generation changed", rm, bm, ?_, ?_⟩
    · unfold activate
      rw [mutableGet_eq_ok.mpr found]
      simp only [bind, Except.bind, if_neg activatable, alive, Bool.false_eq_true, if_false,
        if_pos current]
    · exact iff_of_false Bool.false_ne_true fun others => current others.2.1

theorem release_pending (found : rm.find? id = some r)
    (pending : ¬ (r.state = .released ∨ r.state = .expired ∨
      (r.budgetGeneration.isNull ∧ (r.state = .admitted ∨ r.state = .active)))) :
    rm.release id bm budgetGen now =
      let (budgets, released) := bm.release r.budget r.reservedPower id budgetGen
      if released then
        .ok (.accepted "released",
          rm.write id (.releasedFrom now) (Reservation.releasedFrom_id now),
          if r.state = .active ∨ r.state = .admitted ∨ r.state = .reserved then
            (budgets.deactivate r.budget r.reservedPower id budgetGen).1
          else budgets)
      else
        .ok (.refused "budget release failed (over-release/stale generation)", rm, budgets) := by
  obtain ⟨notReleased, others⟩ := not_or.mp pending
  obtain ⟨notExpired, known⟩ := not_or.mp others
  unfold release
  rw [mutableGet_eq_ok.mpr found]
  simp only [bind, Except.bind, if_neg notReleased, if_neg notExpired, if_neg known]
  cases (bm.release r.budget r.reservedPower id budgetGen).2 <;> rfl

theorem release_ended (found : rm.find? id = some r)
    (ended : r.state = .released ∨ r.state = .expired ∨
      (r.budgetGeneration.isNull ∧ (r.state = .admitted ∨ r.state = .active))) :
    ∃ reason, rm.release id bm budgetGen now = .ok (.refused reason, rm, bm) := by
  unfold release
  rw [mutableGet_eq_ok.mpr found]
  simp only [bind, Except.bind]
  by_cases released : r.state = .released
  · exact ⟨_, if_pos released⟩
  by_cases expired : r.state = .expired
  · rw [if_neg released, if_pos expired]
    exact ⟨_, rfl⟩
  · have unknown := (ended.resolve_left released).resolve_left expired
    rw [if_neg released, if_neg expired, if_pos unknown]
    exact ⟨_, rfl⟩

end ReservationManager

namespace ReservationCall

variable {s : Books} {id : ReservationId} {budgetGen : BudgetGeneration} {now : Timestamp}

/-- A planned reservation is validated under its policy generation. -/
theorem exec_validate {policyGen : PolicyGeneration} {r : Reservation}
    (found : s.reservations.find? id = some r) (planned : r.state = .planned)
    (current : r.policyGeneration = policyGen) :
    exec s (.validate id policyGen) = .ok (.accepted "validated",
      s.write id (fun r => { r with state := .validated }) (fun _ => rfl) s.budgets) := by
  have got := ReservationManager.mutableGet_eq_ok.mpr found
  simp only [exec, ReservationManager.validate, got, bind, Except.bind,
    if_neg (not_not.mpr planned), if_neg (not_not.mpr current)]
  rfl

/-- A reservation is reserved when its budget is bookable. -/
theorem exec_reserve {r : Reservation} (found : s.reservations.find? id = some r)
    (reservable : ¬ (r.state ≠ .validated ∧ r.state ≠ .planned))
    (alive : r.expired now = .ok false)
    (bookable : s.budgets.Bookable true r.budget r.requestedPower budgetGen) :
    exec s (.reserve id budgetGen now) = .ok (.accepted "reserved",
      s.write id (.reservedUnder budgetGen) (Reservation.reservedUnder_id budgetGen)
        (s.budgets.adjustChain .reserved r.requestedPower.value (s.budgets.chain r.budget))) := by
  have ended : s.reservations.reserve id s.budgets budgetGen now = _ :=
    ReservationManager.reserve_alive found reservable alive
  rcases BudgetManager.book_cases .reserved true s.budgets r.budget r.requestedPower budgetGen with
    ⟨_, refused⟩ | ⟨granted, _⟩
  · exact absurd bookable refused
  · simp only [exec, ended, BudgetManager.reserve, granted, bind, Except.bind, if_true]
    rfl

/-- A call that reserves is accepted. -/
theorem exec_of_reserves {gen : BudgetGeneration} {r : Reservation}
    (reserves : Reserves s (.reserve id budgetGen now) r gen) :
    ∃ left, exec s (.reserve id budgetGen now) = .ok (.accepted "reserved", left) := by
  obtain ⟨rfl, found, early, alive, bookable⟩ := reserves
  have reservable : ¬ (r.state ≠ .validated ∧ r.state ≠ .planned) :=
    fun both => early.elim both.2 both.1
  exact ⟨_, exec_reserve found reservable alive bookable⟩

/-- A reservation is activated when its budget is bookable. -/
theorem exec_activate {r : Reservation} (found : s.reservations.find? id = some r)
    (activatable : ¬ (r.state ≠ .admitted ∧ r.state ≠ .reserved))
    (alive : r.expired now = .ok false) (current : r.budgetGeneration = budgetGen)
    (bookable : s.budgets.Bookable false r.budget r.requestedPower budgetGen) :
    exec s (.activate id budgetGen now) = .ok (.accepted "active",
      s.write id (.activeFrom now) (Reservation.activeFrom_id now)
        (s.budgets.adjustChain .used r.requestedPower.value (s.budgets.chain r.budget))) := by
  have ended : s.reservations.activate id s.budgets budgetGen now = _ :=
    ReservationManager.activate_alive found activatable alive current
  rcases BudgetManager.book_cases .used false s.budgets r.budget r.requestedPower budgetGen with
    ⟨_, refused⟩ | ⟨granted, _⟩
  · exact absurd bookable refused
  · simp only [exec, ended, BudgetManager.activate, granted, bind, Except.bind, if_true]
    rfl

/-- A reservation is released when its power can be returned. -/
theorem exec_release {r : Reservation} (found : s.reservations.find? id = some r)
    (pending : ¬ (r.state = .released ∨ r.state = .expired ∨
      (r.budgetGeneration.isNull ∧ (r.state = .admitted ∨ r.state = .active))))
    (returnable : s.budgets.Returnable .reserved r.budget r.reservedPower budgetGen) :
    exec s (.release id budgetGen now) = .ok (.accepted "released",
      s.write id (.releasedFrom now) (Reservation.releasedFrom_id now)
        (s.returned r budgetGen)) := by
  have ended : s.reservations.release id s.budgets budgetGen now = _ :=
    ReservationManager.release_pending found pending
  obtain rfl : r.id = id := Keyed.key_of_find? found
  rcases BudgetManager.unbook_cases .reserved s.budgets r.budget r.reservedPower budgetGen with
    ⟨_, refused⟩ | ⟨granted, _⟩
  · exact absurd returnable refused
  · simp only [exec, ended, BudgetManager.release, granted, bind, Except.bind, if_true]
    rfl

theorem makes_reserve : Makes s (.reserve id budgetGen now) := by
  cases found : s.reservations.find? id with
  | none =>
      refine .declined (.inl ⟨.outOfRange "pg: unknown reservation id", ?_⟩)
        (.inl (by simp [budgetCalls, found]))
      simp [exec, ReservationManager.reserve, ReservationManager.mutableGet, found,
        bind, Except.bind]
  | some r =>
      by_cases late : r.state ≠ .validated ∧ r.state ≠ .planned
      · refine .declined (.inr
            ⟨"reservation not reservable (already reserved/active/released)", s, ?_, rfl⟩)
          (.inl (by simp [budgetCalls, found, late]))
        simp only [exec, ReservationManager.reserve, ReservationManager.mutableGet, found,
          bind, Except.bind, if_pos late]
      by_cases alive : r.expired now = .ok false
      · have calls : budgetCalls s (.reserve id budgetGen now) =
            [.reserve r.budget r.requestedPower id budgetGen] := by
          simp only [budgetCalls, found]
          rw [if_neg late, if_pos alive]
        rcases BudgetManager.book_cases .reserved true s.budgets r.budget r.requestedPower
          budgetGen with ⟨refused, _⟩ | ⟨granted, bookable⟩
        · have ended : s.reservations.reserve id s.budgets budgetGen now = _ :=
            ReservationManager.reserve_alive found late alive
          refine .declined
            (.inr ⟨"budget reserve failed (capacity/generation/authority)", s, ?_, rfl⟩)
            (.inr ⟨_, calls, refused⟩)
          simp only [exec, ended, BudgetManager.reserve, refused, bind, Except.bind,
            Bool.false_eq_true, if_false]
        · have early : r.state.progress < PowerMove.reserve.reached.progress := by
            cases planned : r.state <;> simp [planned] at late <;> decide
          exact .moved rfl calls (congrArg Prod.snd granted) rfl rfl
            (exec_reserve found late alive bookable) (congrArg Prod.fst granted).symm found early
            (Books.find?_write_self found) rfl
      · refine .declined ?_ (.inl (by simp [budgetCalls, found, alive]))
        cases expired : r.expired now with
        | error fault =>
            refine .inl ⟨fault, ?_⟩
            simp only [exec, ReservationManager.reserve, ReservationManager.mutableGet, found,
              bind, Except.bind, if_neg late, expired]
        | ok past =>
            cases past with
            | false => exact absurd expired alive
            | true =>
                refine .inr ⟨"reservation expired",
                  { s with reservations := s.reservations.setState id .expired }, ?_, rfl⟩
                simp only [exec, ReservationManager.reserve, ReservationManager.mutableGet, found,
                  bind, Except.bind, if_neg late, expired, if_true]

theorem makes_activate : Makes s (.activate id budgetGen now) := by
  cases found : s.reservations.find? id with
  | none =>
      refine .declined (.inl ⟨.outOfRange "pg: unknown reservation id", ?_⟩)
        (.inl (by simp [budgetCalls, found]))
      simp [exec, ReservationManager.activate, ReservationManager.mutableGet, found,
        bind, Except.bind]
  | some r =>
      by_cases inactive : r.state ≠ .admitted ∧ r.state ≠ .reserved
      · refine .declined (.inr ⟨"stale activation: reservation not admitted", s, ?_, rfl⟩)
          (.inl (by simp [budgetCalls, found, inactive]))
        simp only [exec, ReservationManager.activate, ReservationManager.mutableGet, found,
          bind, Except.bind, if_pos inactive]
      by_cases alive : r.expired now = .ok false
      · by_cases current : r.budgetGeneration = budgetGen
        · have calls : budgetCalls s (.activate id budgetGen now) =
              [.activate r.budget r.requestedPower id budgetGen] := by
            simp only [budgetCalls, found]
            rw [if_neg inactive, if_pos ⟨alive, current⟩]
          rcases BudgetManager.book_cases .used false s.budgets r.budget r.requestedPower
            budgetGen with ⟨refused, _⟩ | ⟨granted, bookable⟩
          · have ended : s.reservations.activate id s.budgets budgetGen now = _ :=
              ReservationManager.activate_alive found inactive alive current
            refine .declined (.inr ⟨"budget activate failed", s, ?_, rfl⟩)
              (.inr ⟨_, calls, refused⟩)
            simp only [exec, ended, BudgetManager.activate, refused, bind, Except.bind,
              Bool.false_eq_true, if_false]
          · have waiting : r.state.progress < PowerMove.activate.reached.progress := by
              cases held : r.state <;> simp [held] at inactive <;> decide
            exact .moved rfl calls (congrArg Prod.snd granted) rfl rfl
              (exec_activate found inactive alive current bookable)
              (congrArg Prod.fst granted).symm found waiting (Books.find?_write_self found) rfl
        · refine .declined (.inr ⟨"stale activation: budget generation changed", s, ?_, rfl⟩)
            (.inl (by simp [budgetCalls, found, alive, current]))
          simp only [exec, ReservationManager.activate, ReservationManager.mutableGet, found,
            bind, Except.bind, if_neg inactive, alive, Bool.false_eq_true, if_false,
            if_pos current]
      · refine .declined ?_ (.inl (by simp [budgetCalls, found, alive]))
        cases expired : r.expired now with
        | error fault =>
            refine .inl ⟨fault, ?_⟩
            simp only [exec, ReservationManager.activate, ReservationManager.mutableGet, found,
              bind, Except.bind, if_neg inactive, expired]
        | ok past =>
            cases past with
            | false => exact absurd expired alive
            | true =>
                refine .inr ⟨"reservation expired",
                  { s with reservations := s.reservations.setState id .expired }, ?_, rfl⟩
                simp only [exec, ReservationManager.activate, ReservationManager.mutableGet, found,
                  bind, Except.bind, if_neg inactive, expired, if_true]

theorem makes_release : Makes s (.release id budgetGen now) := by
  cases found : s.reservations.find? id with
  | none =>
      refine .declined (.inl ⟨.outOfRange "pg: unknown reservation id", ?_⟩)
        (.inl (by simp [budgetCalls, found]))
      simp [exec, ReservationManager.release, ReservationManager.mutableGet, found,
        bind, Except.bind]
  | some r =>
      by_cases ended : r.state = .released ∨ r.state = .expired ∨
        (r.budgetGeneration.isNull ∧ (r.state = .admitted ∨ r.state = .active))
      · obtain ⟨reason, refused⟩ : ∃ reason, s.reservations.release id s.budgets budgetGen now =
            .ok (.refused reason, s.reservations, s.budgets) :=
          ReservationManager.release_ended found ended
        refine .declined (.inr ⟨reason, s, ?_, rfl⟩)
          (.inl (by simp only [budgetCalls, found, if_pos ended]))
        simp only [exec, refused, bind, Except.bind]
      rcases BudgetManager.unbook_cases .reserved s.budgets r.budget r.reservedPower budgetGen with
        ⟨refused, _⟩ | ⟨granted, returnable⟩
      · have calls : budgetCalls s (.release id budgetGen now) =
            [.release r.budget r.reservedPower id budgetGen] := by
          simp only [budgetCalls, found, if_neg ended, BudgetManager.release, refused]
          rfl
        have outcome : s.reservations.release id s.budgets budgetGen now = _ :=
          ReservationManager.release_pending found ended
        refine .declined
          (.inr ⟨"budget release failed (over-release/stale generation)", s, ?_, rfl⟩)
          (.inr ⟨_, calls, refused⟩)
        simp only [exec, outcome, BudgetManager.release, refused, bind, Except.bind,
          Bool.false_eq_true, if_false]
      · have calls : budgetCalls s (.release id budgetGen now) =
            .release r.budget r.reservedPower id budgetGen ::
              if r.state.holds then [.deactivate r.budget r.reservedPower id budgetGen]
              else [] := by
          simp [budgetCalls, found, if_neg ended, BudgetManager.release, granted]
        have pending : r.state.progress < PowerMove.release.reached.progress := by
          cases held : r.state <;> simp [held] at ended <;> decide
        have budgets : s.returned r budgetGen =
            BudgetCall.run (s.budgets.release r.budget r.reservedPower id budgetGen).1
              (if r.state.holds then [.deactivate r.budget r.reservedPower id budgetGen]
                else []) := by
          rw [BudgetManager.release, granted]
          unfold Books.returned
          cases r.state <;> rfl
        refine .moved rfl calls (congrArg Prod.snd granted) rfl ?_
          (exec_release found ended returnable) budgets found pending
          (Books.find?_write_self found) rfl
        cases r.state.holds <;> simp [BudgetCall.moves, BudgetCall.move?]

/-- Every lifecycle call makes the budget calls listed for it. -/
theorem makes (s : Books) (call : ReservationCall) : Makes s call := by
  have idle : call.movesPower = false → ¬ (call.movesPower = true ∧ Succeeds s call) := by
    rintro quiet ⟨moves, _⟩
    rw [quiet] at moves
    cases moves
  cases call with
  | reserve => exact makes_reserve
  | activate => exact makes_activate
  | release => exact makes_release
  | plan =>
      refine .nothing rfl ?_ (idle rfl)
      unfold after
      dsimp only [exec]
  | validate id policyGen =>
      refine .nothing rfl ?_ (idle rfl)
      unfold after
      dsimp only [exec]
      cases s.reservations.validate id policyGen <;> rfl
  | admitReservation id now =>
      refine .nothing rfl ?_ (idle rfl)
      unfold after
      dsimp only [exec]
      cases s.reservations.admitReservation id now <;> rfl
  | accountEnergy id energy provenance now =>
      refine .nothing rfl ?_ (idle rfl)
      unfold after
      dsimp only [exec]
      cases s.reservations.accountEnergy id energy provenance now <;> rfl

end ReservationCall

/-! ## Runs -/

/-- One operation of `ReservationManager`. A lifecycle call comes with the budgets
and the allocators it is given, which may be others each time. -/
inductive LifecycleOperation where
  | lifecycle (call : ReservationCall) (budgets : BudgetManager) (ids : Allocators)
  | restore (r : Reservation)

namespace LifecycleOperation

/-- The reservations an operation leaves behind. -/
def after (rm : ReservationManager) : LifecycleOperation → ReservationManager
  | .lifecycle call budgets ids => (call.after ⟨rm, budgets, ids⟩).reservations
  | .restore r => (rm.restore r).1

/-- The reservation an operation names. -/
def named (rm : ReservationManager) : LifecycleOperation → ReservationId
  | .lifecycle call budgets ids => call.named ⟨rm, budgets, ids⟩
  | .restore r => r.id

/-- The moves an operation makes on the budgets it is given. -/
def moves (rm : ReservationManager) : LifecycleOperation → List (PowerMove × ReservationId)
  | .lifecycle call budgets ids => BudgetCall.moves budgets (call.budgetCalls ⟨rm, budgets, ids⟩)
  | .restore _ => []

/-- The moves of a whole run, in order. -/
def movesAlong : ReservationManager → List LifecycleOperation →
    List (PowerMove × ReservationId)
  | _, [] => []
  | rm, operation :: rest => operation.moves rm ++ movesAlong (operation.after rm) rest

variable {rm : ReservationManager} {operation : LifecycleOperation}

/-- An operation changes at most the reservation it names, loses none and moves
every state forward. -/
structure Orderly (rm : ReservationManager) (operation : LifecycleOperation) : Prop where
  others : ∀ id, id ≠ operation.named rm → (operation.after rm).find? id = rm.find? id
  forward : ∀ id r, rm.find? id = some r → ∃ r', (operation.after rm).find? id = some r' ∧
    r.state.Forward r'.state

/-- Adding a reservation under a new id is orderly. -/
theorem orderly_emplace {v : Reservation} (fresh : rm.find? v.id = none)
    (named : operation.named rm = v.id)
    (added : operation.after rm = ⟨rm.map.emplace v⟩) : Orderly rm operation := by
  have lookup : ∀ id, (operation.after rm).find? id =
      if id = v.id then some v else rm.find? id := by
    intro id
    rw [added]
    exact Keyed.find?_emplace fresh id
  constructor
  · intro id different
    rw [lookup, if_neg (named ▸ different)]
  · intro id r found
    refine ⟨r, ?_, .inl rfl⟩
    rw [lookup, if_neg, found]
    rintro rfl
    rw [fresh] at found
    cases found

theorem orderly_idle (kept : operation.after rm = rm) : Orderly rm operation where
  others := fun id _ => by rw [kept]
  forward := fun id r found => ⟨r, by rw [kept, found], .inl rfl⟩

theorem orderly (rm : ReservationManager) (operation : LifecycleOperation) :
    Orderly rm operation := by
  cases operation with
  | restore r =>
      rcases rm.restore_cases r with ⟨_, taken⟩ | ⟨fresh, added⟩
      · exact orderly_idle (congrArg Prod.fst taken)
      · exact orderly_emplace fresh rfl (congrArg Prod.fst added)
  | lifecycle call budgets ids =>
      cases plans : call.plans with
      | false =>
          obtain ⟨rewritten, _⟩ :=
            ReservationCall.rewritten_after (s := ⟨rm, budgets, ids⟩) plans
          constructor
          · exact fun id different => rewritten.find?_of_ne different
          · intro id r found
            obtain ⟨r', foundAfter, forward, _⟩ := rewritten.forward found
            exact ⟨r', foundAfter, forward⟩
      | true =>
          cases call with
          | plan workload powerClass scope budget power energy policyGen deviceGen authority now
              validity =>
              by_cases taken : rm.map.contains ids.allocateReservation.1 = true
              · refine orderly_idle ?_
                simp [after, ReservationCall.after, ReservationCall.exec,
                  ReservationManager.plan, taken]
              · have fresh : rm.find? ids.allocateReservation.1 = none := by
                  simpa [Keyed.contains, ReservationManager.find?] using taken
                have added : after rm (.lifecycle (.plan workload powerClass scope budget power
                    energy policyGen deviceGen authority now validity) budgets ids) =
                    ⟨rm.map.emplace (ReservationManager.planned ids.allocateReservation.1
                      workload powerClass scope budget power energy policyGen deviceGen authority
                      now validity)⟩ := by
                  simp only [after, ReservationCall.after, ReservationCall.exec,
                    ReservationManager.plan, if_neg taken]
                exact orderly_emplace fresh rfl added
          | _ => cases plans

/-- The reservation has reached the state in which a move ends. -/
def Reached (rm : ReservationManager) (move : PowerMove) (id : ReservationId) : Prop :=
  ∃ r, rm.find? id = some r ∧ move.reached.progress ≤ r.state.progress

theorem Reached.after {move : PowerMove} {id : ReservationId} (reached : Reached rm move id)
    (operation : LifecycleOperation) : Reached (operation.after rm) move id := by
  obtain ⟨r, found, far⟩ := reached
  obtain ⟨r', foundAfter, forward⟩ := (orderly rm operation).forward id r found
  exact ⟨r', foundAfter, far.trans forward.le⟩

theorem length_moves_le (rm : ReservationManager) (operation : LifecycleOperation) :
    (operation.moves rm).length ≤ 1 := by
  cases operation with
  | lifecycle call budgets ids => exact (ReservationCall.makes ⟨rm, budgets, ids⟩ call).once
  | restore r => exact Nat.zero_le 1

/-- A move leads to the state it ends in, and finds the reservation short of it. -/
theorem reached_of_moves {move : PowerMove} {id : ReservationId}
    (made : (move, id) ∈ operation.moves rm) :
    ¬ Reached rm move id ∧ Reached (operation.after rm) move id := by
  cases operation with
  | restore r => cases made
  | lifecycle call budgets ids =>
      obtain ⟨_, ⟨r, found, short⟩, r', foundAfter, ended⟩ :=
        (ReservationCall.makes ⟨rm, budgets, ids⟩ call).advances move id made
      refine ⟨?_, r', foundAfter, (congrArg ReservationState.progress ended).ge⟩
      rintro ⟨other, same, far⟩
      obtain rfl : r = other := Option.some.inj (found.symm.trans same)
      omega

/-- A move that has been made is not made again. -/
theorem notMem_movesAlong {move : PowerMove} {id : ReservationId}
    (operations : List LifecycleOperation) (reached : Reached rm move id) :
    (move, id) ∉ movesAlong rm operations := by
  induction operations generalizing rm with
  | nil => exact List.not_mem_nil
  | cons operation rest inductionHypothesis =>
      intro member
      rcases List.mem_append.mp member with now | later
      · exact (reached_of_moves now).1 reached
      · exact inductionHypothesis (reached.after operation) later

theorem count_movesAlong_le (move : PowerMove) (id : ReservationId) (rm : ReservationManager)
    (operations : List LifecycleOperation) :
    (movesAlong rm operations).count (move, id) ≤ 1 := by
  induction operations generalizing rm with
  | nil => exact Nat.zero_le 1
  | cons operation rest inductionHypothesis =>
      rw [movesAlong, List.count_append]
      by_cases made : (move, id) ∈ operation.moves rm
      · have once : (operation.moves rm).count (move, id) ≤ 1 :=
          List.count_le_length.trans (length_moves_le rm operation)
        have later : (movesAlong (operation.after rm) rest).count (move, id) = 0 :=
          List.count_eq_zero_of_not_mem (notMem_movesAlong rest (reached_of_moves made).2)
        rw [later]
        exact once
      · rw [List.count_eq_zero_of_not_mem made, Nat.zero_add]
        exact inductionHypothesis (operation.after rm)

/-- Every run of operations, from any reservations and on any budgets, is orderly
at each step, and each reservation causes each move at most once. -/
theorem runs_orderly (rm : ReservationManager) (operations : List LifecycleOperation) :
    Along after Orderly rm operations ∧
      ∀ move id, (movesAlong rm operations).count (move, id) ≤ 1 := by
  refine ⟨?_, fun move id => count_movesAlong_le move id rm operations⟩
  induction operations generalizing rm with
  | nil => trivial
  | cons operation rest inductionHypothesis =>
      exact ⟨orderly rm operation, inductionHypothesis (operation.after rm)⟩

end LifecycleOperation

end PowerGovernor
