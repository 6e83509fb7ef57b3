import PowerGovernor.Coordinator.Refusals
import PowerGovernor.Coordinator.TimeLimits

/-!
The reservations that a coordinator grants.

Owns the ids that are granted or about to be, and the theorem that no reservation is
granted twice and that each granted one is on the books and past its plan.
-/

set_option autoImplicit false

namespace PowerGovernor

/-- The reservation is known and past the state before it is reserved. -/
def Governor.Booked (g : Governor) (id : ReservationId) : Prop :=
  ∃ r, g.reservations.find? id = some r ∧ ReservationState.reserved.progress ≤ r.state.progress

namespace Governor

variable {g g' : Governor} {id : ReservationId}

theorem Booked.known (booked : g.Booked id) : g.reservations.find? id ≠ none := by
  obtain ⟨r, found, _⟩ := booked
  rw [found]
  exact Option.some_ne_none r

/-- An accepted reserve books its reservation. -/
theorem booked_of_reserveReservation {budgetGen : BudgetGeneration} {now : Timestamp}
    {result : ReservationResult}
    (returned : g.reserveReservation id budgetGen now = .ok (g', result))
    (ok : result.ok = true) : g'.Booked id := by
  obtain ⟨left, called, books⟩ := exec_of_reserveReservation returned
  have table : g'.reservations = left.reservations := congrArg Books.reservations books
  unfold Booked
  rw [table]
  cases ReservationCall.returns_reserve called with
  | refused => cases ok
  | planLapsed => cases ok
  | lapsed => cases ok
  | reserved reserves => exact ⟨_, Books.find?_write_self reserves.2.1, le_rfl⟩

end Governor

namespace Pending

variable {cs shared : CoordShared} {rr : ReserveMsg} {id : ReservationId}

/-- A plan that goes on adds the reservation of its message, under an id that none had. -/
theorem added_of_plan
    (ran : (Pending.plan rr).run.exec cs = (.ok (.pending (.reserve rr id)), shared)) :
    cs.gov.reservations.find? id = none ∧ ∃ (power : Watts) (energy : Joules)
      (validity : Duration), power.value = rr.requestedMw.toInt / 1000 ∧
        shared.gov.reservations = ⟨cs.gov.reservations.map.emplace (ReservationManager.planned id
          rr.workload .throughput rr.scope rr.budget power energy .first .first
            cs.gov.authority.envelope (.ofInt64 rr.timestampNs) validity)⟩ := by
  obtain ⟨planned, between, first, rest⟩ := Stateful.bind_eq_ok.mp ran
  obtain ⟨power, energy, validity, powered, energized, valid⟩ := planSection_returns first
  rw [exec_planSection powered energized valid] at first
  obtain ⟨outcome, rfl⟩ := Prod.mk.inj first
  have worded := Except.ok.inj outcome
  by_cases fresh : cs.gov.reservations.find? ⟨cs.gov.ids.reservation⟩ = none
  · obtain ⟨g, planned, books⟩ := Governor.planReservation_fresh fresh rr.workload .throughput
      rr.scope rr.budget power energy .first .first (.ofInt64 rr.timestampNs) validity
    rw [planned] at worded rest
    obtain rfl := worded
    cases rest
    exact ⟨fresh, power, energy, validity, Quantity.construct_eq_ok.mp powered,
      congrArg Books.reservations books⟩
  · have refused := (CoordShared.sameAccounts_of_taken fresh rr.workload .throughput rr.scope
      rr.budget power energy .first .first (.ofInt64 rr.timestampNs) validity).1
    rw [if_neg (refused ▸ Bool.false_ne_true)] at worded
    obtain rfl := worded
    cases rest

/-- A RESERVE that is answered ok has booked its reservation. -/
theorem booked_of_reserve {reply : Reply}
    (ran : (Pending.reserve rr id).run.exec cs = (.ok (.replied reply), shared))
    (ok : reply.ok = true) : shared.gov.Booked id := by
  obtain ⟨answer, between, answered, rest⟩ := Stateful.bind_eq_ok.mp ran
  obtain ⟨replied, rfl⟩ := Prod.mk.inj rest
  obtain rfl := Progress.replied.inj (Except.ok.inj replied)
  obtain ⟨result, cs₁, called, worded⟩ := Stateful.bind_eq_ok.mp answered
  rw [CoordShared.exec_call] at called
  obtain ⟨words, rfl⟩ := Prod.mk.inj worded
  obtain rfl := Except.ok.inj words
  cases returned : cs.gov.reserveReservation id rr.budgetGen (.ofInt64 rr.timestampNs) with
  | error fault =>
      rw [returned] at called
      cases called
  | ok outcome =>
      rw [returned] at called
      obtain ⟨same, rfl⟩ := Prod.mk.inj called
      obtain rfl := Except.ok.inj same
      refine Governor.booked_of_reserveReservation returned ?_
      cases accepted : outcome.2.ok with
      | true => rfl
      | false =>
          rw [accepted] at ok
          cases ok

end Pending

/-! ## The ids in flight -/

namespace Coordinator

variable {s : Coordinator} {event : Event} {conn : Nat} {id : ReservationId}

/-- The handler of the connection has planned the reservation and is about to reserve it. -/
def Reserving (s : Coordinator) (conn : Nat) (id : ReservationId) : Prop :=
  ∃ reg rr, s.connections conn = some ⟨reg, some (.reserve rr id)⟩

/-- A handler in front of a reserve was there before, or the step ran its plan. -/
theorem planned_of_after {reg : RegisterMsg} {rr : ReserveMsg}
    (found : (s.after event).connections conn = some ⟨reg, some (.reserve rr id)⟩) :
    s.connections conn = some ⟨reg, some (.reserve rr id)⟩ ∨
      (event = .proceed conn ∧ (Pending.plan rr).run.exec s.shared =
        (.ok (.pending (.reserve rr id)), (s.after event).shared)) := by
  cases arises_of_after found rfl with
  | same before busy => exact .inl before
  | welcome decoded greets => cases greets
  | accepted here accepts => cases accepts
  | planned here reserves =>
      cases reserves
      by_cases running : s.running = true
      case neg =>
        have same : s.after (.proceed conn) = s := if_neg running
        rw [same, here] at found
        cases found
      case pos =>
        rw [after_proceed running here] at found ⊢
        cases ran : (Pending.plan rr).run.exec s.shared with
        | mk result shared =>
            rw [ran] at found
            cases result with
            | error fault =>
                dsimp only at found
                rw [here] at found
                cases found
            | ok progress =>
                dsimp only [setConnection] at found
                rw [Function.update_self] at found
                have busy := congrArg Connection.work (Option.some.inj found)
                cases progress with
                | replied reply => cases busy
                | pending next =>
                    obtain rfl := Option.some.inj busy
                    exact .inr ⟨rfl, rfl⟩

theorem reserving_of_after (reserving : (s.after event).Reserving conn id) :
    s.Reserving conn id ∨ (event = .proceed conn ∧ s.shared.gov.reservations.find? id = none) := by
  obtain ⟨reg, rr, found⟩ := reserving
  rcases planned_of_after found with before | ⟨proceeds, ran⟩
  · exact .inl ⟨reg, rr, before⟩
  · exact .inr ⟨proceeds, (Pending.added_of_plan ran).1⟩

/-- A grant ends a reserve: the reservation is booked and the handler waits for a frame. -/
structure Grants (s : Coordinator) (event : Event) (grant : Grant) : Prop where
  reserving : ∃ conn, event = .proceed conn ∧ s.Reserving conn grant.reservation ∧
    ∀ id, ¬ (s.after event).Reserving conn id
  booked : (s.after event).shared.gov.Booked grant.reservation

/-- A step that ends a reserve with an ok grants its reservation. -/
theorem granted_of_concludes {rr : ReserveMsg}
    (concluded : (s.concludes event).bind Pending.reservation = some (id, rr)) :
    ∃ conn reg reply, event = .proceed conn ∧
      s.connections conn = some ⟨reg, some (.reserve rr id)⟩ ∧ reply.ok = true ∧
        (Pending.reserve rr id).run.exec s.shared =
          (.ok (.replied reply), (s.after event).shared) ∧
        (s.after event).granted = s.granted ++ [⟨id, reg.worker, rr.boot⟩] ∧
          (s.after event).connections = Function.update s.connections conn (some ⟨reg, none⟩) := by
  obtain ⟨work, concluded, reserves⟩ := Option.bind_eq_some_iff.mp concluded
  obtain ⟨acknowledges, working⟩ := works_of_concludes concluded
  obtain ⟨running, conn, reg, rfl, found⟩ := works_eq_some working
  cases work with
  | reserve rr planned =>
      obtain ⟨rfl, rfl⟩ := Prod.mk.inj (Option.some.inj reserves)
      obtain ⟨⟨other, reply⟩, sent, ok⟩ := (Option.any_eq_true _ _).mp acknowledges
      obtain ⟨_, _, reg', work, found', replied⟩ := sends_proceed_iff.mp sent
      cases found.symm.trans found'
      have ok : reply.ok = true := ok
      have taken := after_proceed running found
      cases ran : (Pending.reserve rr planned).run.exec s.shared with
      | mk result shared =>
          rw [ran] at taken replied
          obtain rfl : result = .ok (.replied reply) := replied
          have one : (Pending.reserve rr planned).grant reg.worker (.replied reply) =
              some ⟨planned, reg.worker, rr.boot⟩ := if_pos ok
          refine ⟨conn, reg, reply, rfl, found, ok, ?_⟩
          rw [taken]
          dsimp only [setConnection]
          rw [one]
          exact ⟨rfl, rfl, rfl⟩
  | _ => cases reserves

/-- A section that grants something is a reserve that is answered ok. -/
theorem reserves_of_grant {work : Pending} {worker : WorkerId} {progress : Progress}
    {grant : Grant} (made : work.grant worker progress = some grant) :
    ∃ rr id reply, work = .reserve rr id ∧ progress = .replied reply ∧ reply.ok = true := by
  cases work with
  | reserve rr planned =>
      cases progress with
      | pending next => cases made
      | replied reply =>
          dsimp only [Pending.grant] at made
          split at made
          case isFalse refused => cases made
          case isTrue ok => exact ⟨rr, planned, reply, rfl, rfl, ok⟩
  | _ => cases made

/-- Any other step grants nothing. -/
theorem granted_of_none (none : (s.concludes event).bind Pending.reservation = none) :
    (s.after event).granted = s.granted := by
  by_cases running : s.running = true
  case neg =>
    have same : s.after event = s := if_neg running
    rw [same]
  by_cases working : ∃ conn reg work, event = .proceed conn ∧
      s.connections conn = some ⟨reg, some work⟩
  case pos =>
    obtain ⟨conn, reg, work, rfl, found⟩ := working
    have taken := after_proceed running found
    cases ran : work.run.exec s.shared with
    | mk result shared =>
        rw [ran] at taken
        cases result with
        | error fault => rw [taken]
        | ok progress =>
            rw [taken]
            dsimp only [setConnection]
            cases made : work.grant reg.worker progress with
            | none => exact List.append_nil _
            | some grant =>
                obtain ⟨rr, id, reply, rfl, rfl, ok⟩ := reserves_of_grant made
                have sent : s.sends (.proceed conn) = some (conn, reply) :=
                  sends_proceed_iff.mpr ⟨running, rfl, reg, _, found, congrArg Prod.fst ran⟩
                have concluded : s.concludes (.proceed conn) = some (.reserve rr id) := by
                  unfold concludes acknowledges
                  rw [sent, Option.any_some, if_pos ok]
                  exact works_proceed running found
                rw [concluded] at none
                cases none
  case neg =>
    unfold after take
    rw [if_pos running]
    cases event with
    | connect conn first =>
        dsimp only
        repeat' split
        all_goals rfl
    | proceed conn =>
        dsimp only
        split
        · rename_i reg work found
          exact absurd ⟨conn, reg, work, rfl, found⟩ working
        · rfl
    | frame conn m =>
        dsimp only
        split <;> rfl
    | disconnect conn =>
        dsimp only
        split <;> rfl
    | installBudget id parent hmax soft => rfl
    | setPolicy cap => rfl
    | rollEpoch => rfl

/-- A step grants at most one reservation. -/
theorem grants_after (s : Coordinator) (event : Event) :
    (s.after event).granted = s.granted ∨
      ∃ grant, s.Grants event grant ∧ (s.after event).granted = s.granted ++ [grant] := by
  cases concluded : (s.concludes event).bind Pending.reservation with
  | none => exact .inl (granted_of_none concluded)
  | some reserved =>
      obtain ⟨id, rr⟩ := reserved
      obtain ⟨conn, reg, reply, proceeds, found, ok, ran, granted, connections⟩ :=
        granted_of_concludes concluded
      refine .inr ⟨_, ⟨⟨conn, proceeds, ⟨reg, rr, found⟩, ?_⟩, ?_⟩, granted⟩
      · rintro other ⟨reg', rr', busy⟩
        rw [connections, Function.update_self] at busy
        cases congrArg Connection.work (Option.some.inj busy)
      · exact Pending.booked_of_reserve ran ok

/-! ## Grants -/

/-- No step loses a reservation, changes its terms or moves it back. -/
theorem known_after {r : Reservation} (found : s.shared.gov.reservations.find? id = some r)
    (event : Event) : ∃ r', (s.after event).shared.gov.reservations.find? id = some r' ∧
      r.state.Forward r'.state ∧ r'.asPlanned = r.asPlanned := by
  have same : (s.after event).shared.gov.reservations =
      (s.shared.gov.afterCall ((s.works event).bind Pending.governorCall)).reservations :=
    congrArg Prod.fst (holdings_after s event)
  rw [same]
  cases made : (s.works event).bind Pending.governorCall with
  | none => exact ⟨r, found, .inl rfl, rfl⟩
  | some call =>
      obtain ⟨work, _, made⟩ := Option.bind_eq_some_iff.mp made
      have makes := Pending.makes_of_governorCall made
      exact GovernorCall.forward_after makes.saved found

theorem booked_after (booked : s.shared.gov.Booked id) (event : Event) :
    (s.after event).shared.gov.Booked id := by
  obtain ⟨r, found, far⟩ := booked
  obtain ⟨r', found', forward, _⟩ := known_after found event
  exact ⟨r', found', far.trans forward.le⟩

/-- No two handlers are about to reserve one reservation, none is about to reserve a granted
one, and the grants are of different reservations, which are booked. -/
structure Exclusive (s : Coordinator) : Prop where
  planned : s.PlansCreated
  apart : ∀ conn other id, s.Reserving conn id → s.Reserving other id → conn = other
  pending : ∀ conn id, s.Reserving conn id → id ∉ s.granted.map Grant.reservation
  distinct : (s.granted.map Grant.reservation).Nodup
  booked : ∀ grant ∈ s.granted, s.shared.gov.Booked grant.reservation

namespace Exclusive

theorem known (exclusive : s.Exclusive) (reserving : s.Reserving conn id) :
    s.shared.gov.reservations.find? id ≠ none := by
  obtain ⟨reg, rr, found⟩ := reserving
  obtain ⟨r, known, _⟩ := exclusive.planned conn _ rr id found rfl
  rw [known]
  exact Option.some_ne_none r

/-- A granted reservation is known. -/
theorem known_of_granted (exclusive : s.Exclusive)
    (granted : id ∈ s.granted.map Grant.reservation) :
    s.shared.gov.reservations.find? id ≠ none := by
  obtain ⟨grant, member, rfl⟩ := List.mem_map.mp granted
  exact (exclusive.booked grant member).known

theorem apart_after (exclusive : s.Exclusive) {other : Nat}
    (one : (s.after event).Reserving conn id) (two : (s.after event).Reserving other id) :
    conn = other := by
  rcases reserving_of_after one with before | ⟨ran, fresh⟩ <;>
    rcases reserving_of_after two with before' | ⟨ran', fresh'⟩
  · exact exclusive.apart conn other id before before'
  · exact absurd fresh' (exclusive.known before)
  · exact absurd fresh (exclusive.known before')
  · exact Event.proceed.inj (ran.symm.trans ran')

/-- A handler in front of a reserve after the step is in front of no granted one. -/
theorem pending_of_before (exclusive : s.Exclusive)
    (reserving : (s.after event).Reserving conn id) :
    id ∉ s.granted.map Grant.reservation := by
  rcases reserving_of_after reserving with before | ⟨_, fresh⟩
  · exact exclusive.pending conn id before
  · exact fun granted => exclusive.known_of_granted granted fresh

/-- The reservation of a new grant is not the one that another handler is about to
reserve. -/
theorem ne_of_grants (exclusive : s.Exclusive) {grant : Grant} (grants : s.Grants event grant)
    (reserving : (s.after event).Reserving conn id) : id ≠ grant.reservation := by
  rintro rfl
  obtain ⟨granting, rfl, before, ended⟩ := grants.reserving
  rcases reserving_of_after reserving with reserves | ⟨_, fresh⟩
  · obtain rfl := exclusive.apart conn granting _ reserves before
    exact ended _ reserving
  · exact exclusive.known before fresh

theorem after (exclusive : s.Exclusive) (event : Event) : (s.after event).Exclusive where
  planned := plansCreated_after exclusive.planned event
  apart _ _ _ := exclusive.apart_after
  pending conn id reserving := by
    have before := exclusive.pending_of_before reserving
    rcases s.grants_after event with same | ⟨grant, grants, added⟩
    · rw [same]
      exact before
    · rw [added, List.map_append, List.mem_append, List.map_singleton, List.mem_singleton]
      rintro (granted | new)
      · exact before granted
      · exact exclusive.ne_of_grants grants reserving new
  distinct := by
    rcases s.grants_after event with same | ⟨grant, grants, added⟩
    · rw [same]
      exact exclusive.distinct
    · obtain ⟨granting, _, before, _⟩ := grants.reserving
      have fresh := exclusive.pending granting _ before
      rw [added, List.map_append, List.map_singleton]
      refine List.nodup_append.mpr ⟨exclusive.distinct, List.nodup_singleton _, ?_⟩
      rintro id granted id' new rfl
      rw [List.mem_singleton.mp new] at granted
      exact fresh granted
  booked grant member := by
    rcases s.grants_after event with same | ⟨new, grants, added⟩
    · rw [same] at member
      exact booked_after (exclusive.booked grant member) event
    · rw [added] at member
      rcases List.mem_append.mp member with before | isNew
      · exact booked_after (exclusive.booked grant before) event
      · obtain rfl := List.mem_singleton.mp isNew
        exact grants.booked

end Exclusive

theorem exclusive_start : start.Exclusive where
  planned _ _ _ _ found := by cases found
  apart _ _ _ reserving := by
    obtain ⟨_, _, found⟩ := reserving
    cases found
  pending _ _ _ := List.not_mem_nil
  distinct := List.nodup_nil
  booked _ member := absurd member List.not_mem_nil

theorem exclusive_foldl (exclusive : s.Exclusive) (events : List Event) :
    (events.foldl Coordinator.after s).Exclusive := by
  induction events generalizing s with
  | nil => exact exclusive
  | cons event rest inductionHypothesis => exact inductionHypothesis (exclusive.after event)

/-- In no run, whatever the peers send and however the handlers interleave, is one
reservation granted twice, and a granted one stays on the books, past its plan. -/
theorem granted_once (events : List Event) :
    ((events.foldl Coordinator.after start).granted.map Grant.reservation).Nodup ∧
      ∀ grant ∈ (events.foldl Coordinator.after start).granted,
        (events.foldl Coordinator.after start).shared.gov.Booked grant.reservation := by
  have exclusive := exclusive_foldl exclusive_start events
  exact ⟨exclusive.distinct, exclusive.booked⟩

/-- Two frames of one worker, handled one after the other, are two grants. -/
example : ((granting ++ [Event.frame 1 (reserveFrame 10), .proceed 1, .proceed 1]).foldl
    Coordinator.after start).granted.map Grant.reservation = [⟨1⟩, ⟨2⟩] := by decide +kernel

end Coordinator

end PowerGovernor
