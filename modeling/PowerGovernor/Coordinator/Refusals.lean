import PowerGovernor.Coordinator.Answers
import PowerGovernor.Governor.Audit
import PowerGovernor.Governor.Lifecycle
import PowerGovernor.Reservation.Lifecycle

/-!
RESERVE messages that are answered with an error.

Owns what such a message leaves behind: nothing when it is refused before the plan
is stored, and otherwise the planned reservation, which the audit reports as leaked
once its validity has passed. Nobody but the refused worker has its id, and the
worker is not told.
-/

set_option autoImplicit false

namespace PowerGovernor

/-- The reservations, their index, the budgets and every verdict on them are the
same. -/
structure Governor.SameAccounts (before after : Governor) : Prop where
  reservations : after.reservations = before.reservations
  index : after.resIndex = before.resIndex
  budgets : after.budgets = before.budgets
  verdict : ∀ now, after.accountingConsistent now = before.accountingConsistent now

theorem Governor.SameAccounts.of_parts {before after : Governor}
    (reservations : after.reservations = before.reservations)
    (index : after.resIndex = before.resIndex) (budgets : after.budgets = before.budgets) :
    before.SameAccounts after := by
  refine ⟨reservations, index, budgets, fun now => ?_⟩
  unfold accountingConsistent
  rw [reservations, budgets]

namespace CoordShared

variable {cs cs' : CoordShared} {m : Frame} {reply : Reply}

/-- The RESERVE of a frame is malformed or fenced off, or the id it would draw is
taken. -/
def RefusesUnplanned (cs : CoordShared) (m : Frame) : Prop :=
  ∀ rr, decodeReserve m = some rr → cs.fenceEpochBoot rr.epoch rr.boot = .ok () →
    cs.gov.reservations.find? ⟨cs.gov.ids.reservation⟩ ≠ none

/-- The reservation of a refused RESERVE is still planned. -/
structure Leaves (cs : CoordShared) (m : Frame) (cs' : CoordShared) (rr : ReserveMsg)
    (r : Reservation) : Prop where
  decoded : decodeReserve m = some rr
  passed : cs.fenceEpochBoot rr.epoch rr.boot = .ok ()
  fresh : cs.gov.reservations.find? ⟨cs.gov.ids.reservation⟩ = none
  found : cs'.gov.reservations.find? ⟨cs.gov.ids.reservation⟩ = some r
  planned : r.state = .planned
  created : r.created = .ofInt64 rr.timestampNs
  validity : r.validity.ns = rr.validityNs.toInt

/-- A plan under a taken id is refused and writes nothing but the allocator. -/
theorem sameAccounts_of_taken {g : Governor}
    (taken : g.reservations.find? ⟨g.ids.reservation⟩ ≠ none) (workload : WorkloadId)
    (powerClass : WorkloadPowerClass) (scope : PowerDomainId) (budget : BudgetId) (power : Watts)
    (energy : Joules) (policyGen : PolicyGeneration) (deviceGen : DeviceGeneration)
    (now : Timestamp) (validity : Duration) :
    (g.planReservation workload powerClass scope budget power energy policyGen deviceGen now
        validity).2.ok = false ∧
      g.SameAccounts (g.planReservation workload powerClass scope budget power energy policyGen
        deviceGen now validity).1 := by
  have contained : g.reservations.map.contains g.ids.allocateReservation.1 = true :=
    Option.isSome_iff_ne_none.mpr taken
  unfold Governor.planReservation ReservationManager.plan
  dsimp only
  rw [contained, if_pos rfl, if_neg Bool.false_ne_true]
  exact ⟨rfl, .of_parts rfl rfl rfl⟩

/-- A reserve that a live reservation is refused writes nothing. -/
theorem reserveReservation_refused {g g' : Governor} {id : ReservationId} {r : Reservation}
    {budgetGen : BudgetGeneration} {now : Timestamp} {result : ReservationResult}
    (found : g.reservations.find? id = some r) (planned : r.state = .planned)
    (alive : r.expired now = .ok false)
    (returned : g.reserveReservation id budgetGen now = .ok (g', result))
    (refused : result.ok = false) : g' = g := by
  have reservable : ¬ (r.state ≠ .validated ∧ r.state ≠ .planned) := fun both => both.2 planned
  unfold Governor.reserveReservation at returned
  rw [ReservationManager.reserve_alive found reservable alive] at returned
  rcases BudgetManager.book_cases .reserved true g.budgets r.budget r.requestedPower budgetGen with
    ⟨booked, _⟩ | ⟨booked, _⟩
  · rw [BudgetManager.reserve, booked] at returned
    exact (congrArg Prod.fst (Except.ok.inj returned)).symm
  · rw [BudgetManager.reserve, booked] at returned
    obtain ⟨_, rfl⟩ := Prod.mk.inj (Except.ok.inj returned)
    cases refused

/-- A reserve that is answered with an error was refused. -/
theorem reserveSection_refused {rr : ReserveMsg} {id : ReservationId}
    (answered : (Pending.reserveSection rr id).exec cs = (.ok reply, cs'))
    (refused : reply.type = .error) :
    ∃ g result, cs.gov.reserveReservation id rr.budgetGen (.ofInt64 rr.timestampNs) =
      .ok (g, result) ∧ result.ok = false ∧ cs' = { cs with gov := g } := by
  obtain ⟨result, cs₁, called, worded⟩ := Stateful.bind_eq_ok.mp answered
  rw [exec_call] at called
  obtain ⟨words, rfl⟩ := Prod.mk.inj worded
  cases returned : cs.gov.reserveReservation id rr.budgetGen (.ofInt64 rr.timestampNs) with
  | error fault =>
      rw [returned] at called
      cases called
  | ok outcome =>
      rw [returned] at called
      obtain ⟨same, rfl⟩ := Prod.mk.inj called
      obtain rfl := Except.ok.inj same
      refine ⟨outcome.1, outcome.2, rfl, ?_, rfl⟩
      obtain rfl := Except.ok.inj words
      cases ok : outcome.2.ok with
      | false => rfl
      | true =>
          rw [ok] at refused
          cases refused

/-- A RESERVE that passes its fence and is answered with an error wrote nothing, where the
id it drew is taken, or left its plan. -/
theorem refused_plan_cases {rr : ReserveMsg} (decoded : decodeReserve m = some rr)
    (passed : cs.fenceEpochBoot rr.epoch rr.boot = .ok ())
    (answered : (Pending.complete (.plan rr)).exec cs = (.ok reply, cs'))
    (refused : reply.type = .error) :
    (cs.gov.reservations.find? ⟨cs.gov.ids.reservation⟩ ≠ none ∧
      cs.gov.SameAccounts cs'.gov) ∨ ∃ r, cs.Leaves m cs' rr r := by
  obtain ⟨planned, cs₁, first, rest⟩ := Stateful.bind_eq_ok.mp answered
  obtain ⟨power, energy, validity, powered, energized, valid⟩ := Pending.planSection_returns first
  rw [Pending.exec_planSection powered energized valid] at first
  by_cases taken : cs.gov.reservations.find? ⟨cs.gov.ids.reservation⟩ = none
  case neg =>
    obtain ⟨declined, same⟩ := sameAccounts_of_taken taken rr.workload .throughput rr.scope
      rr.budget power energy .first .first (.ofInt64 rr.timestampNs) validity
    dsimp only at first
    rw [declined] at first
    obtain ⟨made, rfl⟩ := Prod.mk.inj first
    obtain rfl := Except.ok.inj made
    obtain ⟨_, rfl⟩ := Prod.mk.inj rest
    exact .inl ⟨taken, same⟩
  case pos =>
    obtain ⟨g, plans, books⟩ := Governor.planReservation_fresh taken rr.workload .throughput
      rr.scope rr.budget power energy .first .first (.ofInt64 rr.timestampNs) validity
    rw [plans] at first
    obtain ⟨made, rfl⟩ := Prod.mk.inj first
    obtain rfl := Except.ok.inj made
    let r := ReservationManager.planned ⟨cs.gov.ids.reservation⟩ rr.workload .throughput
      rr.scope rr.budget power energy .first .first cs.gov.authority.envelope
      (.ofInt64 rr.timestampNs) validity
    have stored : g.reservations = ⟨cs.gov.reservations.map.emplace r⟩ :=
      congrArg Books.reservations books
    have found : g.reservations.find? ⟨cs.gov.ids.reservation⟩ = some r := by
      rw [stored]
      exact (Keyed.find?_emplace (v := r) taken _).trans (if_pos rfl)
    have alive : r.expired (.ofInt64 rr.timestampNs) = .ok false := by
      apply Reservation.alive_of_within
      rw [sub_self]
      exact validity.nonneg
    obtain ⟨g', result, returned, declined, rfl⟩ := reserveSection_refused rest refused
    obtain rfl := reserveReservation_refused found rfl alive returned declined
    exact .inr ⟨r, decoded, passed, taken, found, rfl, rfl, Duration.construct_eq_ok.mp valid⟩

/-- A RESERVE that is answered with an error left everything as it was, or its plan. -/
theorem refused_reserve_cases (type : m.type = .reserve)
    (answered : (handleFrame m).exec cs = (.ok reply, cs')) (refused : reply.type = .error) :
    (cs.RefusesUnplanned m ∧ cs.gov.SameAccounts cs'.gov) ∨ ∃ rr r, cs.Leaves m cs' rr r := by
  have received : cs.receive m = (decodeReserve m).elim
      (.replied (sendError 0 "malformed reserve"), cs)
      fun rr => cs.fenced (cs.fenceEpochBoot rr.epoch rr.boot) 0 (.pending (.plan rr), cs) := by
    obtain ⟨_, _⟩ := m
    obtain rfl := type
    unfold receive
    dsimp only
    cases decodeReserve _ <;> rfl
  rw [Coordinator.exec_handleFrame, received] at answered
  cases decoded : decodeReserve m with
  | none =>
      rw [decoded] at answered
      obtain ⟨_, rfl⟩ := Prod.mk.inj answered
      refine .inl ⟨fun rr other => ?_, .of_parts rfl rfl rfl⟩
      rw [decoded] at other
      cases other
  | some rr =>
      rw [decoded, Option.elim_some] at answered
      cases passed : cs.fenceEpochBoot rr.epoch rr.boot with
      | error why =>
          rw [passed] at answered
          obtain ⟨_, rfl⟩ := Prod.mk.inj answered
          refine .inl ⟨fun other same fence => ?_, .of_parts rfl rfl rfl⟩
          rw [decoded] at same
          cases same
          rw [passed] at fence
          cases fence
      | ok _ =>
          rw [passed] at answered
          rcases refused_plan_cases decoded passed answered refused with
            ⟨taken, same⟩ | ⟨r, leaves⟩
          · exact .inl ⟨fun _ _ _ => taken, same⟩
          · exact .inr ⟨rr, r, leaves⟩

/-- The plan that is left behind fails every audit after its validity. -/
theorem Leaves.leaks {rr : ReserveMsg} {r : Reservation} (leaves : cs.Leaves m cs' rr r)
    (stamped : r.created.isZero = false) {now : Timestamp}
    (late : r.created.ns + r.validity.ns < now.ns) :
    cs'.gov.accountingConsistent now ≠ .ok true := by
  intro consistent
  unfold Governor.accountingConsistent at consistent
  split at consistent
  case isFalse overbooked => cases consistent
  case isTrue booked =>
    have passed := ReservationManager.auditLoop_eq_true_iff.mp (noexcept_eq_ok.mp consistent)
    rcases passed r (Keyed.mem_of_find? leaves.found) with ended | ended | alive
    · rw [leaves.planned] at ended
      cases ended
    · rw [leaves.planned] at ended
      cases ended
    · unfold Reservation.expired at alive
      rw [if_neg (by rw [stamped]; nofun)] at alive
      obtain ⟨elapsed, measured, judged⟩ := bind_eq_ok.mp (noexcept_eq_ok.mp alive)
      have value := Timestamp.elapsedSince_eq_ok.mp measured
      have early := of_decide_eq_false (Except.ok.inj judged)
      omega

/-- A refused RESERVE leaves no trace exactly when it is refused before the plan is
stored. -/
theorem refused_reserve_traceless_iff (type : m.type = .reserve)
    (answered : (handleFrame m).exec cs = (.ok reply, cs')) (refused : reply.type = .error) :
    cs.gov.SameAccounts cs'.gov ↔ cs.RefusesUnplanned m := by
  rcases refused_reserve_cases type answered refused with ⟨early, same⟩ | ⟨rr, r, leaves⟩
  · exact ⟨fun _ => early, fun _ => same⟩
  · constructor
    · intro same
      have found := leaves.found
      rw [same.reservations, leaves.fresh] at found
      cases found
    · intro early
      exact absurd leaves.fresh (early rr leaves.decoded leaves.passed)

open Coordinator (registering reserveMsg reserveFrame)

/-- What the reply to a frame is. -/
theorem answered_of_type (cs : CoordShared) (m : Frame) (kind : MsgType)
    (answers : ((handleFrame m).exec cs).1.toOption.map Reply.type = some kind) :
    ∃ reply, (handleFrame m).exec cs = (.ok reply, ((handleFrame m).exec cs).2) ∧
      reply.type = kind := by
  generalize (handleFrame m).exec cs = ended at answers
  obtain ⟨result, cs'⟩ := ended
  cases result with
  | error fault => cases answers
  | ok reply => exact ⟨reply, rfl, Option.some.inj answers⟩

/-- A worker that is not registered reserves. -/
theorem refused_reserve_traceless_stranger :
    (registering.foldl Coordinator.after .start).shared.gov.SameAccounts
      ((handleFrame (reserveFrame 99)).exec
        (registering.foldl Coordinator.after .start).shared).2.gov := by
  obtain ⟨reply, answered, refused⟩ := answered_of_type
    (registering.foldl Coordinator.after .start).shared (reserveFrame 99) .error (by decide +kernel)
  apply (refused_reserve_traceless_iff rfl answered refused).mpr
  intro rr decoded passed
  have decodes : decodeReserve (reserveFrame 99) = some (reserveMsg 99) := by decide +kernel
  obtain rfl := Option.some.inj (decodes.symm.trans decoded)
  exact absurd passed (by decide +kernel)

/-- At second 1 worker 1 asks for 200 W of a budget of 100 W. -/
def overdraft : ReserveMsg :=
  { reserveMsg 10 with requestedMw := 200000, timestampNs := 1000000000 }

def installing : List Event := registering ++ [.installBudget 1 0 100 100]

/-- The refused worker's plan makes the accounting inconsistent once it has expired. -/
theorem refused_reserve_leaves_plan : ¬ ∀ (cs cs' : CoordShared) (m : Frame) (reply : Reply),
    m.type = .reserve → (handleFrame m).exec cs = (.ok reply, cs') → reply.type = .error →
      cs.gov.SameAccounts cs'.gov := by
  intro traceless
  let m : Frame := ⟨.reserve, encodeReserve overdraft⟩
  obtain ⟨reply, answered, refused⟩ := answered_of_type
    (installing.foldl Coordinator.after .start).shared m .error (by decide +kernel)
  have same := traceless _ _ m reply rfl answered refused
  let late : Timestamp := ⟨10000000000, by decide, by decide⟩
  have before : (installing.foldl Coordinator.after .start).shared.gov.accountingConsistent late =
      .ok true := by decide +kernel
  have after : ((handleFrame m).exec
      (installing.foldl Coordinator.after .start).shared).2.gov.accountingConsistent late =
      .ok false := by decide +kernel
  rw [same.verdict, before] at after
  cases after

end CoordShared

end PowerGovernor
