import PowerGovernor.Coordinator.Answers
import PowerGovernor.Coordinator.Observations
import PowerGovernor.Governor.Lifecycle
import PowerGovernor.Governor.Revalidation
import PowerGovernor.Reservation.Lifecycle

/-!
Time limits behind the coordinator.

Owns what the timestamps of the accepted messages make overdue or outdated, and the
exact condition under which the coordinator enforces both limits. A RESERVE and an
observation hand their timestamp to the Governor; ACTIVATE and DECISION_REQUEST hand
it time zero, at which no reservation has expired and no observation has an age.
-/

set_option autoImplicit false

namespace PowerGovernor

/-! ## Times of messages -/

/-- The time that a section takes from its message. -/
def Pending.time : Pending → Option Timestamp
  | .observe po => some (.ofInt64 po.timestampNs)
  | .reserve rr _ => some (.ofInt64 rr.timestampNs)
  | _ => none

def Pending.observation : Pending → Option PowerObsMsg
  | .observe po => some po
  | _ => none

def Pending.reservation : Pending → Option (ReservationId × ReserveMsg)
  | .reserve rr planned => some (planned, rr)
  | _ => none

def Frame.thermalTime (m : Frame) : Option Timestamp :=
  match m.type with
  | .thermalObservation => (decodeThermalObs m).map fun th => .ofInt64 th.timestampNs
  | _ => none

/-- From this age on evidence is stale by every threshold. -/
def PowerPolicy.staleAfter (p : PowerPolicy) : Int :=
  max p.observationFreshness.ns (max p.observationStale.ns p.observationExpired.ns)

namespace Coordinator

/-- The step sends a reply that is ok. -/
def acknowledges (s : Coordinator) (event : Event) : Bool :=
  (s.sends event).any fun sent => sent.2.ok

/-- The section that the step ends with such a reply. -/
def concludes (s : Coordinator) (event : Event) : Option Pending :=
  if s.acknowledges event then s.works event else none

/-- The time of the observation or the RESERVE that the step accepts. -/
def acceptedTime (s : Coordinator) (event : Event) : Option Timestamp :=
  match event with
  | .frame _ m => if s.acknowledges event then m.thermalTime else none
  | _ => (s.concludes event).bind Pending.time

end Coordinator

/-! ## Creation times -/

/-- The reservation is known, and it was created at the time. -/
def Governor.CreatedAt (g : Governor) (id : ReservationId) (time : Timestamp) : Prop :=
  ∃ r, g.reservations.find? id = some r ∧ r.created = time

/-- No section loads a state. -/
theorem Pending.Makes.saved {work : Pending} {call : GovernorCall} (makes : work.Makes call)
    (file : Option Bytes) (now : Timestamp) : call ≠ .load file now := by
  cases makes <;> rintro ⟨⟩

namespace Coordinator

variable {s : Coordinator} {id : ReservationId} {time : Timestamp}

/-- A reservation keeps its creation time. -/
theorem createdAt_after (created : s.shared.gov.CreatedAt id time) (event : Event) :
    (s.after event).shared.gov.CreatedAt id time := by
  obtain ⟨r, found, rfl⟩ := created
  have same : (s.after event).shared.gov.reservations =
      (s.shared.gov.afterCall ((s.works event).bind Pending.governorCall)).reservations :=
    congrArg Prod.fst (holdings_after s event)
  unfold Governor.CreatedAt
  rw [same]
  cases made : (s.works event).bind Pending.governorCall with
  | none => exact ⟨r, found, rfl⟩
  | some call =>
      obtain ⟨work, _, made⟩ := Option.bind_eq_some_iff.mp made
      have makes := Pending.makes_of_governorCall made
      obtain ⟨r', found', _, terms⟩ := GovernorCall.forward_after makes.saved found
      have kept : r'.asPlanned.created = r.asPlanned.created := congrArg Reservation.created terms
      exact ⟨r', found', kept⟩

/-- A plan that goes on to a reserve has created the reservation at its own time. -/
theorem createdAt_of_plan {rr : ReserveMsg} {cs shared : CoordShared}
    (ran : (Pending.plan rr).run.exec cs = (.ok (.pending (.reserve rr id)), shared)) :
    shared.gov.CreatedAt id (.ofInt64 rr.timestampNs) := by
  obtain ⟨planned, between, first, rest⟩ := Stateful.bind_eq_ok.mp ran
  obtain ⟨power, energy, validity, powered, energized, valid⟩ := Pending.planSection_returns first
  rw [Pending.exec_planSection powered energized valid] at first
  obtain ⟨outcome, rfl⟩ := Prod.mk.inj first
  cases accepted : (cs.gov.planReservation rr.workload .throughput rr.scope rr.budget power energy
      .first .first (.ofInt64 rr.timestampNs) validity).2.ok with
  | false =>
      rw [accepted] at outcome
      obtain rfl := Except.ok.inj outcome
      cases rest
  | true =>
      rw [accepted] at outcome
      obtain rfl := Except.ok.inj outcome
      cases rest
      exact Governor.find?_of_planReservation accepted

/-- The reserve of a plan is of a reservation that was created at the time of both. -/
def PlansCreated (s : Coordinator) : Prop :=
  ∀ conn c rr id, s.connections conn = some c → c.work = some (.reserve rr id) →
    s.shared.gov.CreatedAt id (.ofInt64 rr.timestampNs)

theorem plansCreated_after (created : s.PlansCreated) (event : Event) :
    (s.after event).PlansCreated := by
  intro conn c rr id found busy
  cases arises_of_after found busy with
  | same here working => exact createdAt_after (created conn c rr id here working) event
  | welcome decoded greets => cases greets
  | accepted here accepts => cases accepts
  | planned here reserves =>
      cases reserves
      by_cases running : s.running = true
      case neg =>
        have same : s.after (.proceed conn) = s := if_neg running
        rw [same, here] at found
        rw [← Option.some.inj found] at busy
        cases busy
      case pos =>
        rw [after_proceed running here] at found ⊢
        cases ran : (Pending.plan rr).run.exec s.shared with
        | mk result shared =>
            rw [ran] at found
            cases result with
            | error fault =>
                dsimp only at found
                rw [here] at found
                rw [← Option.some.inj found] at busy
                cases busy
            | ok progress =>
                dsimp only [setConnection] at found
                rw [Function.update_self] at found
                rw [← Option.some.inj found] at busy
                cases progress with
                | replied reply => cases busy
                | pending next =>
                    obtain rfl := Option.some.inj busy
                    exact createdAt_of_plan ran

end Coordinator

/-! ## What the accepted messages told -/

/-- A coordinator, the times of the accepted observations and RESERVE messages, the ones
that each handler's frame came after, the reservations granted and the accepted
POWER_OBSERVATIONs; no step reads them. -/
structure Timed where
  coordinator : Coordinator
  accepted : List Timestamp
  arrived : Nat → List Timestamp
  granted : List (ReservationId × ReserveMsg)
  observed : List PowerObsMsg

namespace Timed

def start : Timed := ⟨.start, [], fun _ => [], [], []⟩

def after (x : Timed) (event : Event) : Timed where
  coordinator := x.coordinator.after event
  accepted := x.accepted ++ (x.coordinator.acceptedTime event).toList
  arrived :=
    match x.coordinator.takesUp event with
    | some (conn, _) => Function.update x.arrived conn x.accepted
    | none => x.arrived
  granted := x.granted ++ ((x.coordinator.concludes event).bind Pending.reservation).toList
  observed := x.observed ++ ((x.coordinator.concludes event).bind Pending.observation).toList

/-- The accepted observations that carry a power. -/
def readings (x : Timed) : List PowerObsMsg := x.observed.filter PowerObsMsg.hasPower

/-- The time of the last of them. -/
def lastReading (x : Timed) : Timestamp :=
  (x.readings.getLast?.map fun po => Timestamp.ofInt64 po.timestampNs).getD .zero

/-- The reservation of an ACTIVATE was granted, and its validity had passed by a time
that was accepted before the ACTIVATE arrived. -/
def Overdue (x : Timed) (conn : Nat) (ba : BudgetActionMsg) : Prop :=
  ∃ rr t, (ba.reservation, rr) ∈ x.granted ∧ 0 < rr.timestampNs.toInt ∧ t ∈ x.arrived conn ∧
    rr.timestampNs.toInt + rr.validityNs.toInt < t.ns

/-- The last accepted observation, or the last that carries a power, is too old for a
DECISION_REQUEST. -/
def Outdated (x : Timed) (dr : ReserveMsg) : Prop :=
  ∃ po, (x.observed.getLast? = some po ∨ x.readings.getLast? = some po) ∧
    po.timestampNs.toInt + x.coordinator.shared.gov.policy.staleAfter ≤ dr.timestampNs.toInt

/-- The step answers no overdue ACTIVATE ok. -/
def RefusesOverdue (x : Timed) (event : Event) : Prop :=
  ∀ conn ba reply, x.coordinator.works event = some (.act .activate ba) → x.Overdue conn ba →
    x.coordinator.sends event = some (conn, reply) → reply.ok = false

/-- The step answers an outdated DECISION_REQUEST with REVALIDATION_REQUIRED. -/
def RevalidatesOutdated (x : Timed) (event : Event) : Prop :=
  ∀ dr, x.coordinator.works event = some (.decide dr) → x.Outdated dr →
    ∃ conn dec, x.coordinator.sends event =
        some (conn, sendAck dr.workload.raw true (.decision dec)) ∧
      dec.verdict = .revalidationRequired

end Timed

/-! ## What is kept -/

namespace Governor

variable {g : Governor} {work : Pending}

/-- Only an observation moves the time of the last one. -/
theorem lastObserved_of_unobserving (other : ∀ po, work ≠ .observe po) (g : Governor) :
    (g.afterCall work.governorCall).live.lastObserved = g.live.lastObserved := by
  cases made : work.governorCall with
  | none => rfl
  | some call =>
      have tracks : (⟨some g.live.lastObserved, g.live.hardwareCap⟩ : Telemetry).Tracks g := rfl
      have told := congrArg Prod.fst (tracks.after call)
      cases Pending.makes_of_governorCall made with
      | observe sampled => exact absurd rfl (other _)
      | _ => exact told

/-- And only one that carries a power. -/
theorem lastObserved_of_observe {po : PowerObsMsg} {sample : BackendSample}
    (sampled : po.sample = .ok sample) (g : Governor) :
    (g.afterCall (Pending.observe po).governorCall).live.lastObserved =
      if po.hasPower then .ofInt64 po.timestampNs else g.live.lastObserved := by
  have tracks : (⟨some g.live.lastObserved, g.live.hardwareCap⟩ : Telemetry).Tracks g := rfl
  have told := congrArg Prod.fst (tracks.after (.observeBackend sample (.ofInt64 po.timestampNs)))
  have made : (Pending.observe po).governorCall =
      some (.observeBackend sample (.ofInt64 po.timestampNs)) := by
    unfold Pending.governorCall
    dsimp only
    rw [sampled]
    rfl
  rw [made, ← PowerObsMsg.isSome_power sampled]
  refine Eq.trans told ?_
  unfold Telemetry.after
  cases present : sample.power <;> simp [present]

end Governor

namespace Coordinator

variable {s : Coordinator} {event : Event}

theorem works_of_concludes {work : Pending} (concluded : s.concludes event = some work) :
    s.acknowledges event = true ∧ s.works event = some work := by
  unfold concludes at concluded
  split at concluded
  · exact ⟨‹_›, concluded⟩
  · cases concluded

/-- An observation that does not end the process is accepted. -/
theorem concludes_observe {po : PowerObsMsg} (working : s.works event = some (.observe po))
    (survives : (s.after event).running = true) :
    s.concludes event = some (.observe po) ∧ ∃ sample, po.sample = .ok sample := by
  obtain ⟨running, conn, reg, rfl, found⟩ := works_eq_some working
  rw [after_proceed running found] at survives
  cases ran : (Pending.observe po).run.exec s.shared with
  | mk result shared =>
      rw [ran] at survives
      cases result with
      | error fault => cases survives
      | ok progress =>
          obtain ⟨reply, _, answered, made⟩ := Stateful.bind_eq_ok.mp ran
          obtain ⟨sample, _, sampled, answered⟩ := Stateful.bind_eq_ok.mp answered
          obtain ⟨_, _, _, worded⟩ := Stateful.bind_eq_ok.mp answered
          cases made
          cases worded
          have sent := sends_proceed_iff.mpr ⟨running, rfl, reg, _, found, congrArg Prod.fst ran⟩
          refine ⟨?_, sample, congrArg Prod.fst sampled⟩
          unfold concludes acknowledges
          rw [sent, working]
          rfl

end Coordinator

namespace Timed

variable {x : Timed} {event : Event}

/-- The Governor serves, every grant was created at the time of its RESERVE, and the
Governor has seen the last reading and no later one. -/
structure Kept (x : Timed) : Prop where
  serving : x.coordinator.shared.gov.Serving
  planned : x.coordinator.PlansCreated
  granted : ∀ id rr, (id, rr) ∈ x.granted →
    x.coordinator.shared.gov.CreatedAt id (.ofInt64 rr.timestampNs)
  reading : x.coordinator.running = true →
    x.coordinator.shared.gov.live.lastObserved = x.lastReading

theorem granted_after (kept : x.Kept) (event : Event) :
    ∀ id rr, (id, rr) ∈ (x.after event).granted →
      (x.after event).coordinator.shared.gov.CreatedAt id (.ofInt64 rr.timestampNs) := by
  intro id rr member
  apply Coordinator.createdAt_after
  rcases List.mem_append.mp member with before | new
  · exact kept.granted id rr before
  · obtain ⟨work, concluded, grants⟩ := Option.bind_eq_some_iff.mp (Option.mem_toList.mp new)
    obtain ⟨_, working⟩ := Coordinator.works_of_concludes concluded
    obtain ⟨_, conn, reg, _, found⟩ := Coordinator.works_eq_some working
    cases work with
    | reserve rr planned =>
        obtain ⟨rfl, rfl⟩ := Prod.mk.inj (Option.some.inj grants)
        exact kept.planned conn _ rr planned found rfl
    | _ => cases grants

/-- A reading becomes the last one. -/
theorem lastReading_of_observe {po : PowerObsMsg}
    (concluded : x.coordinator.concludes event = some (.observe po)) :
    (x.after event).lastReading =
      if po.hasPower then .ofInt64 po.timestampNs else x.lastReading := by
  have observed : (x.after event).observed = x.observed ++ [po] := by
    show x.observed ++ _ = _
    rw [concluded]
    rfl
  unfold lastReading readings
  rw [observed, List.filter_append]
  cases carries : po.hasPower with
  | false => simp [carries]
  | true => simp [carries]

theorem lastReading_of_unobserving
    (other : ∀ po, x.coordinator.concludes event ≠ some (.observe po)) :
    (x.after event).lastReading = x.lastReading := by
  have observed : (x.after event).observed = x.observed := by
    show x.observed ++ _ = _
    cases concluded : x.coordinator.concludes event with
    | none => exact List.append_nil _
    | some work =>
        cases work with
        | observe po => exact absurd concluded (other po)
        | _ => exact List.append_nil _
  unfold lastReading readings
  rw [observed]

theorem reading_after (kept : x.Kept) (event : Event)
    (survives : (x.after event).coordinator.running = true) :
    (x.after event).coordinator.shared.gov.live.lastObserved = (x.after event).lastReading := by
  have running : x.coordinator.running = true := by
    by_contra stopped
    have same : x.coordinator.after event = x.coordinator := if_neg stopped
    exact stopped ((congrArg Coordinator.running same).symm.trans survives)
  have device : (x.after event).coordinator.shared.gov.live.lastObserved =
      (x.coordinator.shared.gov.afterCall
        ((x.coordinator.works event).bind Pending.governorCall)).live.lastObserved := by
    have same := congrArg (fun holdings => holdings.2.2.1)
      (Coordinator.holdings_after x.coordinator event)
    exact congrArg (fun device => (device.getD DeviceState.blank).lastObserved) same
  rw [device]
  cases working : x.coordinator.works event with
  | none =>
      rw [lastReading_of_unobserving]
      · exact kept.reading running
      · intro po concluded
        rw [(Coordinator.works_of_concludes concluded).2] at working
        cases working
  | some work =>
      by_cases observes : ∃ po, work = .observe po
      · obtain ⟨po, rfl⟩ := observes
        obtain ⟨concluded, sample, sampled⟩ := Coordinator.concludes_observe working survives
        rw [lastReading_of_observe concluded, ← kept.reading running]
        exact Governor.lastObserved_of_observe sampled _
      · rw [lastReading_of_unobserving, ← kept.reading running]
        · exact Governor.lastObserved_of_unobserving (not_exists.mp observes) _
        · intro po concluded
          rw [(Coordinator.works_of_concludes concluded).2] at working
          exact observes ⟨po, (Option.some.inj working).symm⟩

theorem kept_after (kept : x.Kept) (event : Event) : (x.after event).Kept where
  serving := Coordinator.serving_invariant.after kept.serving event
  planned := Coordinator.plansCreated_after kept.planned event
  granted := granted_after kept event
  reading := reading_after kept event

theorem kept_start : start.Kept where
  serving := Coordinator.serving_invariant.start
  planned := by
    intro conn c rr id found
    cases found
  granted := by
    intro id rr member
    cases member
  reading := fun _ => rfl

end Timed

/-! ## ACTIVATE at time zero -/

/-- Everything but its validity lets the reservation of an ACTIVATE be activated. -/
def Governor.Activatable (g : Governor) (ba : BudgetActionMsg) : Prop :=
  ∃ r, g.reservations.find? ba.reservation = some r ∧
    (r.state = .reserved ∨ r.state = .admitted) ∧ r.budgetGeneration = ba.budgetGen ∧
      g.budgets.Bookable false r.budget r.requestedPower ba.budgetGen

/-- At time zero no reservation that was created later has expired. -/
theorem Governor.activates_iff {g : Governor} {ba : BudgetActionMsg} {time : Timestamp}
    (created : g.CreatedAt ba.reservation time) (later : 0 < time.ns) :
    ∃ g' result, g.activateReservation ba.reservation ba.budgetGen Timestamp.zero =
      .ok (g', result) ∧ (result.ok = true ↔ g.Activatable ba) := by
  obtain ⟨r, found, rfl⟩ := created
  have alive : r.expired Timestamp.zero = .ok false := by
    apply Reservation.alive_of_within
    have nonneg := r.validity.nonneg
    show 0 - r.created.ns ≤ r.validity.ns
    omega
  obtain ⟨result, rm, bm, activated, accepts⟩ :=
    @ReservationManager.activate_accepts_iff g.reservations g.budgets _ r ba.budgetGen _ found alive
  have executed : ReservationCall.exec g.books
      (.activate ba.reservation ba.budgetGen Timestamp.zero) = .ok (result, ⟨rm, bm, g.ids⟩) := by
    show (g.reservations.activate ba.reservation g.budgets ba.budgetGen Timestamp.zero >>= _) = _
    rw [activated]
    rfl
  obtain ⟨g', returned, _⟩ := activateReservation_returns executed
  refine ⟨g', result, returned, accepts.trans ⟨fun others => ⟨r, found, others⟩, ?_⟩⟩
  rintro ⟨other, same, others⟩
  obtain rfl := Option.some.inj (found.symm.trans same)
  exact others

/-- The reply to such an ACTIVATE. -/
theorem Coordinator.sends_activate {s : Coordinator} {conn : Nat} {reg : RegisterMsg}
    {ba : BudgetActionMsg} {time : Timestamp} (running : s.running = true)
    (found : s.connections conn = some ⟨reg, some (.act .activate ba)⟩)
    (created : s.shared.gov.CreatedAt ba.reservation time) (later : 0 < time.ns) :
    ∃ reply, s.sends (.proceed conn) = some (conn, reply) ∧
      (reply.ok = true ↔ s.shared.gov.Activatable ba) := by
  obtain ⟨g', result, returned, accepts⟩ := Governor.activates_iff created later
  refine ⟨sendAck ba.reservation.raw result.ok (.text result.reason), ?_, accepts⟩
  apply sends_proceed_iff.mpr
  refine ⟨running, rfl, reg, _, found, ?_⟩
  have called : (CoordShared.call fun g =>
      g.activateReservation ba.reservation ba.budgetGen Timestamp.zero).exec s.shared =
      (.ok result, { s.shared with gov := g' }) := by
    rw [CoordShared.exec_call, returned]
  have answered : (Pending.actSection .activate ba).exec s.shared =
      (.ok (sendAck ba.reservation.raw result.ok (.text result.reason)), _) :=
    Stateful.exec_bind_of_ok called _
  exact congrArg Prod.fst (Stateful.exec_bind_of_ok answered _)

/-! ## DECISION_REQUEST at time zero -/

/-- At time zero an observation counts as stale if it was never made, or so long before
time zero. -/
def PowerPolicy.StaleAtZero (p : PowerPolicy) (observed : Timestamp) : Prop :=
  observed.isZero = true ∨
    max p.observationFreshness.ns p.observationStale.ns ≤ max 0 (-observed.ns)

namespace CoordShared

variable {cs : CoordShared} {dr : ReserveMsg}

/-- Every stage lets the request pass, and the hysteresis turns the ALLOW into an
earlier request for revalidation. -/
def HeldBack (cs : CoordShared) (dr : ReserveMsg) : Prop :=
  ∃ power input outcome, Quantity.construct (dr.requestedMw.toInt / 1000) = .ok power ∧
    cs.gov.filledInput dr.budget .throughput power Joules.zero Timestamp.zero = .ok input ∧
    input.stages = .defaultAllow outcome ∧ cs.gov.engine.Recalls cs.gov.policy

/-- A request is harmless if it can be converted and filled in. -/
theorem harmless_decide_iff (serving : cs.gov.Serving) :
    cs.Harmless (.decide dr) ↔
      ∃ power input, Quantity.construct (dr.requestedMw.toInt / 1000) = .ok power ∧
        cs.gov.filledInput dr.budget .throughput power Joules.zero Timestamp.zero = .ok input := by
  have range : (UnitTag.dim .watts).Admits ((dr.requestedMw.toInt : ℚ) / 1000) ↔
      0 ≤ dr.requestedMw.toInt := scaled_nonneg_iff (by norm_num)
  have fills := fun power => Governor.filledInput_returns_iff serving dr.budget .throughput power
    Joules.zero
  show 0 ≤ dr.requestedMw.toInt ∧ _ ↔ _
  rw [← range, ← Quantity.construct_returns_iff]
  constructor
  · rintro ⟨⟨power, powered⟩, fits⟩
    obtain ⟨input, filled⟩ := (fills power).mpr fits
    exact ⟨power, input, powered, filled⟩
  · rintro ⟨power, input, powered, filled⟩
    exact ⟨⟨power, powered⟩, (fills power).mp ⟨input, filled⟩⟩

theorem replied_decide_iff {reply : Reply} :
    ((Pending.decide dr).run.exec cs).1 = .ok (.replied reply) ↔
      ((Pending.decideSection dr).exec cs).1 = .ok reply := by
  unfold Pending.run
  dsimp only
  rw [Stateful.exec_bind]
  generalize (Pending.decideSection dr).exec cs = ended
  obtain ⟨result, left⟩ := ended
  cases result with
  | error fault => exact ⟨nofun, nofun⟩
  | ok answer => simp

/-- The section answers what the Governor decides. -/
theorem decides_iff : (∃ dec, ((Pending.decideSection dr).exec cs).1 =
        .ok (sendAck dr.workload.raw true (.decision dec)) ∧
      dec.verdict = .revalidationRequired) ↔
    ∃ power, Quantity.construct (dr.requestedMw.toInt / 1000) = .ok power ∧
      cs.gov.Revalidates dr.budget dr.workload .throughput power Joules.zero 1 Timestamp.zero := by
  constructor
  · rintro ⟨dec, ran, asks⟩
    obtain ⟨power, _, powered, ran⟩ := Stateful.bind_eq_ok.mp (Prod.ext ran rfl)
    obtain ⟨decision, _, decided, worded⟩ := Stateful.bind_eq_ok.mp ran
    obtain ⟨constructed, rfl⟩ := Prod.mk.inj powered
    cases worded
    have returned : ((Governor.decideFor dr.budget dr.workload .throughput power Joules.zero 1
        Timestamp.zero).exec cs.gov).1 = .ok dec := congrArg Prod.fst decided
    exact ⟨power, constructed, dec, _, Prod.ext returned rfl, asks⟩
  · rintro ⟨power, powered, dec, g', decided, asks⟩
    refine ⟨dec, ?_, asks⟩
    have ran : (onGov (Governor.decideFor dr.budget dr.workload .throughput power Joules.zero 1
        Timestamp.zero)).exec cs = (.ok dec, { cs with gov := g' }) := by
      unfold onGov
      rw [Stateful.exec_zoom, decided]
    unfold Pending.decideSection
    rw [powered, Stateful.exec_bind_of_ok (Stateful.exec_ofExcept _ _)]
    exact congrArg Prod.fst (Stateful.exec_bind_of_ok ran _)

/-- It asks for revalidation exactly when the request is harmless and the evidence stale
at time zero, or an earlier request held. -/
theorem asks_iff (serving : cs.gov.Serving) :
    (∃ dec, ((Pending.decideSection dr).exec cs).1 =
        .ok (sendAck dr.workload.raw true (.decision dec)) ∧
      dec.verdict = .revalidationRequired) ↔
    cs.Harmless (.decide dr) ∧
      (cs.gov.policy.StaleAtZero cs.gov.live.lastObserved ∨ cs.HeldBack dr) := by
  have decides := fun power : Watts => Governor.revalidates_iff_of_instant serving.stock
    serving.decided dr.budget dr.workload .throughput power Joules.zero 1
  have zeroed : Timestamp.zero.ns - cs.gov.live.lastObserved.ns = -cs.gov.live.lastObserved.ns :=
    zero_sub _
  rw [decides_iff, harmless_decide_iff serving]
  unfold PowerPolicy.StaleAtZero HeldBack
  rw [zeroed] at decides
  constructor
  · rintro ⟨power, powered, asks⟩
    obtain ⟨input, filled, because⟩ := (decides power).mp asks
    refine ⟨⟨power, input, powered, filled⟩, ?_⟩
    rcases because with never | old | ⟨⟨outcome, staged⟩, recalls⟩
    · exact .inl (.inl never)
    · exact .inl (.inr old)
    · exact .inr ⟨power, input, outcome, powered, filled, staged, recalls⟩
  · rintro ⟨⟨power, input, powered, filled⟩, because⟩
    refine ⟨power, powered, (decides power).mpr ?_⟩
    rcases because with (never | old) | ⟨other, held, outcome, same, fills, staged, recalls⟩
    · exact ⟨input, filled, .inl never⟩
    · exact ⟨input, filled, .inr (.inl old)⟩
    · obtain rfl := Except.ok.inj (powered.symm.trans same)
      exact ⟨held, fills, .inr (.inr ⟨⟨outcome, staged⟩, recalls⟩)⟩

end CoordShared

/-! ## Runs -/

namespace Timed

open Coordinator (registering reserveMsg temperatureMsg activateFrame actionMsg)

variable {x : Timed} {event : Event}

/-- An overdue ACTIVATE that the step would answer is refused for another reason. -/
def Withheld (x : Timed) (event : Event) : Prop :=
  ∀ conn ba, event = .proceed conn → x.coordinator.works event = some (.act .activate ba) →
    x.Overdue conn ba → ¬ x.coordinator.shared.gov.Activatable ba

/-- An outdated DECISION_REQUEST that the step would answer is harmless, and the last
reading counts as stale at time zero or an earlier request for revalidation is held. -/
def RevalidatesAnyway (x : Timed) (event : Event) : Prop :=
  ∀ dr, x.coordinator.works event = some (.decide dr) → x.Outdated dr →
    x.coordinator.shared.Harmless (.decide dr) ∧
      (x.coordinator.shared.gov.policy.StaleAtZero x.lastReading ∨ x.coordinator.shared.HeldBack dr)

/-- The reservation of an overdue ACTIVATE was created after time zero. -/
theorem Kept.created (kept : x.Kept) {conn : Nat} {ba : BudgetActionMsg}
    (overdue : x.Overdue conn ba) :
    ∃ time, x.coordinator.shared.gov.CreatedAt ba.reservation time ∧ 0 < time.ns := by
  obtain ⟨rr, _, member, later, _⟩ := overdue
  exact ⟨_, kept.granted _ rr member, later⟩

theorem refusesOverdue_iff (kept : x.Kept) (event : Event) :
    x.RefusesOverdue event ↔ x.Withheld event := by
  constructor
  · rintro refuses conn ba rfl working overdue activatable
    obtain ⟨running, _, reg, same, found⟩ := Coordinator.works_eq_some working
    cases same
    obtain ⟨time, created, later⟩ := kept.created overdue
    obtain ⟨reply, sent, accepts⟩ := Coordinator.sends_activate running found created later
    have refused := refuses conn ba reply working overdue sent
    rw [accepts.mpr activatable] at refused
    cases refused
  · intro withheld conn ba reply working overdue sent
    obtain ⟨running, _, reg, rfl, found⟩ := Coordinator.works_eq_some working
    obtain ⟨_, rfl, _⟩ := Coordinator.sends_proceed_iff.mp sent
    obtain ⟨time, created, later⟩ := kept.created overdue
    obtain ⟨other, answered, accepts⟩ := Coordinator.sends_activate running found created later
    obtain ⟨_, rfl⟩ := Prod.mk.inj (Option.some.inj (answered.symm.trans sent))
    cases answer : other.ok with
    | false => rfl
    | true => exact absurd (accepts.mp answer) (withheld _ ba rfl working overdue)

theorem revalidatesOutdated_iff (kept : x.Kept) (event : Event) :
    x.RevalidatesOutdated event ↔ x.RevalidatesAnyway event := by
  refine forall_congr' fun dr => forall_congr' fun working => forall_congr' fun outdated => ?_
  obtain ⟨running, conn, reg, rfl, found⟩ := Coordinator.works_eq_some working
  rw [← kept.reading running, ← CoordShared.asks_iff kept.serving]
  constructor
  · rintro ⟨_, dec, sent, asks⟩
    obtain ⟨_, _, _, work, here, ran⟩ := Coordinator.sends_proceed_iff.mp sent
    cases found.symm.trans here
    exact ⟨dec, CoordShared.replied_decide_iff.mp ran, asks⟩
  · rintro ⟨dec, answered, asks⟩
    refine ⟨conn, dec, Coordinator.sends_proceed_iff.mpr ⟨running, rfl, reg, _, found, ?_⟩, asks⟩
    exact CoordShared.replied_decide_iff.mpr answered

/-- Along every run both limits are enforced exactly when every overdue ACTIVATE is
refused for another reason and every outdated DECISION_REQUEST asks for revalidation at
time zero as well. -/
theorem time_limits_enforced_iff (events : List Event) :
    Along after (fun x event => x.RefusesOverdue event ∧ x.RevalidatesOutdated event) start events ↔
      Along after (fun x event => x.Withheld event ∧ x.RevalidatesAnyway event) start events := by
  refine along_congr_of_invariant Kept ?_ ?_ kept_start events
  · intro x event kept
    exact and_congr (refusesOverdue_iff kept event) (revalidatesOutdated_iff kept event)
  · intro x event kept _
    exact kept_after kept event

/-- A reservation of second 1 for five seconds. -/
def datedMsg : ReserveMsg := { reserveMsg 10 with timestampNs := 1000000000 }

/-- The temperature of second 10. -/
def laterMsg : ThermalObsMsg := { temperatureMsg with timestampNs := 10000000000 }

/-- Worker 1 reserves for five seconds in second 1, sends a temperature in second 10 and
then activates. -/
def lapsing : List Event := registering ++ [.installBudget 1 0 100 100,
  .frame 1 ⟨.reserve, encodeReserve datedMsg⟩, .proceed 1, .proceed 1,
  .frame 1 ⟨.thermalObservation, encodeThermalObs laterMsg⟩, .frame 1 (activateFrame 10)]

/-- 50 W in second 1. -/
def readingMsg : PowerObsMsg where
  worker := ⟨1⟩
  boot := ⟨10⟩
  epoch := .first
  accel := ⟨1⟩
  deviceGen := .first
  obsGen := .first
  timestampNs := 1000000000
  hasPower := true
  powerMw := 50000
  hasTemp := false
  tempCenti := 0
  smMhz := 0
  memMhz := 0
  hasUtil := false
  utilizationBp := 0
  hasEnergy := false
  energyMj := 0
  throttled := false
  provenance := 0
  source := []

/-- A request of second 100. -/
def askMsg : ReserveMsg := { reserveMsg 10 with timestampNs := 100000000000 }

/-- Worker 1 reports its power in second 1 and asks for a decision in second 100. -/
def aging : List Event := registering ++
  [.frame 1 ⟨.powerObservation, (encodePowerObs readingMsg).toOption.getD []⟩, .proceed 1,
    .frame 1 ⟨.decisionRequest, encodeReserve askMsg⟩]

/-- The reservation is activated four seconds after its validity. -/
theorem overdue_activated : ¬ ∀ events, Along after RefusesOverdue start events := by
  intro enforced
  obtain ⟨_, _, _, _, _, _, _, _, refuses, _⟩ := enforced (lapsing ++ [.proceed 1])
  have working : (lapsing.foldl after start).coordinator.works (.proceed 1) =
      some (.act .activate (actionMsg 10)) := by decide +kernel
  have granted : (lapsing.foldl after start).granted = [(⟨1⟩, datedMsg)] := by decide +kernel
  have arrived : (lapsing.foldl after start).arrived 1 =
      [.ofInt64 datedMsg.timestampNs, .ofInt64 laterMsg.timestampNs] := by decide +kernel
  have answered : ((lapsing.foldl after start).coordinator.sends (.proceed 1)).map
      (fun sent => (sent.1, sent.2.ok)) = some (1, true) := by decide +kernel
  obtain ⟨⟨conn, reply⟩, sent, same⟩ := Option.map_eq_some_iff.mp answered
  obtain ⟨rfl, accepted⟩ := Prod.mk.inj same
  have overdue : (lapsing.foldl after start).Overdue 1 (actionMsg 10) := by
    refine ⟨datedMsg, .ofInt64 laterMsg.timestampNs, ?_, by decide, ?_, by decide⟩
    · rw [granted]
      exact List.mem_singleton.mpr rfl
    · rw [arrived]
      exact List.mem_cons_of_mem _ (List.mem_singleton.mpr rfl)
  have refused := refuses 1 (actionMsg 10) reply working overdue sent
  rw [accepted] at refused
  cases refused

/-- The verdict a reply carries. -/
def verdictOf (reply : Reply) : Option DecisionVerdict :=
  match reply.message with
  | .decision dec => some dec.verdict
  | _ => none

/-- A reading of 99 seconds ago counts as current. -/
theorem outdated_allowed : ¬ ∀ events, Along after RevalidatesOutdated start events := by
  intro enforced
  obtain ⟨_, _, _, _, _, revalidates, _⟩ := enforced (aging ++ [.proceed 1])
  have working : (aging.foldl after start).coordinator.works (.proceed 1) =
      some (.decide askMsg) := by decide +kernel
  have observed : (aging.foldl after start).observed = [readingMsg] := by decide +kernel
  have old : readingMsg.timestampNs.toInt +
      (aging.foldl after start).coordinator.shared.gov.policy.staleAfter ≤
        askMsg.timestampNs.toInt := by decide +kernel
  have allowed : ((aging.foldl after start).coordinator.sends (.proceed 1)).bind
      (fun sent => verdictOf sent.2) = some .allow := by decide +kernel
  have outdated : (aging.foldl after start).Outdated askMsg := by
    refine ⟨readingMsg, .inl ?_, old⟩
    rw [observed]
    rfl
  obtain ⟨conn, dec, sent, asks⟩ := revalidates askMsg working outdated
  change (aging.foldl after start).coordinator.sends (.proceed 1) = _ at sent
  rw [sent] at allowed
  cases asks.symm.trans (Option.some.inj allowed)

theorem time_limits_unenforced :
    (¬ ∀ events, Along after RefusesOverdue start events) ∧
      ¬ ∀ events, Along after RevalidatesOutdated start events :=
  ⟨overdue_activated, outdated_allowed⟩

end Timed

end PowerGovernor
