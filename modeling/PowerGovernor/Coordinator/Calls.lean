import PowerGovernor.Coordinator.Runs
import PowerGovernor.Governor.Run

/-!
The Governor behind a coordinator.

Owns the Governor call that a section makes, and the theorem that a step of the
coordinator does to the reservations, the device and the engine what the call of its
section does. The commands install budgets and policies only.
-/

set_option autoImplicit false

namespace PowerGovernor

namespace Pending

/-- The call a section makes, unless converting the message throws first. -/
def governorCall : Pending → Option GovernorCall
  | .welcome _ => none
  | .observe po => Except.toOption do
    let s ← po.sample
    return .observeBackend s (.ofInt64 po.timestampNs)
  | .plan rr => Except.toOption do
    let power ← Quantity.construct (rr.requestedMw.toInt / 1000)
    let energy ← Quantity.construct (rr.requestedMj.toInt / 1000)
    let validity ← Duration.construct rr.validityNs.toInt
    return .planReservation rr.workload .throughput rr.scope rr.budget power energy .first .first
      (.ofInt64 rr.timestampNs) validity
  | .reserve rr planned =>
    some (.reserveReservation planned rr.budgetGen (.ofInt64 rr.timestampNs))
  | .act .activate ba => some (.activateReservation ba.reservation ba.budgetGen Timestamp.zero)
  | .act .release ba => some (.releaseReservation ba.reservation ba.budgetGen Timestamp.zero)
  | .decide dr => Except.toOption do
    let power ← Quantity.construct (dr.requestedMw.toInt / 1000)
    return .decideFor dr.budget dr.workload .throughput power Joules.zero 1 Timestamp.zero

/-- The section makes the call, so its message has been converted. -/
inductive Makes : Pending → GovernorCall → Prop where
  | observe {po : PowerObsMsg} {sample : BackendSample} (sampled : po.sample = .ok sample) :
      Makes (.observe po) (.observeBackend sample (.ofInt64 po.timestampNs))
  | plan {rr : ReserveMsg} {power : Watts} {energy : Joules} {validity : Duration}
      (powered : Quantity.construct (rr.requestedMw.toInt / 1000) = .ok power)
      (energized : Quantity.construct (rr.requestedMj.toInt / 1000) = .ok energy)
      (valid : Duration.construct rr.validityNs.toInt = .ok validity) :
      Makes (.plan rr) (.planReservation rr.workload .throughput rr.scope rr.budget power energy
        .first .first (.ofInt64 rr.timestampNs) validity)
  | reserve {rr : ReserveMsg} {planned : ReservationId} :
      Makes (.reserve rr planned)
        (.reserveReservation planned rr.budgetGen (.ofInt64 rr.timestampNs))
  | activate {ba : BudgetActionMsg} : Makes (.act .activate ba)
      (.activateReservation ba.reservation ba.budgetGen Timestamp.zero)
  | release {ba : BudgetActionMsg} : Makes (.act .release ba)
      (.releaseReservation ba.reservation ba.budgetGen Timestamp.zero)
  | decide {dr : ReserveMsg} {power : Watts}
      (powered : Quantity.construct (dr.requestedMw.toInt / 1000) = .ok power) :
      Makes (.decide dr)
        (.decideFor dr.budget dr.workload .throughput power Joules.zero 1 Timestamp.zero)

theorem makes_of_governorCall {work : Pending} {made : GovernorCall}
    (is : work.governorCall = some made) : work.Makes made := by
  unfold governorCall at is
  cases work with
  | welcome worker => cases is
  | observe po =>
      dsimp only at is
      cases sampled : po.sample with
      | error fault =>
          rw [sampled] at is
          cases is
      | ok sample =>
          rw [sampled] at is
          obtain rfl := Option.some.inj is
          exact .observe sampled
  | plan rr =>
      dsimp only at is
      cases powered : (Quantity.construct (rr.requestedMw.toInt / 1000) : Except Fault Watts) with
      | error fault =>
          rw [powered] at is
          cases is
      | ok power =>
          cases energized :
              (Quantity.construct (rr.requestedMj.toInt / 1000) : Except Fault Joules) with
          | error fault =>
              rw [powered, energized] at is
              cases is
          | ok energy =>
              cases valid : Duration.construct rr.validityNs.toInt with
              | error fault =>
                  rw [powered, energized, valid] at is
                  cases is
              | ok validity =>
                  rw [powered, energized, valid] at is
                  obtain rfl := Option.some.inj is
                  exact .plan powered energized valid
  | reserve rr planned =>
      obtain rfl := Option.some.inj is
      exact .reserve
  | act action ba =>
      cases action with
      | activate =>
          obtain rfl := Option.some.inj is
          exact .activate
      | release =>
          obtain rfl := Option.some.inj is
          exact .release
  | decide dr =>
      dsimp only at is
      cases powered : (Quantity.construct (dr.requestedMw.toInt / 1000) : Except Fault Watts) with
      | error fault =>
          rw [powered] at is
          cases is
      | ok power =>
          rw [powered] at is
          obtain rfl := Option.some.inj is
          exact .decide powered

end Pending

/-- The Governor after a call, if there is one. -/
def Governor.afterCall (g : Governor) (made : Option GovernorCall) : Governor :=
  made.elim g fun call => call.after g

namespace CoordShared

variable {cs : CoordShared} {α β : Type}

theorem exec_call (operation : Governor → Except Fault (Governor × α)) :
    (call operation).exec cs =
      match operation cs.gov with
      | .error fault => (.error fault, cs)
      | .ok (g, a) => (.ok a, { cs with gov := g }) := by
  unfold call onGov
  rw [Stateful.exec_zoom, Stateful.exec_bind_of_ok (Stateful.exec_get _), Stateful.exec_bind,
    Stateful.exec_ofExcept]
  cases operation cs.gov <;> rfl

/-- What follows a call only words the reply. -/
theorem shared_onGov_bind (x : Stateful Fault Governor α) (f : α → β) :
    ((onGov x >>= fun a => (pure (f a) : Stateful Fault CoordShared β)).exec cs).2 =
      { cs with gov := (x.exec cs.gov).2 } :=
  Stateful.state_bind (fun _ _ => rfl) cs

theorem shared_call_bind (operation : Governor → Except Fault (Governor × ReservationResult))
    (f : ReservationResult → β) :
    ((call operation >>= fun a => (pure (f a) : Stateful Fault CoordShared β)).exec cs).2 =
      { cs with gov := cs.gov.settle (operation cs.gov) } := by
  rw [Stateful.exec_bind, exec_call]
  unfold Governor.settle
  cases operation cs.gov <;> rfl

end CoordShared

namespace Pending

/-- A plan whose quantities convert. -/
theorem exec_planSection {rr : ReserveMsg} {power : Watts} {energy : Joules} {validity : Duration}
    (powered : Quantity.construct (rr.requestedMw.toInt / 1000) = .ok power)
    (energized : Quantity.construct (rr.requestedMj.toInt / 1000) = .ok energy)
    (valid : Duration.construct rr.validityNs.toInt = .ok validity) (cs : CoordShared) :
    (planSection rr).exec cs =
      let planned := cs.gov.planReservation rr.workload .throughput rr.scope rr.budget power energy
        .first .first (.ofInt64 rr.timestampNs) validity
      (.ok (if planned.2.ok then .ok planned.2.id
          else .error (sendError 0 ("plan:" ++ planned.2.reason))),
        { cs with gov := planned.1 }) := by
  unfold planSection
  rw [powered, energized, valid]
  rw [Stateful.exec_bind_of_ok (Stateful.exec_ofExcept _ _),
    Stateful.exec_bind_of_ok (Stateful.exec_ofExcept _ _),
    Stateful.exec_bind_of_ok (Stateful.exec_ofExcept _ _), Stateful.exec_bind,
    CoordShared.exec_call]
  rfl

/-- A plan that does not throw has converted its quantities. -/
theorem planSection_returns {rr : ReserveMsg} {cs cs' : CoordShared}
    {planned : Except Reply ReservationId} (ran : (planSection rr).exec cs = (.ok planned, cs')) :
    ∃ (power : Watts) (energy : Joules) (validity : Duration),
      Quantity.construct (rr.requestedMw.toInt / 1000) = .ok power ∧
      Quantity.construct (rr.requestedMj.toInt / 1000) = .ok energy ∧
      Duration.construct rr.validityNs.toInt = .ok validity := by
  obtain ⟨power, _, powered, ran⟩ := Stateful.bind_eq_ok.mp ran
  obtain ⟨energy, _, energized, ran⟩ := Stateful.bind_eq_ok.mp ran
  obtain ⟨validity, _, valid, _⟩ := Stateful.bind_eq_ok.mp ran
  exact ⟨power, energy, validity, congrArg Prod.fst powered, congrArg Prod.fst energized,
    congrArg Prod.fst valid⟩

/-- A section does to the Governor what its call does, and nothing else. -/
theorem shared_run (p : Pending) (cs : CoordShared) :
    (p.run.exec cs).2 = { cs with gov := cs.gov.afterCall p.governorCall } := by
  have replies : ∀ x : Stateful Fault CoordShared Reply,
      ((do return Progress.replied (← x) : Stateful Fault CoordShared Progress).exec cs).2 =
        (x.exec cs).2 := fun x =>
    Stateful.state_bind (fun _ _ => rfl) cs
  cases p with
  | welcome worker => rfl
  | observe po =>
      refine (replies _).trans ?_
      unfold observeSection governorCall
      dsimp only
      rw [Stateful.exec_bind, Stateful.exec_ofExcept]
      cases po.sample with
      | error fault => rfl
      | ok s => exact CoordShared.shared_onGov_bind _ _
  | plan rr =>
      refine (Stateful.state_bind (fun planned _ => ?_) cs).trans ?_
      · cases planned <;> rfl
      unfold planSection governorCall
      dsimp only
      rw [Stateful.exec_bind, Stateful.exec_ofExcept]
      cases (Quantity.construct (rr.requestedMw.toInt / 1000) : Except Fault Watts) with
      | error fault => rfl
      | ok power =>
          dsimp only
          rw [Stateful.exec_bind, Stateful.exec_ofExcept]
          cases (Quantity.construct (rr.requestedMj.toInt / 1000) : Except Fault Joules) with
          | error fault => rfl
          | ok energy =>
              dsimp only
              rw [Stateful.exec_bind, Stateful.exec_ofExcept]
              cases Duration.construct rr.validityNs.toInt with
              | error fault => rfl
              | ok validity => exact CoordShared.shared_call_bind _ _
  | reserve rr planned =>
      refine (replies _).trans ?_
      exact CoordShared.shared_call_bind _ _
  | act action ba =>
      refine (replies _).trans ?_
      cases action with
      | activate => exact CoordShared.shared_call_bind _ _
      | release => exact CoordShared.shared_call_bind _ _
  | decide dr =>
      refine (replies _).trans ?_
      unfold decideSection governorCall
      dsimp only
      rw [Stateful.exec_bind, Stateful.exec_ofExcept]
      cases (Quantity.construct (dr.requestedMw.toInt / 1000) : Except Fault Watts) with
      | error fault => rfl
      | ok power => exact CoordShared.shared_onGov_bind _ _

end Pending

/-! ## Steps -/

/-- What no command of the control loop changes. -/
def Governor.holdings (g : Governor) :
    ReservationManager × ReservationIndex × Option DeviceState × DecisionEngine :=
  (g.reservations, g.resIndex, g.device, g.engine)

namespace CoordShared

/-- A command that installs something into the Governor keeps its holdings. -/
theorem holdings_installBudget (id parent : UInt64) (hmax soft : ℚ) :
    Stateful.Keeps (fun cs => cs.gov.holdings) (installBudget id parent hmax soft) := by
  apply Stateful.keeps_bind (Stateful.keeps_ofExcept _)
  intro hardMax
  apply Stateful.keeps_bind (Stateful.keeps_ofExcept _)
  intro softTarget
  exact fun _ => rfl

theorem holdings_installPolicy (g : Governor) (p : PowerPolicy) :
    (g.installPolicy p).1.holdings = g.holdings := by
  rcases g.installPolicy_cases p with ⟨_, installed⟩ | ⟨_, refused⟩
  · rw [installed]
    rfl
  · rw [refused]

theorem holdings_setPolicy (cap : ℚ) :
    Stateful.Keeps (fun cs => cs.gov.holdings) (setPolicy cap) := by
  apply Stateful.keeps_bind Stateful.keeps_get
  intro cs
  apply Stateful.keeps_bind fun _ => rfl
  intro _
  apply Stateful.keeps_bind (Stateful.keeps_ofExcept _)
  intro cap
  exact fun cs => holdings_installPolicy cs.gov _

end CoordShared

namespace Coordinator

variable {s : Coordinator} {event : Event}

theorem after_proceed {conn : Nat} {reg : RegisterMsg} {work : Pending}
    (running : s.running = true) (found : s.connections conn = some ⟨reg, some work⟩) :
    s.after (.proceed conn) =
      match work.run.exec s.shared with
      | (.error _, shared) => { s with shared := shared, running := false }
      | (.ok progress, shared) =>
        { s with
          shared := shared
          granted := s.granted ++ (work.grant reg.worker progress).toList }.setConnection conn
            (some ⟨reg, progress.next⟩) := by
  unfold after take
  rw [if_pos running]
  dsimp only
  split
  · rename_i here
    cases found.symm.trans here
    rfl
  · rename_i other
    exact absurd found (other reg work)

/-- The section that a step runs. -/
def works (s : Coordinator) (event : Event) : Option Pending :=
  if s.running then
    match event with
    | .proceed conn => (s.connections conn).bind Connection.work
    | _ => none
  else none

/-- The frame that a handler takes up. -/
def takesUp (s : Coordinator) (event : Event) : Option (Nat × Frame) :=
  if s.running then
    match event with
    | .connect conn first =>
      match s.connections conn with
      | none => some (conn, first)
      | some _ => none
    | .frame conn m =>
      match s.connections conn with
      | some ⟨_, none⟩ => some (conn, m)
      | _ => none
    | _ => none
  else none

/-- A handler that works on a frame takes up no other. -/
theorem idle_of_takesUp {conn : Nat} {m : Frame} (taken : s.takesUp event = some (conn, m))
    {c : Connection} (found : s.connections conn = some c) : c.work = none := by
  unfold takesUp at taken
  split at taken
  case isFalse stopped => cases taken
  case isTrue running =>
    split at taken
    · split at taken
      · rename_i free
        cases taken
        rw [free] at found
        cases found
      · cases taken
    · split at taken
      · rename_i idle
        cases taken
        rw [idle] at found
        obtain rfl := Option.some.inj found
        rfl
      · cases taken
    · cases taken

/-- A new connection is one whose first frame is taken up. -/
theorem takesUp_of_connected {conn : Nat} {first : Frame}
    (changed : (s.after (.connect conn first)).connections conn ≠ s.connections conn) :
    s.takesUp (.connect conn first) = some (conn, first) ∧ first.type = .register := by
  unfold after at changed
  unfold takesUp
  split at changed
  case isFalse stopped => exact absurd rfl changed
  case isTrue running =>
    rw [if_pos running]
    unfold take at changed
    dsimp only at changed ⊢
    cases free : s.connections conn with
    | some c =>
        rw [free] at changed
        exact absurd free changed
    | none =>
        refine ⟨rfl, ?_⟩
        by_contra other
        rw [free] at changed
        dsimp only at changed
        rw [if_pos other] at changed
        exact changed free

/-- The reply that a step sends. -/
def sends (s : Coordinator) (event : Event) : Option (Nat × Reply) :=
  if s.running then
    match event with
    | .connect conn first =>
      match s.connections conn with
      | some _ => none
      | none =>
        if first.type ≠ .register then some (conn, sendError 0 "expected REGISTER")
        else match decodeRegister first with
          | none => some (conn, sendError 0 "malformed register")
          | some _ => none
    | .frame conn m =>
      match s.connections conn with
      | some ⟨_, none⟩ =>
        match (s.shared.receive m).1 with
        | .replied reply => some (conn, reply)
        | .pending _ => none
      | _ => none
    | .proceed conn =>
      match s.connections conn with
      | some ⟨_, some work⟩ =>
        match (work.run.exec s.shared).1 with
        | .ok (.replied reply) => some (conn, reply)
        | _ => none
      | _ => none
    | _ => none
  else none

theorem takesUp_frame {conn : Nat} (idle : s.Idle conn) (m : Frame) :
    s.takesUp (.frame conn m) = some (conn, m) := by
  obtain ⟨running, reg, found⟩ := idle
  unfold takesUp
  rw [if_pos running]
  dsimp only
  rw [found]

theorem sends_frame_iff {conn conn' : Nat} {m : Frame} {reply : Reply} :
    s.sends (.frame conn m) = some (conn', reply) ↔
      s.Idle conn ∧ conn' = conn ∧ (s.shared.receive m).1 = .replied reply := by
  unfold sends Idle
  by_cases running : s.running = true
  · rw [if_pos running]
    dsimp only
    rcases s.connections conn with _ | ⟨reg, _ | work⟩
    · simp
    · cases (s.shared.receive m).1 <;> simp [running, eq_comm]
    · simp
  · simp [running]

/-- A first frame is answered at once only if it is refused. -/
theorem refused_of_connect {conn conn' : Nat} {first : Frame} {reply : Reply}
    (sent : s.sends (.connect conn first) = some (conn', reply)) : reply.ok = false := by
  have refused : ∀ why : String, some (conn, sendError 0 why) = some (conn', reply) →
      reply.ok = false := by
    intro why same
    obtain ⟨_, rfl⟩ := Prod.mk.inj (Option.some.inj same)
    rfl
  unfold sends at sent
  split at sent
  case isFalse stopped => cases sent
  case isTrue running =>
    dsimp only at sent
    split at sent
    · cases sent
    · split at sent
      · exact refused _ sent
      · split at sent
        · exact refused _ sent
        · cases sent

theorem sends_proceed_iff {conn conn' : Nat} {reply : Reply} :
    s.sends (.proceed conn) = some (conn', reply) ↔
      s.running = true ∧ conn' = conn ∧ ∃ reg work,
        s.connections conn = some ⟨reg, some work⟩ ∧
          (work.run.exec s.shared).1 = .ok (.replied reply) := by
  unfold sends
  by_cases running : s.running = true
  · rw [if_pos running]
    dsimp only
    rcases s.connections conn with _ | ⟨reg, _ | work⟩
    · simp
    · simp
    · rcases ran : (work.run.exec s.shared).1 with fault | ⟨reply⟩ | next <;>
        simp [running, ran, eq_comm]
  · simp [running]

theorem works_eq_some {work : Pending} (working : s.works event = some work) :
    s.running = true ∧ ∃ conn reg, event = .proceed conn ∧
      s.connections conn = some ⟨reg, some work⟩ := by
  unfold works at working
  split at working
  case isFalse stopped => cases working
  case isTrue running =>
    refine ⟨running, ?_⟩
    split at working
    · rename_i conn
      obtain ⟨c, found, busy⟩ := Option.bind_eq_some_iff.mp working
      refine ⟨conn, c.reg, rfl, ?_⟩
      rw [found, ← busy]
    · cases working

theorem works_proceed {conn : Nat} {reg : RegisterMsg} {work : Pending}
    (running : s.running = true) (found : s.connections conn = some ⟨reg, some work⟩) :
    s.works (.proceed conn) = some work := by
  unfold works
  rw [if_pos running]
  dsimp only
  rw [found]
  rfl

theorem holdings_after (s : Coordinator) (event : Event) :
    (s.after event).shared.gov.holdings =
      (s.shared.gov.afterCall ((s.works event).bind Pending.governorCall)).holdings := by
  unfold after works
  split
  case isFalse stopped => rfl
  case isTrue running =>
    unfold take
    cases event with
    | connect conn first =>
        dsimp only
        repeat' split
        all_goals rfl
    | frame conn m =>
        dsimp only
        split
        · show (s.shared.receive m).2.gov.holdings = _
          have same : (s.shared.receive m).2.gov = s.shared.gov :=
            CoordShared.view_receive CoordShared.gov fun _ _ _ => rfl
          exact congrArg Governor.holdings same
        · rfl
    | proceed conn =>
        dsimp only
        rcases s.connections conn with _ | ⟨reg, _ | work⟩
        · rfl
        · rfl
        · have ran := Pending.shared_run work s.shared
          dsimp only
          generalize work.run.exec s.shared = ended at ran ⊢
          obtain ⟨result, shared⟩ := ended
          obtain rfl : shared = _ := ran
          cases result <;> rfl
    | disconnect conn =>
        dsimp only
        split <;> rfl
    | installBudget id parent hmax soft =>
        exact CoordShared.holdings_installBudget id parent hmax soft s.shared
    | setPolicy cap => exact CoordShared.holdings_setPolicy cap s.shared
    | rollEpoch => rfl

end Coordinator

end PowerGovernor
