import PowerGovernor.Governor.Lifecycle
import PowerGovernor.Protocol.Messages

/-!
The handler of a worker connection.

Owns what the handler threads share, the two fences, the replies, and the
processing of one frame: the fence under the mutex and the Governor calls after
it are separate sections, between which other handlers and the control loop run.

Does not own the sockets, the shutdown flag and the text of the digests.
-/

set_option autoImplicit false

namespace PowerGovernor

/-! ## Shared state -/

/-- An entry of `workers`. -/
structure Registration where
  worker : WorkerId
  boot : WorkerBootId
deriving DecidableEq

/-- An entry of `obs_hwm`. -/
structure HighWater where
  worker : WorkerId
  generation : ObservationGeneration
deriving DecidableEq

structure CoordShared where
  gov : Governor
  epoch : CoordinatorEpoch
  workers : Keyed Registration.worker
  obsHwm : Keyed HighWater.worker

namespace CoordShared

/-- Some worker is registered under the boot. -/
def Booted (cs : CoordShared) (boot : WorkerBootId) : Prop :=
  ∃ r ∈ cs.workers.entries, r.boot = boot

instance (cs : CoordShared) (boot : WorkerBootId) : Decidable (cs.Booted boot) :=
  inferInstanceAs (Decidable (∃ r ∈ cs.workers.entries, r.boot = boot))

/-- The boot a worker is registered under. -/
def bootOf (cs : CoordShared) (w : WorkerId) : Option WorkerBootId :=
  (cs.workers.find? w).map Registration.boot

/-- `fence_obs`, with the reason of a refusal. -/
def fenceObs (cs : CoordShared) (epoch : CoordinatorEpoch) (boot : WorkerBootId)
    (og : ObservationGeneration) (w : WorkerId) : Except String Unit :=
  if epoch ≠ cs.epoch then .error "STALE_EPOCH"
  else if cs.bootOf w ≠ some boot then .error "STALE_BOOT"
  else if (cs.obsHwm.find? w).any fun hi => decide (og < hi.generation) then
    .error "STALE_OBSERVATION"
  else .ok ()

/-- `fence_epoch_boot`: the boot of any worker will do. -/
def fenceEpochBoot (cs : CoordShared) (epoch : CoordinatorEpoch) (boot : WorkerBootId) :
    Except String Unit :=
  if epoch ≠ cs.epoch then .error "STALE_EPOCH"
  else if cs.Booted boot then .ok ()
  else .error "STALE_BOOT"

/-- What a REGISTER writes. -/
def register (cs : CoordShared) (reg : RegisterMsg) : CoordShared :=
  { cs with
    workers := cs.workers.assign ⟨reg.worker, reg.boot⟩
    obsHwm := cs.obsHwm.assign ⟨reg.worker, .null⟩ }

/-- What an observation that passed the fence writes. -/
def advance (cs : CoordShared) (w : WorkerId) (og : ObservationGeneration) : CoordShared :=
  { cs with obsHwm := cs.obsHwm.assign ⟨w, og⟩ }

end CoordShared

/-! ## Replies -/

/-- The message of a reply. A digest stands for what it is the digest of. -/
inductive ReplyText where
  | text (message : String)
  | decision (dec : Decision)
  | stateDigest (gov : Governor)

structure Reply where
  type : MsgType
  messageId : UInt64
  ok : Bool
  message : ReplyText

def sendAck (id : UInt64) (ok : Bool) (message : ReplyText) : Reply := ⟨.ack, id, ok, message⟩

def sendError (id : UInt64) (message : String) : Reply :=
  ⟨.error, id, false, .text ("ERROR:" ++ message)⟩

/-! ## Sections -/

/-- The two messages that act on a reservation. -/
inductive BudgetAction where
  | activate | release
deriving DecidableEq, Repr

def BudgetAction.msgType : BudgetAction → MsgType
  | .activate => .activate
  | .release => .release

/-- The section a handler runs next for the frame it is working on. -/
inductive Pending where
  | welcome (worker : WorkerId)
  | observe (po : PowerObsMsg)
  | plan (rr : ReserveMsg)
  | reserve (rr : ReserveMsg) (planned : ReservationId)
  | act (action : BudgetAction) (ba : BudgetActionMsg)
  | decide (dr : ReserveMsg)
deriving DecidableEq

/-- A section ends in the reply to the frame or in front of another section. -/
inductive Progress where
  | replied (reply : Reply)
  | pending (next : Pending)

namespace CoordShared

/-- The reply to a message that a fence refuses, or what follows the fence. -/
def fenced (cs : CoordShared) (fence : Except String Unit) (id : UInt64)
    (passed : Progress × CoordShared) : Progress × CoordShared :=
  match fence with
  | .error why => (.replied (sendError id why), cs)
  | .ok () => passed

/-- The first section: the frame is decoded and fenced. -/
def receive (cs : CoordShared) (m : Frame) : Progress × CoordShared :=
  match m.type with
  | .powerObservation =>
    match decodePowerObs m with
    | none => (.replied (sendError 0 "malformed observation"), cs)
    | some po =>
      cs.fenced (cs.fenceObs po.epoch po.boot po.obsGen po.worker) po.obsGen.raw
        (.pending (.observe po), cs.advance po.worker po.obsGen)
  | .thermalObservation =>
    match decodeThermalObs m with
    | none => (.replied (sendError 0 "malformed thermal"), cs)
    | some th =>
      cs.fenced (cs.fenceObs th.epoch th.boot th.obsGen th.worker) th.obsGen.raw
        (.replied (sendAck th.obsGen.raw true (.text "accepted")), cs.advance th.worker th.obsGen)
  | .reserve =>
    match decodeReserve m with
    | none => (.replied (sendError 0 "malformed reserve"), cs)
    | some rr => cs.fenced (cs.fenceEpochBoot rr.epoch rr.boot) 0 (.pending (.plan rr), cs)
  | .activate =>
    match decodeBudgetAction m with
    | none => (.replied (sendError 0 "malformed action"), cs)
    | some ba => cs.fenced (cs.fenceEpochBoot ba.epoch ba.boot) 0 (.pending (.act .activate ba), cs)
  | .release =>
    match decodeBudgetAction m with
    | none => (.replied (sendError 0 "malformed action"), cs)
    | some ba => cs.fenced (cs.fenceEpochBoot ba.epoch ba.boot) 0 (.pending (.act .release ba), cs)
  | .decisionRequest =>
    match decodeReserve m with
    | none => (.replied (sendError 0 "malformed decision"), cs)
    | some dr => cs.fenced (cs.fenceEpochBoot dr.epoch dr.boot) 0 (.pending (.decide dr), cs)
  | .snapshotRequest => (.replied (sendAck 0 true (.stateDigest cs.gov)), cs)
  | _ => (.replied (sendError 0 "unknown message"), cs)

/-- One call of the Governor. -/
def onGov {α : Type} (x : Stateful Fault Governor α) : Stateful Fault CoordShared α :=
  Stateful.zoom gov (fun g cs => { cs with gov := g }) x

/-- A call that writes nothing when it throws. -/
def call {α : Type} (operation : Governor → Except Fault (Governor × α)) :
    Stateful Fault CoordShared α :=
  onGov do
    let (g, a) ← Stateful.ofExcept (operation (← get))
    set g
    return a

end CoordShared

/-- A quantity that is only converted when its flag is set. -/
def measured {unit : UnitTag} (present : Bool) (v : ℚ) : Except Fault (Option (Quantity unit)) :=
  if present then do return some (← Quantity.construct v) else .ok none

/-- The `BackendSample` of an observation. -/
def PowerObsMsg.sample (po : PowerObsMsg) : Except Fault BackendSample := do
  let power ← measured po.hasPower (po.powerMw.toInt / 1000)
  let temperature ← measured po.hasTemp (po.tempCenti.toInt / 100)
  -- The utilization is stored as well; the Governor never reads it.
  let _ : Option Utilization ← measured po.hasUtil (po.utilizationBp.toNat / 10000)
  return { BackendSample.blank with
    power := power
    temperature := temperature
    throttled := po.throttled
    provenance := .reported }

namespace Pending

def welcomeSection (worker : WorkerId) : Stateful Fault CoordShared Reply := do
  return sendAck worker.raw true (.text (toString (← get).epoch.raw.toNat))

def observeSection (po : PowerObsMsg) : Stateful Fault CoordShared Reply := do
  let s ← Stateful.ofExcept po.sample
  let _ ← CoordShared.onGov (Governor.observeBackend s (.ofInt64 po.timestampNs))
  return sendAck po.obsGen.raw true (.text "accepted")

/-- The id of the plan, or the reply to a refused one. -/
def planSection (rr : ReserveMsg) : Stateful Fault CoordShared (Except Reply ReservationId) := do
  let power ← Stateful.ofExcept (Quantity.construct (rr.requestedMw.toInt / 1000))
  let energy ← Stateful.ofExcept (Quantity.construct (rr.requestedMj.toInt / 1000))
  let validity ← Stateful.ofExcept (Duration.construct rr.validityNs.toInt)
  let plan ← CoordShared.call fun g => .ok (g.planReservation rr.workload .throughput rr.scope
    rr.budget power energy .first .first (.ofInt64 rr.timestampNs) validity)
  return if plan.ok then .ok plan.id else .error (sendError 0 ("plan:" ++ plan.reason))

def reserveSection (rr : ReserveMsg) (planned : ReservationId) :
    Stateful Fault CoordShared Reply := do
  let res ← CoordShared.call fun g =>
    g.reserveReservation planned rr.budgetGen (.ofInt64 rr.timestampNs)
  return if res.ok then sendAck rr.workload.raw true (.text (toString planned.raw.toNat))
    else sendError 0 ("reserve:" ++ res.reason)

def actSection (action : BudgetAction) (ba : BudgetActionMsg) :
    Stateful Fault CoordShared Reply := do
  let act ← CoordShared.call fun g =>
    match action with
    | .activate => g.activateReservation ba.reservation ba.budgetGen Timestamp.zero
    | .release => g.releaseReservation ba.reservation ba.budgetGen Timestamp.zero
  return sendAck ba.reservation.raw act.ok (.text act.reason)

def decideSection (dr : ReserveMsg) : Stateful Fault CoordShared Reply := do
  let power ← Stateful.ofExcept (Quantity.construct (dr.requestedMw.toInt / 1000))
  let dec ← CoordShared.onGov (Governor.decideFor dr.budget dr.workload .throughput power
    Joules.zero 1 Timestamp.zero)
  return sendAck dr.workload.raw true (.decision dec)

/-- One section. -/
def run : Pending → Stateful Fault CoordShared Progress
  | .welcome worker => do return .replied (← welcomeSection worker)
  | .observe po => do return .replied (← observeSection po)
  | .plan rr => do
    match ← planSection rr with
    | .error reply => return .replied reply
    | .ok planned => return .pending (.reserve rr planned)
  | .reserve rr planned => do return .replied (← reserveSection rr planned)
  | .act action ba => do return .replied (← actSection action ba)
  | .decide dr => do return .replied (← decideSection dr)

/-- All the sections that are left, without interruption. -/
def complete : Pending → Stateful Fault CoordShared Reply
  | .plan rr => do
    match ← planSection rr with
    | .error reply => return reply
    | .ok planned => reserveSection rr planned
  | .welcome worker => welcomeSection worker
  | .observe po => observeSection po
  | .reserve rr planned => reserveSection rr planned
  | .act action ba => actSection action ba
  | .decide dr => decideSection dr

end Pending

/-- The loop body of `handle_worker` for one frame, without interruption. -/
def handleFrame (m : Frame) : Stateful Fault CoordShared Reply := do
  let (progress, cs) := (← get).receive m
  set cs
  match progress with
  | .replied reply => return reply
  | .pending next => next.complete

/-! ## What a section can do -/

namespace CoordShared

variable {cs : CoordShared}

/-- What the fences compare a message with. -/
def fencing (cs : CoordShared) : CoordinatorEpoch × Keyed Registration.worker :=
  (cs.epoch, cs.workers)

/-- The epoch and the boot of a message are those a fence lets pass. -/
def Current (cs : CoordShared) (stamp : CoordinatorEpoch × WorkerBootId) : Prop :=
  stamp.1 = cs.epoch ∧ cs.Booted stamp.2

theorem booted_of_bootOf {w : WorkerId} {boot : WorkerBootId}
    (registered : cs.bootOf w = some boot) : cs.Booted boot := by
  obtain ⟨r, found, same⟩ := Option.map_eq_some_iff.mp registered
  exact ⟨r, Keyed.mem_of_find? found, same⟩

theorem current_of_fenceObs {epoch : CoordinatorEpoch} {boot : WorkerBootId}
    {og : ObservationGeneration} {w : WorkerId} (passed : cs.fenceObs epoch boot og w = .ok ()) :
    cs.Current (epoch, boot) := by
  unfold fenceObs at passed
  by_cases otherEpoch : epoch ≠ cs.epoch
  · rw [if_pos otherEpoch] at passed
    cases passed
  rw [if_neg otherEpoch] at passed
  by_cases otherBoot : cs.bootOf w ≠ some boot
  · rw [if_pos otherBoot] at passed
    cases passed
  · exact ⟨not_not.mp otherEpoch, booted_of_bootOf (not_not.mp otherBoot)⟩

theorem fenceEpochBoot_eq_ok {epoch : CoordinatorEpoch} {boot : WorkerBootId} :
    cs.fenceEpochBoot epoch boot = .ok () ↔ cs.Current (epoch, boot) := by
  unfold fenceEpochBoot Current
  by_cases sameEpoch : epoch = cs.epoch <;> by_cases booted : cs.Booted boot <;>
    simp [sameEpoch, booted]

/-- Only a message that the fence lets pass goes on. -/
theorem fenced_eq_pending {fence : Except String Unit} {id : UInt64}
    {passed : Progress × CoordShared} {next : Pending} :
    (cs.fenced fence id passed).1 = .pending next ↔ fence = .ok () ∧ passed.1 = .pending next := by
  cases fence with
  | error why => exact ⟨nofun, fun accepted => nomatch accepted.1⟩
  | ok _ => exact ⟨fun same => ⟨rfl, same⟩, fun accepted => accepted.2⟩

/-- A fence and what passes it keep what they both keep. -/
theorem view_fenced {T : Type} {view : CoordShared → T} {fence : Except String Unit} {id : UInt64}
    {passed : Progress × CoordShared} (kept : view passed.2 = view cs) :
    view (cs.fenced fence id passed).2 = view cs := by
  cases fence with
  | error why => rfl
  | ok _ => exact kept

/-- The frame is decoded and passes its fence. -/
inductive Accepts (cs : CoordShared) (m : Frame) : Pending → Prop where
  | observe {po : PowerObsMsg} (type : m.type = .powerObservation)
      (decoded : decodePowerObs m = some po)
      (passed : cs.fenceObs po.epoch po.boot po.obsGen po.worker = .ok ()) :
      Accepts cs m (.observe po)
  | plan {rr : ReserveMsg} (type : m.type = .reserve) (decoded : decodeReserve m = some rr)
      (passed : cs.fenceEpochBoot rr.epoch rr.boot = .ok ()) : Accepts cs m (.plan rr)
  | act {action : BudgetAction} {ba : BudgetActionMsg} (type : m.type = action.msgType)
      (decoded : decodeBudgetAction m = some ba)
      (passed : cs.fenceEpochBoot ba.epoch ba.boot = .ok ()) : Accepts cs m (.act action ba)
  | decide {dr : ReserveMsg} (type : m.type = .decisionRequest)
      (decoded : decodeReserve m = some dr)
      (passed : cs.fenceEpochBoot dr.epoch dr.boot = .ok ()) : Accepts cs m (.decide dr)

variable {m : Frame}

/-- The first section leaves work exactly for the frames that are accepted. -/
theorem receive_eq_pending {next : Pending} :
    (cs.receive m).1 = .pending next ↔ cs.Accepts m next := by
  constructor
  · intro left
    unfold receive at left
    split at left
    case h_1 type =>
      split at left
      · cases left
      · obtain ⟨passed, same⟩ := fenced_eq_pending.mp left
        cases same
        exact .observe type ‹_› passed
    case h_2 type =>
      split at left
      · cases left
      · cases (fenced_eq_pending.mp left).2
    case h_3 type =>
      split at left
      · cases left
      · obtain ⟨passed, same⟩ := fenced_eq_pending.mp left
        cases same
        exact .plan type ‹_› passed
    case h_4 type =>
      split at left
      · cases left
      · obtain ⟨passed, same⟩ := fenced_eq_pending.mp left
        cases same
        exact .act type ‹_› passed
    case h_5 type =>
      split at left
      · cases left
      · obtain ⟨passed, same⟩ := fenced_eq_pending.mp left
        cases same
        exact .act type ‹_› passed
    case h_6 type =>
      split at left
      · cases left
      · obtain ⟨passed, same⟩ := fenced_eq_pending.mp left
        cases same
        exact .decide type ‹_› passed
    · cases left
    · cases left
  · intro accepted
    unfold receive
    cases accepted with
    | observe type decoded passed =>
        rw [type]
        dsimp only
        rw [decoded]
        exact fenced_eq_pending.mpr ⟨passed, rfl⟩
    | plan type decoded passed =>
        rw [type]
        dsimp only
        rw [decoded]
        exact fenced_eq_pending.mpr ⟨passed, rfl⟩
    | @act action ba type decoded passed =>
        rw [type]
        cases action with
        | activate =>
            dsimp only [BudgetAction.msgType]
            rw [decoded]
            exact fenced_eq_pending.mpr ⟨passed, rfl⟩
        | release =>
            dsimp only [BudgetAction.msgType]
            rw [decoded]
            exact fenced_eq_pending.mpr ⟨passed, rfl⟩
    | decide type decoded passed =>
        rw [type]
        dsimp only
        rw [decoded]
        exact fenced_eq_pending.mpr ⟨passed, rfl⟩

/-- The first section writes at most a high-water mark. -/
theorem view_receive {T : Type} (view : CoordShared → T)
    (ignores : ∀ cs w og, view (cs.advance w og) = view cs) :
    view (cs.receive m).2 = view cs := by
  unfold receive
  split
  -- The two observations advance a mark.
  case h_1 | h_2 =>
    split
    · rfl
    · exact view_fenced (ignores cs _ _)
  case h_3 | h_4 | h_5 | h_6 =>
    split
    · rfl
    · exact view_fenced rfl
  all_goals rfl

end CoordShared

namespace Pending

section Keeps

variable {T : Type} {view : CoordShared → T}

/-- A section writes nothing but the Governor. -/
theorem keeps_run (ignores : ∀ g cs, view { cs with gov := g } = view cs) (p : Pending) :
    Stateful.Keeps view p.run := by
  have keeps_onGov : ∀ {α : Type} (x : Stateful Fault Governor α),
      Stateful.Keeps view (CoordShared.onGov x) := fun x => Stateful.keeps_zoom x ignores
  cases p with
  | welcome worker =>
      apply Stateful.keeps_bind_pure
      exact Stateful.keeps_bind_pure Stateful.keeps_get _
  | observe po =>
      apply Stateful.keeps_bind_pure
      apply Stateful.keeps_bind (Stateful.keeps_ofExcept _)
      intro sample
      exact Stateful.keeps_bind_pure (keeps_onGov _) _
  | plan rr =>
      apply Stateful.keeps_bind
      · apply Stateful.keeps_bind (Stateful.keeps_ofExcept _)
        intro power
        apply Stateful.keeps_bind (Stateful.keeps_ofExcept _)
        intro energy
        apply Stateful.keeps_bind (Stateful.keeps_ofExcept _)
        intro validity
        exact Stateful.keeps_bind_pure (keeps_onGov _) _
      · intro planned
        cases planned with
        | error reply => exact Stateful.keeps_pure _
        | ok id => exact Stateful.keeps_pure _
  | reserve rr planned =>
      apply Stateful.keeps_bind_pure
      exact Stateful.keeps_bind_pure (keeps_onGov _) _
  | act action ba =>
      apply Stateful.keeps_bind_pure
      exact Stateful.keeps_bind_pure (keeps_onGov _) _
  | decide dr =>
      apply Stateful.keeps_bind_pure
      apply Stateful.keeps_bind (Stateful.keeps_ofExcept _)
      intro power
      exact Stateful.keeps_bind_pure (keeps_onGov _) _

end Keeps

/-- Only a plan leaves a section, and it is the reserve of the planned id. -/
theorem reserve_of_run {p next : Pending} {cs : CoordShared}
    (left : (p.run.exec cs).1 = .ok (.pending next)) :
    ∃ rr planned, p = .plan rr ∧ next = .reserve rr planned := by
  have ends : ∀ (x : Stateful Fault CoordShared Reply),
      ((do return Progress.replied (← x) : Stateful Fault CoordShared Progress).exec cs).1 ≠
        .ok (.pending next) := by
    intro x
    rw [Stateful.exec_bind]
    rcases x.exec cs with ⟨result, cs'⟩
    cases result with
    | error fault => nofun
    | ok reply => nofun
  cases p with
  | plan rr =>
      obtain ⟨planned, cs', _, after⟩ := Stateful.bind_eq_ok.mp (Prod.ext left rfl)
      cases planned with
      | error reply => cases after
      | ok planned =>
          cases after
          exact ⟨rr, planned, rfl, rfl⟩
  | welcome worker => exact absurd left (ends _)
  | observe po => exact absurd left (ends _)
  | reserve rr planned => exact absurd left (ends _)
  | act action ba => exact absurd left (ends _)
  | decide dr => exact absurd left (ends _)

/-- A handler that is not interrupted runs its sections one after the other. -/
theorem complete_eq (p : Pending) : p.complete = p.run >>= fun progress =>
    match progress with
    | .replied reply => return reply
    | .pending next => next.complete := by
  have alone : ∀ x : Stateful Fault CoordShared Reply,
      x = (do return Progress.replied (← x)) >>= fun progress =>
        match progress with
        | .replied reply => return reply
        | .pending next => next.complete := by
    intro x
    rw [bind_assoc]
    exact (bind_pure x).symm
  cases p with
  | plan rr =>
      show (planSection rr >>= _) = (planSection rr >>= _) >>= _
      rw [bind_assoc]
      apply bind_congr
      intro planned
      cases planned with
      | error reply => rfl
      | ok planned => rfl
  | welcome worker => exact alone _
  | observe po => exact alone _
  | reserve rr planned => exact alone _
  | act action ba => exact alone _
  | decide dr => exact alone _

end Pending

end PowerGovernor
