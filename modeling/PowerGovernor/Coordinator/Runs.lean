import PowerGovernor.Coordinator.Handler

/-!
Runs of the coordinator.

Owns the connections, the sections of their handlers and the control commands as
the steps of one transition system, what each step can do to the shared state and
to the work in flight, and a short run that later modules start from.

Does not own what a run guarantees.
-/

set_option autoImplicit false

namespace PowerGovernor

/-! ## The coordinator -/

/-- A registered connection and what its handler is working on. -/
structure Connection where
  reg : RegisterMsg
  work : Option Pending
deriving DecidableEq

/-- A reservation and the worker and boot of the RESERVE it was granted to. -/
structure Grant where
  reservation : ReservationId
  worker : WorkerId
  boot : WorkerBootId
deriving DecidableEq

/-- `granted` records the RESERVE messages answered ok; no step reads it. An
exception in any thread ends the process. -/
structure Coordinator where
  shared : CoordShared
  connections : Nat → Option Connection
  granted : List Grant
  running : Bool

/-- A step of a thread: a handler receives the first or the next frame of its
connection, runs its next section or finds the connection closed, or the control
loop runs a command. -/
inductive Event where
  | connect (conn : Nat) (first : Frame)
  | frame (conn : Nat) (m : Frame)
  | proceed (conn : Nat)
  | disconnect (conn : Nat)
  | installBudget (id parent : UInt64) (hmax soft : ℚ)
  | setPolicy (cap : ℚ)
  | rollEpoch

namespace CoordShared

/-- `install_budget`. -/
def installBudget (id parent : UInt64) (hmax soft : ℚ) : Stateful Fault CoordShared Unit := do
  let hardMax ← Stateful.ofExcept (Quantity.construct hmax)
  let softTarget ← Stateful.ofExcept (Quantity.construct soft)
  onGov (modify fun g => (g.installBudget
    { PowerBudget.blank with
      id := ⟨id⟩
      generation := .first
      domain := ⟨1⟩
      parent := if parent = 0 then none else some ⟨parent⟩
      hardMax := hardMax
      softTarget := softTarget
      name := [98, 117, 100, 103, 101, 116] }).1)

/-- `set_policy`. The id is drawn before the cap is converted. -/
def setPolicy (cap : ℚ) : Stateful Fault CoordShared Unit := do
  let (id, ids) := (← get).gov.ids.allocatePolicy
  onGov (modify fun g => { g with ids := ids })
  let cap ← Stateful.ofExcept (Quantity.construct cap)
  onGov (modify fun g => (g.installPolicy
    { PowerPolicy.defaults id Governor.defaultName with
      deviceHardCap := some cap
      generation := .first }).1)

section Keeps

variable {T : Type} {view : CoordShared → T}

theorem keeps_installBudget (ignores : ∀ g cs, view { cs with gov := g } = view cs)
    (id parent : UInt64) (hmax soft : ℚ) :
    Stateful.Keeps view (installBudget id parent hmax soft) := by
  apply Stateful.keeps_bind (Stateful.keeps_ofExcept _)
  intro hardMax
  apply Stateful.keeps_bind (Stateful.keeps_ofExcept _)
  intro softTarget
  exact Stateful.keeps_zoom _ ignores

theorem keeps_setPolicy (ignores : ∀ g cs, view { cs with gov := g } = view cs) (cap : ℚ) :
    Stateful.Keeps view (setPolicy cap) := by
  apply Stateful.keeps_bind Stateful.keeps_get
  intro cs
  apply Stateful.keeps_bind (Stateful.keeps_zoom _ ignores)
  intro _
  apply Stateful.keeps_bind (Stateful.keeps_ofExcept _)
  intro cap
  exact Stateful.keeps_zoom _ ignores

end Keeps

end CoordShared

/-- The grant a section makes: a RESERVE is answered ok. -/
def Pending.grant (worker : WorkerId) : Pending → Progress → Option Grant
  | .reserve rr planned, .replied reply =>
    if reply.ok then some ⟨planned, worker, rr.boot⟩ else none
  | _, _ => none

/-- The section that is left after one. -/
def Progress.next : Progress → Option Pending
  | .replied _ => none
  | .pending next => some next

namespace Coordinator

/-- `coordinator_loop` before its first command. -/
def start : Coordinator where
  shared := ⟨.construct ⟨⟨1⟩, ⟨1⟩, ⟨1⟩⟩ .start, ⟨1⟩, Keyed.empty, Keyed.empty⟩
  connections := fun _ => none
  granted := []
  running := true

def setConnection (s : Coordinator) (conn : Nat) (c : Option Connection) : Coordinator :=
  { s with connections := Function.update s.connections conn c }

/-- A command of the control loop. -/
def control (s : Coordinator) (command : Stateful Fault CoordShared Unit) : Coordinator :=
  let (ended, shared) := command.exec s.shared
  { s with shared := shared, running := ended.isOk }

/-- The coordinator after a step of a running process. A step that is not enabled
changes nothing. -/
def take (s : Coordinator) : Event → Coordinator
  | .connect conn first =>
    match s.connections conn with
    | some _ => s
    | none =>
      -- Anything but a REGISTER is answered with an error and closed.
      if first.type ≠ .register then s
      else match decodeRegister first with
        | none => s
        | some reg =>
          { s with shared := s.shared.register reg }.setConnection conn
            (some ⟨reg, some (.welcome reg.worker)⟩)
  | .frame conn m =>
    match s.connections conn with
    | some ⟨reg, none⟩ =>
      let (progress, shared) := s.shared.receive m
      { s with shared := shared }.setConnection conn (some ⟨reg, progress.next⟩)
    | _ => s
  | .proceed conn =>
    match s.connections conn with
    | some ⟨reg, some work⟩ =>
      match work.run.exec s.shared with
      | (.error _, shared) => { s with shared := shared, running := false }
      | (.ok progress, shared) =>
        { s with
          shared := shared
          granted := s.granted ++ (work.grant reg.worker progress).toList }.setConnection conn
            (some ⟨reg, progress.next⟩)
    | _ => s
  | .disconnect conn =>
    match s.connections conn with
    | some ⟨_, none⟩ => s.setConnection conn none
    | _ => s
  | .installBudget id parent hmax soft =>
    s.control (CoordShared.installBudget id parent hmax soft)
  | .setPolicy cap => s.control (CoordShared.setPolicy cap)
  | .rollEpoch => { s with shared := { s.shared with epoch := s.shared.epoch.next } }

def after (s : Coordinator) (event : Event) : Coordinator :=
  if s.running then s.take event else s

/-- The runs whose steps all meet a condition on the state before them. -/
def runs (Meets : Coordinator → Event → Prop) : TransitionSystem Coordinator Event :=
  guardedRuns after Meets start

/-! ## What a step can do -/

/-- Where the work of a connection comes from: it is the work from before the step,
the welcome of a new connection, the rest of an accepted frame, or the second half
of a RESERVE. -/
inductive Arises (s : Coordinator) (conn : Nat) (c : Connection) (work : Pending) :
    Event → Prop where
  | same {event : Event} (found : s.connections conn = some c) (busy : c.work = some work) :
      Arises s conn c work event
  | welcome {first : Frame} {reg : RegisterMsg} (decoded : decodeRegister first = some reg)
      (greets : work = .welcome reg.worker) : Arises s conn c work (.connect conn first)
  | accepted {m : Frame} (found : s.connections conn = some ⟨c.reg, none⟩)
      (accepts : s.shared.Accepts m work) : Arises s conn c work (.frame conn m)
  | planned {rr : ReserveMsg} {planned : ReservationId}
      (found : s.connections conn = some ⟨c.reg, some (.plan rr)⟩)
      (reserves : work = .reserve rr planned) : Arises s conn c work (.proceed conn)

variable {s : Coordinator} {event : Event}

/-- Work at a connection that a step does not write was there before. -/
theorem Arises.of_update {conn other : Nat} {c : Connection} {work : Pending}
    {written : Option Connection} (busy : c.work = some work)
    (found : Function.update s.connections other written conn = some c)
    (here : conn = other → written = some c → Arises s conn c work event) :
    Arises s conn c work event := by
  by_cases same : conn = other
  · subst same
    rw [Function.update_self] at found
    exact here rfl found
  · rw [Function.update_of_ne same] at found
    exact .same found busy

theorem arises_of_after {conn : Nat} {c : Connection} {work : Pending}
    (found : (s.after event).connections conn = some c) (busy : c.work = some work) :
    Arises s conn c work event := by
  unfold after at found
  split at found
  case isFalse stopped => exact .same found busy
  case isTrue running =>
    cases event with
    | connect other first =>
        unfold take at found
        dsimp only at found
        split at found
        · exact .same found busy
        split at found
        · exact .same found busy
        split at found
        · exact .same found busy
        · rename_i reg decoded
          apply Arises.of_update (s := s) busy found
          rintro rfl written
          obtain rfl := Option.some.inj written
          exact .welcome decoded (Option.some.inj busy).symm
    | frame other m =>
        unfold take at found
        dsimp only at found
        split at found
        · rename_i reg before
          apply Arises.of_update (s := s) busy found
          rintro rfl written
          obtain rfl := Option.some.inj written
          refine .accepted before (CoordShared.receive_eq_pending.mp ?_)
          dsimp only at busy
          cases left : (s.shared.receive m).1 with
          | replied reply =>
              rw [left] at busy
              cases busy
          | pending next =>
              rw [left] at busy
              obtain rfl := Option.some.inj busy
              rfl
        · exact .same found busy
    | proceed other =>
        unfold take at found
        dsimp only at found
        split at found
        · rename_i reg before found'
          split at found
          · exact .same found busy
          · rename_i progress shared ran
            apply Arises.of_update (s := s) busy found
            rintro rfl written
            obtain rfl := Option.some.inj written
            cases progress with
            | replied reply => cases busy
            | pending next =>
                obtain rfl := Option.some.inj busy
                obtain ⟨rr, planned, rfl, rfl⟩ :=
                  Pending.reserve_of_run (congrArg Prod.fst ran)
                exact .planned found' rfl
        · exact .same found busy
    | disconnect other =>
        unfold take at found
        dsimp only at found
        split at found
        · exact Arises.of_update (s := s) busy found fun _ written => nomatch written
        · exact .same found busy
    | installBudget id parent hmax soft => exact .same found busy
    | setPolicy cap => exact .same found busy
    | rollEpoch => exact .same found busy

/-- The handler of a connection waits for the next frame. -/
def Idle (s : Coordinator) (conn : Nat) : Prop :=
  s.running = true ∧ ∃ reg, s.connections conn = some ⟨reg, none⟩

/-- The step takes over a REGISTER. -/
def Registers (s : Coordinator) (event : Event) (reg : RegisterMsg) : Prop :=
  ∃ conn first, event = .connect conn first ∧ s.connections conn = none ∧
    first.type = .register ∧ decodeRegister first = some reg

/-- The epoch and the registrations change by a REGISTER and by `roll_epoch` only. -/
theorem fencing_after (s : Coordinator) (event : Event) :
    (s.after event).shared.fencing = s.shared.fencing ∨
      (∃ reg, s.Registers event reg ∧
        (s.after event).shared.fencing = (s.shared.register reg).fencing) ∨
      (event = .rollEpoch ∧
        (s.after event).shared.fencing = (s.shared.epoch.next, s.shared.workers)) := by
  unfold after
  split
  case isFalse stopped => exact .inl rfl
  case isTrue running =>
    cases event with
    | connect conn first =>
        unfold take
        dsimp only
        split
        · exact .inl rfl
        · rename_i free
          split
          · exact .inl rfl
          · rename_i register
            split
            · exact .inl rfl
            · rename_i reg decoded
              exact .inr (.inl ⟨reg, ⟨conn, first, rfl, free, not_not.mp register, decoded⟩, rfl⟩)
    | frame conn m =>
        unfold take
        dsimp only
        split
        · exact .inl (CoordShared.view_receive CoordShared.fencing fun _ _ _ => rfl)
        · exact .inl rfl
    | proceed conn =>
        unfold take
        dsimp only
        split
        · rename_i reg work found
          have kept : (work.run.exec s.shared).2.fencing = s.shared.fencing :=
            Pending.keeps_run (fun _ _ => rfl) work s.shared
          generalize work.run.exec s.shared = ended at kept ⊢
          obtain ⟨result, shared⟩ := ended
          cases result with
          | error fault => exact .inl kept
          | ok progress => exact .inl kept
        · exact .inl rfl
    | disconnect conn =>
        unfold take
        dsimp only
        split
        · exact .inl rfl
        · exact .inl rfl
    | installBudget id parent hmax soft =>
        exact .inl (CoordShared.keeps_installBudget (fun _ _ => rfl) id parent hmax soft s.shared)
    | setPolicy cap => exact .inl (CoordShared.keeps_setPolicy (fun _ _ => rfl) cap s.shared)
    | rollEpoch => exact .inr (.inr ⟨rfl, rfl⟩)

/-- A property of the shared state that no section and no command breaks. -/
structure SharedInvariant (Inv : CoordShared → Prop) : Prop where
  start : Inv Coordinator.start.shared
  register : ∀ cs reg, Inv cs → Inv (cs.register reg)
  receive : ∀ cs m, Inv cs → Inv (cs.receive m).2
  run : ∀ p : Pending, Stateful.Preserves Inv p.run
  installBudget : ∀ id parent hmax soft,
    Stateful.Preserves Inv (CoordShared.installBudget id parent hmax soft)
  setPolicy : ∀ cap, Stateful.Preserves Inv (CoordShared.setPolicy cap)
  rollEpoch : ∀ cs, Inv cs → Inv { cs with epoch := cs.epoch.next }

theorem SharedInvariant.after {Inv : CoordShared → Prop} (invariant : SharedInvariant Inv)
    (holds : Inv s.shared) (event : Event) : Inv (s.after event).shared := by
  unfold Coordinator.after
  split
  case isFalse stopped => exact holds
  case isTrue running =>
    unfold take
    cases event with
    | connect conn first =>
        dsimp only
        repeat' split
        all_goals first | exact holds | exact invariant.register _ _ holds
    | frame conn m =>
        dsimp only
        split
        · exact invariant.receive _ m holds
        · exact holds
    | proceed conn =>
        dsimp only
        split
        · rename_i reg work found
          have kept := invariant.run work s.shared holds
          generalize work.run.exec s.shared = ended at kept ⊢
          obtain ⟨result, shared⟩ := ended
          cases result with
          | error fault => exact kept
          | ok progress => exact kept
        · exact holds
    | disconnect conn =>
        dsimp only
        split <;> exact holds
    | installBudget id parent hmax soft =>
        exact invariant.installBudget id parent hmax soft s.shared holds
    | setPolicy cap => exact invariant.setPolicy cap s.shared holds
    | rollEpoch => exact invariant.rollEpoch s.shared holds

/-- It holds in every state of every run. -/
theorem SharedInvariant.of_reachable {Inv : CoordShared → Prop} (invariant : SharedInvariant Inv)
    {Meets : Coordinator → Event → Prop} (reached : (runs Meets).Reachable s) : Inv s.shared := by
  refine reached.invariant (fun s => Inv s.shared) ?_ ?_
  · rintro s rfl
    exact invariant.start
  · rintro s event s' holds ⟨_, rfl⟩
    exact invariant.after holds event

/-- A grant is never taken back. -/
theorem granted_after {grant : Grant} (granted : grant ∈ s.granted) (event : Event) :
    grant ∈ (s.after event).granted := by
  unfold after
  split
  case isFalse stopped => exact granted
  case isTrue running =>
    unfold take
    cases event with
    | connect conn first =>
        dsimp only
        repeat' split
        all_goals exact granted
    | frame conn m =>
        dsimp only
        split <;> exact granted
    | proceed conn =>
        dsimp only
        split
        · split
          · exact granted
          · exact List.mem_append_left _ granted
        · exact granted
    | disconnect conn =>
        dsimp only
        split <;> exact granted
    | installBudget id parent hmax soft => exact granted
    | setPolicy cap => exact granted
    | rollEpoch => exact granted

/-! ## Sample messages -/

def registerFrame (worker boot : UInt64) : Frame :=
  ⟨.register, (encodeRegister ⟨⟨worker⟩, ⟨boot⟩, ⟨1⟩, []⟩).toOption.getD []⟩

/-- 50 W of budget 1 for five seconds. -/
def reserveMsg (boot : UInt64) : ReserveMsg where
  reservation := .invalid
  budget := ⟨1⟩
  requestedMw := 50000
  requestedMj := 0
  budgetGen := .first
  reservationGen := .first
  policyGen := .first
  deviceGen := .first
  workload := ⟨1⟩
  cls := 1
  scope := ⟨1⟩
  epoch := .first
  boot := ⟨boot⟩
  timestampNs := 0
  validityNs := 5000000000

def reserveFrame (boot : UInt64) : Frame := ⟨.reserve, encodeReserve (reserveMsg boot)⟩

def actionMsg (boot : UInt64) : BudgetActionMsg where
  reservation := ⟨1⟩
  budget := ⟨1⟩
  amountMw := 50000
  budgetGen := .first
  epoch := .first
  boot := ⟨boot⟩

def activateFrame (boot : UInt64) : Frame := ⟨.activate, encodeBudgetAction (actionMsg boot)⟩

/-- Worker 1 registers under boot 10 and is about to plan a reservation. -/
def planning : List Event := [.connect 1 (registerFrame 1 10), .proceed 1,
  .installBudget 1 0 100 100, .frame 1 (reserveFrame 10)]

/-- The reservation is granted. -/
def granting : List Event := planning ++ [.proceed 1, .proceed 1]

end Coordinator

end PowerGovernor
