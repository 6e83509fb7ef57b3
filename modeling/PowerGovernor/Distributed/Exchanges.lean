import PowerGovernor.Coordinator.Temperatures
import PowerGovernor.Distributed.Runs

/-!
Requests and their answers.

Owns the stages of a connection between a worker and its handler, which of them a step
leads to, and the theorem that worker and handler go in lockstep: at most one request is
under way, and the replies a worker hears answer its requests one by one, in order.
-/

set_option autoImplicit false

namespace PowerGovernor

/-! ## Answers -/

/-- The section belongs to the handling of a frame. -/
inductive Frame.WorksOn (m : Frame) : Pending → Prop where
  | welcome {reg : RegisterMsg} (type : m.type = .register)
      (decoded : decodeRegister m = some reg) : WorksOn m (.welcome reg.worker)
  | accepted {cs : CoordShared} {work : Pending} (accepts : cs.Accepts m work) : WorksOn m work
  | planned {cs : CoordShared} {rr : ReserveMsg} {planned : ReservationId}
      (before : WorksOn m (.plan rr))
      (ran : ((Pending.plan rr).run.exec cs).1 = .ok (.pending (.reserve rr planned))) :
      WorksOn m (.reserve rr planned)

/-- The reply is one that the handler makes for the frame, with the shared state as any
section of the handling may find it. -/
inductive Frame.Answers (m : Frame) (reply : Reply) : Prop where
  | received {cs : CoordShared} (replied : (cs.receive m).1 = .replied reply)
  | worked {work : Pending} {cs : CoordShared} (worksOn : m.WorksOn work)
      (ran : (work.run.exec cs).1 = .ok (.replied reply))

/-- The id that a frame gives to its answer. -/
def Frame.ownId (m : Frame) : Option UInt64 :=
  match m.type with
  | .register => (decodeRegister m).map fun reg => reg.worker.raw
  | .powerObservation => (decodePowerObs m).map fun po => po.obsGen.raw
  | .thermalObservation => (decodeThermalObs m).map fun th => th.obsGen.raw
  | .reserve | .decisionRequest => (decodeReserve m).map fun rr => rr.workload.raw
  | .activate | .release => (decodeBudgetAction m).map fun ba => ba.reservation.raw
  | _ => some 0

/-- The id that a section gives to its reply. -/
def Pending.ownId : Pending → UInt64
  | .welcome worker => worker.raw
  | .observe po => po.obsGen.raw
  | .plan rr | .reserve rr _ | .decide rr => rr.workload.raw
  | .act _ ba => ba.reservation.raw

theorem Frame.WorksOn.ownId {m : Frame} {work : Pending} (worksOn : m.WorksOn work) :
    m.ownId = some work.ownId := by
  induction worksOn with
  | welcome type decoded =>
      unfold Frame.ownId
      rw [type]
      dsimp only
      rw [decoded]
      rfl
  | accepted accepts =>
      unfold Frame.ownId
      cases accepts with
      | observe type decoded | plan type decoded | decide type decoded =>
          rw [type]
          dsimp only
          rw [decoded]
          rfl
      | @act action ba type decoded =>
          rw [type]
          cases action with
          | activate | release =>
              dsimp only [BudgetAction.msgType]
              rw [decoded]
              rfl
  | planned before ran inductionHypothesis => exact inductionHypothesis

/-- A section that ends in a positive reply gives it its id. -/
theorem Pending.messageId_of_run {work : Pending} {cs : CoordShared} {reply : Reply}
    (ran : (work.run.exec cs).1 = .ok (.replied reply)) (ok : reply.ok = true) :
    reply.messageId = work.ownId := by
  cases work with
  | welcome worker =>
      cases ran
      rfl
  | observe po =>
      obtain ⟨reply', cs', made, after⟩ := Stateful.bind_eq_ok.mp (Prod.ext ran rfl)
      cases after
      obtain ⟨sample, cs₁, _, rest⟩ := Stateful.bind_eq_ok.mp made
      obtain ⟨id, cs₂, _, sent⟩ := Stateful.bind_eq_ok.mp rest
      cases sent
      rfl
  | plan rr =>
      obtain ⟨planned, cs', made, after⟩ := Stateful.bind_eq_ok.mp (Prod.ext ran rfl)
      cases planned with
      | ok planned => cases after
      | error refused =>
          cases after
          obtain ⟨power, cs₁, _, rest⟩ := Stateful.bind_eq_ok.mp made
          obtain ⟨energy, cs₂, _, rest⟩ := Stateful.bind_eq_ok.mp rest
          obtain ⟨validity, cs₃, _, rest⟩ := Stateful.bind_eq_ok.mp rest
          obtain ⟨plan, cs₄, _, sent⟩ := Stateful.bind_eq_ok.mp rest
          replace sent := Except.ok.inj (congrArg Prod.fst sent)
          split at sent
          · cases sent
          · cases sent
            cases ok
  | reserve rr planned =>
      obtain ⟨reply', cs', made, after⟩ := Stateful.bind_eq_ok.mp (Prod.ext ran rfl)
      cases after
      obtain ⟨res, cs₁, _, sent⟩ := Stateful.bind_eq_ok.mp made
      replace sent := Except.ok.inj (congrArg Prod.fst sent)
      split at sent
      · cases sent
        rfl
      · cases sent
        cases ok
  | act action ba =>
      obtain ⟨reply', cs', made, after⟩ := Stateful.bind_eq_ok.mp (Prod.ext ran rfl)
      cases after
      obtain ⟨act, cs₁, _, sent⟩ := Stateful.bind_eq_ok.mp made
      cases sent
      rfl
  | decide dr =>
      obtain ⟨reply', cs', made, after⟩ := Stateful.bind_eq_ok.mp (Prod.ext ran rfl)
      cases after
      obtain ⟨power, cs₁, _, rest⟩ := Stateful.bind_eq_ok.mp made
      obtain ⟨dec, cs₂, _, sent⟩ := Stateful.bind_eq_ok.mp rest
      cases sent
      rfl

/-- A positive answer carries the id of what it answers. -/
theorem Frame.Answers.messageId {m : Frame} {reply : Reply} (answers : m.Answers reply)
    (ok : reply.ok = true) : m.ownId = some reply.messageId := by
  cases answers with
  | worked worksOn ran => rw [worksOn.ownId, Pending.messageId_of_run ran ok]
  | @received cs replied =>
      have acknowledged := CoordShared.acknowledged_of_receive replied ok
      unfold CoordShared.receive at replied
      unfold Frame.ownId
      obtain ⟨type, _⟩ | type := acknowledged
      · rw [type] at replied ⊢
        dsimp only at replied ⊢
        cases decoded : decodeThermalObs m with
        | none =>
            rw [decoded] at replied
            obtain rfl := Progress.replied.inj replied
            cases ok
        | some th =>
            rw [decoded] at replied
            obtain rfl := Progress.replied.inj (CoordShared.fenced_eq_replied replied ok).2
            rfl
      · rw [type] at replied ⊢
        obtain rfl := Progress.replied.inj replied
        rfl

/-! ## Stages -/

namespace Link

/-- The worker sent the frame of a command. -/
def Asked (l : Link) (cmd : WorkerCommand) (f : Frame) : Prop :=
  ∃ w type m, l.ctx = WorkerCtx.advanced w cmd ∧ w.message cmd = some (type, m) ∧
    m.frame type = .ok f

/-- Where a connection stands, with its handler: what is on its way, if anything, is one
request, one section or one reply. A worker may have ended at any stage. -/
inductive Stage (l : Link) : Option Connection → Prop where
  | greeting {f : Frame} (phase : l.phase = .registering ∨ l.phase = .stopped)
      (framed : l.ctx.registerFrame = .ok f) (requests : l.requests.waiting = [f])
      (replies : l.replies.waiting = []) : Stage l none
  | welcoming (phase : l.phase = .registering ∨ l.phase = .stopped)
      (requests : l.requests.waiting = []) (replies : l.replies.waiting = []) :
      Stage l (some ⟨l.ctx.registerMsg, some (.welcome l.ctx.worker)⟩)
  | welcomed {epoch : CoordinatorEpoch} (phase : l.phase = .registering ∨ l.phase = .stopped)
      (requests : l.requests.waiting = [])
      (replies : l.replies.waiting =
        [sendAck l.ctx.worker.raw true (.text (toString epoch.raw.toNat))]) :
      Stage l (some ⟨l.ctx.registerMsg, none⟩)
  | idle (phase : l.phase = .ready ∨ l.phase = .stopped) (requests : l.requests.waiting = [])
      (replies : l.replies.waiting = []) : Stage l (some ⟨l.ctx.registerMsg, none⟩)
  | asked {cmd : WorkerCommand} {f : Frame}
      (phase : l.phase = .awaiting cmd ∨ l.phase = .stopped) (asked : l.Asked cmd f)
      (requests : l.requests.waiting = [f]) (replies : l.replies.waiting = []) :
      Stage l (some ⟨l.ctx.registerMsg, none⟩)
  | working {cmd : WorkerCommand} {f : Frame} {work : Pending}
      (phase : l.phase = .awaiting cmd ∨ l.phase = .stopped) (asked : l.Asked cmd f)
      (worksOn : f.WorksOn work) (requests : l.requests.waiting = [])
      (replies : l.replies.waiting = []) :
      Stage l (some ⟨l.ctx.registerMsg, some work⟩)
  | answered {cmd : WorkerCommand} {reply : Reply}
      (phase : l.phase = .awaiting cmd ∨ l.phase = .stopped) (requests : l.requests.waiting = [])
      (replies : l.replies.waiting = [reply]) : Stage l (some ⟨l.ctx.registerMsg, none⟩)
  | closed (phase : l.phase = .stopped) (requests : l.requests.waiting = [])
      (replies : l.replies.waiting.length ≤ 1) : Stage l none

/-- The handler has answered every frame it took up, but for the one it works on. -/
def Exchanged (l : Link) (handler : Option Connection) : Prop :=
  match handler.bind Connection.work with
  | none => List.Forall₂ Frame.Answers l.requests.received l.replies.sent
  | some work => ∃ before f, l.requests.received = before ++ [f] ∧ f.WorksOn work ∧
      List.Forall₂ Frame.Answers before l.replies.sent

variable {l : Link} {handler : Option Connection}

/-- A worker that ends leaves its connection at the stage it is at. -/
theorem Stage.stop (stage : l.Stage handler) :
    { l with phase := .stopped : Link }.Stage handler := by
  cases stage with
  | greeting phase framed requests replies => exact .greeting (.inr rfl) framed requests replies
  | welcoming phase requests replies => exact .welcoming (.inr rfl) requests replies
  | welcomed phase requests replies => exact .welcomed (.inr rfl) requests replies
  | idle phase requests replies => exact .idle (.inr rfl) requests replies
  | asked phase asked requests replies => exact .asked (.inr rfl) asked requests replies
  | working phase asked worksOn requests replies =>
      exact .working (.inr rfl) asked worksOn requests replies
  | answered phase requests replies =>
      exact @Stage.answered _ .quit _ (.inr rfl) requests replies
  | closed phase requests replies => exact .closed rfl requests replies

/-- The lines do not matter. -/
theorem Stage.print (stage : l.Stage handler) (lines : List Bytes) :
    { l with lines := lines : Link }.Stage handler := by
  cases stage with
  | greeting phase framed requests replies => exact .greeting phase framed requests replies
  | welcoming phase requests replies => exact .welcoming phase requests replies
  | welcomed phase requests replies => exact .welcomed phase requests replies
  | idle phase requests replies => exact .idle phase requests replies
  | asked phase asked requests replies => exact .asked phase asked requests replies
  | working phase asked worksOn requests replies =>
      exact .working phase asked worksOn requests replies
  | answered phase requests replies => exact .answered phase requests replies
  | closed phase requests replies => exact .closed phase requests replies

/-- A worker that is ready has nothing on its way. -/
theorem Stage.of_ready (stage : l.Stage handler) (ready : l.phase = .ready) :
    handler = some ⟨l.ctx.registerMsg, none⟩ ∧ l.requests.waiting = [] ∧
      l.replies.waiting = [] := by
  cases stage with
  | idle phase requests replies => exact ⟨rfl, requests, replies⟩
  | greeting phase | welcoming phase | welcomed phase =>
      rw [ready] at phase
      rcases phase with phase | phase <;> cases phase
  | asked phase | working phase | answered phase =>
      rw [ready] at phase
      rcases phase with phase | phase <;> cases phase
  | closed phase =>
      rw [ready] at phase
      cases phase

@[simp] theorem registerMsg_advanced (w : WorkerCtx) (cmd : WorkerCommand) :
    (w.advanced cmd).registerMsg = w.registerMsg := by
  cases cmd <;> rfl

/-- What a command does to a worker. -/
theorem issue_cases (l : Link) (cmd : WorkerCommand) :
    l.issue cmd = l ∨
      (l.phase = .ready ∧ ∃ type m f, l.ctx.message cmd = some (type, m) ∧ m.frame type = .ok f ∧
        l.issue cmd = { l with
          ctx := l.ctx.advanced cmd, phase := .awaiting cmd, requests := l.requests.put f }) ∨
      (l.phase = .ready ∧ ∃ phase lines, (phase = .ready ∨ phase = .stopped) ∧
        l.issue cmd = { l with phase := phase, lines := lines }) := by
  unfold issue
  split
  case isFalse => exact .inl rfl
  case isTrue ready =>
    refine .inr ?_
    obtain ⟨_, request⟩ | ⟨type, m, f, message, framed, request⟩ := l.ctx.request_eq cmd
    · rw [request]
      refine .inr ⟨ready, _, _, ?_, rfl⟩
      split
      · exact .inr rfl
      · exact .inl rfl
    · rw [request]
      exact .inl ⟨ready, type, m, f, message, framed, rfl⟩

theorem Stage.issue (stage : l.Stage handler) (cmd : WorkerCommand) :
    (l.issue cmd).Stage handler := by
  obtain same | ⟨ready, type, m, f, message, framed, asked⟩ | ⟨ready, phase, lines, after, idle⟩ :=
    l.issue_cases cmd
  · rw [same]
    exact stage
  · obtain ⟨rfl, requests, replies⟩ := stage.of_ready ready
    rw [asked, ← registerMsg_advanced l.ctx cmd]
    refine .asked (.inl rfl) ⟨l.ctx, type, m, rfl, message, framed⟩ ?_ replies
    rw [Fifo.waiting_put, requests]
    rfl
  · obtain ⟨rfl, requests, replies⟩ := stage.of_ready ready
    rw [idle]
    exact .idle after requests replies

/-- What a worker that listens does: nothing, end, take its epoch, or go on. -/
theorem hear_cases (l : Link) (closed : Bool) :
    l.hear closed = l ∨
      (∃ lines, l.hear closed = { l with phase := .stopped, lines := lines }) ∨
      (∃ reply, l.phase = .registering ∧ l.replies.next = some reply ∧
        l.hear closed = { l with replies := l.replies.take }.register reply.heard) ∨
      ∃ cmd reply, l.phase = .awaiting cmd ∧ l.replies.next = some reply ∧
        l.hear closed = { l with
          phase := .ready
          replies := l.replies.take
          lines := l.lines ++ [cmd.line reply.heard] } := by
  unfold hear
  split
  · rename_i phase next
    exact .inr (.inr (.inl ⟨_, phase, next, rfl⟩))
  · split
    · exact .inr (.inl ⟨_, rfl⟩)
    · exact .inl rfl
  · rename_i phase next
    exact .inr (.inr (.inr ⟨_, _, phase, next, rfl⟩))
  · split
    · exact .inr (.inl ⟨_, rfl⟩)
    · exact .inl rfl
  · exact .inl rfl

/-- A worker reads the epoch of its welcome. -/
theorem heard_welcome (worker : WorkerId) (epoch : CoordinatorEpoch) :
    (sendAck worker.raw true (.text (toString epoch.raw.toNat))).heard =
      some ⟨worker.raw, true, decimal epoch.raw.toNat⟩ := by
  have bounded := epoch.raw.toNat_lt
  have short := length_decimal (n := epoch.raw.toNat) (k := 20) (by decide) (by omega)
  obtain ⟨f, framed, decoded⟩ := @Reply.frame_eq_ok
    (sendAck worker.raw true (.text (toString epoch.raw.toNat))) (decimal epoch.raw.toNat) rfl
    (by omega)
  unfold Reply.heard
  rw [framed]
  exact decoded

/-- What a worker hears leads on to a worker that is ready. -/
theorem Stage.hear (stage : l.Stage handler) (closed : Bool) : (l.hear closed).Stage handler := by
  obtain same | ⟨lines, ended⟩ | ⟨reply, registering, next, heard⟩ |
    ⟨cmd, reply, awaiting, next, heard⟩ := l.hear_cases closed
  · rw [same]
    exact stage
  · rw [ended]
    exact (stage.stop).print lines
  · rw [heard]
    cases stage with
    | welcomed phase requests replies =>
        obtain rfl := (Fifo.next_eq_some_of_singleton replies).mp next
        rw [heard_welcome]
        unfold register
        dsimp only
        rw [if_pos rfl]
        exact .idle (.inl rfl) requests (Fifo.waiting_take_of_singleton replies)
    | greeting phase framed requests replies | welcoming phase requests replies =>
        exact absurd next (Fifo.next_ne_some_of_empty replies)
    | idle phase | asked phase | working phase | answered phase =>
        rw [registering] at phase
        rcases phase with phase | phase <;> cases phase
    | closed phase =>
        rw [registering] at phase
        cases phase
  · rw [heard]
    cases stage with
    | answered phase requests replies =>
        exact .idle (.inl rfl) requests (Fifo.waiting_take_of_singleton replies)
    | asked phase asked requests replies | working phase asked worksOn requests replies =>
        exact absurd next (Fifo.next_ne_some_of_empty replies)
    | greeting phase | welcoming phase | welcomed phase | idle phase =>
        rw [awaiting] at phase
        rcases phase with phase | phase <;> cases phase
    | closed phase =>
        rw [awaiting] at phase
        cases phase

theorem waiting_answered {l : Link} (replies : l.replies.waiting = []) (reply : Reply) :
    (l.answered (some reply)).replies.waiting = [reply] := by
  show l.replies.waiting ++ [reply] = [reply]
  rw [replies]
  rfl

theorem exec_welcome (worker : WorkerId) (cs : CoordShared) :
    ((Pending.welcome worker).run.exec cs).1 =
      .ok (.replied (sendAck worker.raw true (.text (toString cs.epoch.raw.toNat)))) := rfl

/-- The registration of a worker is not refused. -/
theorem Stage.not_refused {f : Frame} (stage : l.Stage none) (first : l.requests.next = some f)
    (other : f.type ≠ .register ∨ decodeRegister f = none) : False := by
  cases stage with
  | greeting phase framed requests replies =>
      obtain rfl := (Fifo.next_eq_some_of_singleton requests).mp first
      obtain ⟨type, read⟩ := WorkerCtx.decodeRegister_registerFrame framed
      rw [read] at other
      rcases other with other | other
      · exact other type
      · cases other
  | closed phase requests replies => exact Fifo.next_ne_some_of_empty requests first

variable {s : Distributed} {conn : Nat} {a : Action} {l' : Link} {handler' : Option Connection}

/-- Every move leads from stage to stage. -/
theorem Stage.after (stage : l.Stage handler) (moved : s.Moves conn l a handler l' handler') :
    l'.Stage handler' := by
  cases moved with
  | untouched => exact stage
  | issues => exact stage.issue _
  | hears => exact stage.hear _
  | ends => exact stage.stop
  | greets first running type decoded =>
      cases stage with
      | greeting phase framed requests replies =>
          obtain rfl := (Fifo.next_eq_some_of_singleton requests).mp first
          obtain ⟨_, read⟩ := WorkerCtx.decodeRegister_registerFrame framed
          obtain rfl := Option.some.inj (read.symm.trans decoded)
          exact .welcoming phase (Fifo.waiting_take_of_singleton requests) replies
      | closed phase requests replies =>
          exact absurd first (Fifo.next_ne_some_of_empty requests)
  | refuses first running other => exact (stage.not_refused first other).elim
  | answers first running replied =>
      cases stage with
      | asked phase asked requests replies =>
          exact .answered phase (Fifo.waiting_take_of_singleton requests)
            (waiting_answered replies _)
      | welcomed phase requests replies | idle phase requests replies
      | answered phase requests replies =>
          exact absurd first (Fifo.next_ne_some_of_empty requests)
  | accepts first running accepts =>
      cases stage with
      | asked phase asked requests replies =>
          obtain rfl := (Fifo.next_eq_some_of_singleton requests).mp first
          exact .working phase asked (.accepted accepts)
            (Fifo.waiting_take_of_singleton requests) replies
      | welcomed phase requests replies | idle phase requests replies
      | answered phase requests replies =>
          exact absurd first (Fifo.next_ne_some_of_empty requests)
  | finishes running ran =>
      cases stage with
      | welcoming phase requests replies =>
          rw [exec_welcome] at ran
          obtain rfl := Progress.replied.inj (Except.ok.inj ran)
          exact @Stage.welcomed _ s.coordinator.shared.epoch phase requests
            (waiting_answered replies _)
      | working phase asked worksOn requests replies =>
          exact .answered phase requests (waiting_answered replies _)
  | proceeds running ran =>
      cases stage with
      | working phase asked worksOn requests replies =>
          exact .working phase asked (.planned worksOn ran) requests replies
  | closes stopped drained idle =>
      cases stage with
      | welcomed phase requests replies | answered phase requests replies =>
          exact .closed stopped requests (by rw [replies]; exact Nat.le_refl 1)
      | idle phase requests replies =>
          exact .closed stopped requests (by rw [replies]; exact Nat.zero_le 1)
      | asked phase asked requests replies =>
          rw [Fifo.next, requests] at drained
          cases drained
      | welcoming phase | working phase => cases idle

/-- A link keeps what it received and what was sent to it. -/
theorem Exchanged.of_same (exchanged : l.Exchanged handler)
    (received : l'.requests.received = l.requests.received)
    (sent : l'.replies.sent = l.replies.sent) : l'.Exchanged handler := by
  unfold Exchanged
  rw [received, sent]
  exact exchanged

theorem Exchanged.after (exchanged : l.Exchanged handler) (stage : l.Stage handler)
    (moved : s.Moves conn l a handler l' handler') : l'.Exchanged handler' := by
  cases moved with
  | untouched => exact exchanged
  | issues =>
      obtain same | ⟨_, _, _, _, _, _, asked⟩ | ⟨_, _, _, _, idle⟩ := l.issue_cases _
      · rw [same]
        exact exchanged
      · rw [asked]
        exact exchanged.of_same rfl rfl
      · rw [idle]
        exact exchanged.of_same rfl rfl
  | hears =>
      obtain same | ⟨_, ended⟩ | ⟨_, _, _, heard⟩ | ⟨_, _, _, _, heard⟩ := l.hear_cases _
      · rw [same]
        exact exchanged
      · rw [ended]
        exact exchanged.of_same rfl rfl
      · rw [heard]
        unfold register
        dsimp only
        split
        · split
          · exact exchanged.of_same rfl rfl
          · exact exchanged.of_same rfl rfl
        · exact exchanged.of_same rfl rfl
      · rw [heard]
        exact exchanged.of_same rfl rfl
  | ends => exact exchanged.of_same rfl rfl
  | greets first running type decoded =>
      exact ⟨_, _, Fifo.received_take first, .welcome type decoded, exchanged⟩
  | refuses first running other => exact (stage.not_refused first other).elim
  | @answers f reg reply first running replied =>
      show List.Forall₂ Frame.Answers l.requests.take.received (l.replies.sent ++ [reply])
      rw [Fifo.received_take first]
      exact List.rel_append exchanged (.cons (.received replied) .nil)
  | accepts first running accepts =>
      exact ⟨_, _, Fifo.received_take first, .accepted accepts, exchanged⟩
  | @finishes reg work reply running ran =>
      obtain ⟨before, f, received, worksOn, answered⟩ := exchanged
      show List.Forall₂ Frame.Answers l.requests.received (l.replies.sent ++ [reply])
      rw [received]
      exact List.rel_append answered (.cons (.worked worksOn ran) .nil)
  | proceeds running ran =>
      obtain ⟨before, f, received, worksOn, answered⟩ := exchanged
      exact ⟨before, f, received, .planned worksOn ran, answered⟩
  | closes stopped drained idle =>
      unfold Exchanged at exchanged ⊢
      rw [Option.bind_some, idle] at exchanged
      exact exchanged

end Link

namespace Distributed

variable {s : Distributed} {conn : Nat} {l : Link}

/-- Every connection of a worker stands at a stage and has its exchanges in order. -/
def InStep (s : Distributed) : Prop :=
  ∀ conn l, s.links conn = some l → l.Stage (s.coordinator.connections conn) ∧
    l.Exchanged (s.coordinator.connections conn)

theorem inStep_after (inStep : s.InStep) (a : Action) : (s.after a).InStep := by
  intro conn l' found'
  cases found : s.links conn with
  | none =>
      obtain ⟨worker, boot, node, f, rfl, closed, framed, rfl, frozen⟩ :=
        spawned_of_after found found'
      rw [frozen, closed]
      exact ⟨.greeting (.inl rfl) framed rfl rfl, .nil⟩
  | some l =>
      obtain ⟨stage, exchanged⟩ := inStep conn l found
      obtain ⟨l'', here, moved⟩ := moves found a
      obtain rfl := Option.some.inj (here.symm.trans found')
      exact ⟨stage.after moved, exchanged.after stage moved⟩

theorem inStep_of_reachable {Meets : Distributed → Action → Prop}
    (reached : (runs Meets).Reachable s) : s.InStep := by
  refine reached.invariant InStep ?_ ?_
  · rintro s rfl conn l found
    cases found
  · rintro s a s' inStep ⟨_, rfl⟩
    exact inStep_after inStep a

end Distributed

namespace Link

/-- What is under way at a stage is at most one thing, and nothing when the worker is
ready. -/
theorem Stage.underway {l : Link} {handler : Option Connection} (stage : l.Stage handler) :
    l.requests.waiting.length + (handler.bind Connection.work).toList.length +
        l.replies.waiting.length ≤ 1 ∧
      (l.phase = .ready → l.requests.waiting = [] ∧ handler.bind Connection.work = none ∧
        l.replies.waiting = []) := by
  refine ⟨?_, fun ready => ?_⟩
  · cases stage with
    | greeting phase framed requests replies | welcomed phase requests replies
    | idle phase requests replies | asked phase asked requests replies
    | answered phase requests replies | welcoming phase requests replies
    | working phase asked worksOn requests replies =>
        rw [requests, replies]
        simp
    | closed phase requests replies =>
        rw [requests]
        simpa using replies
  · obtain ⟨rfl, requests, replies⟩ := stage.of_ready ready
    exact ⟨requests, rfl, replies⟩

/-- The frames that were taken up and not answered are those in work. -/
theorem Exchanged.length {l : Link} {handler : Option Connection}
    (exchanged : l.Exchanged handler) : l.requests.received.length =
      l.replies.sent.length + (handler.bind Connection.work).toList.length := by
  unfold Exchanged at exchanged
  split at exchanged
  · rename_i idle
    rw [idle, exchanged.length_eq]
    rfl
  · rename_i work busy
    obtain ⟨before, f, received, _, answered⟩ := exchanged
    rw [busy, received, List.length_append, answered.length_eq]
    rfl

end Link

namespace Distributed

variable {s : Distributed} {conn : Nat} {l : Link}

/-- Lockstep. In every run, with any other peers and in any order of steps, a worker that
reads its replies has them in the order of its requests: each reply is one that the
handler makes for the request at the same place, and a positive one carries the id of
that request. A worker that is ready has heard an answer to everything it sent, and no
worker is more than one answer behind. -/
theorem replies_answer_requests {Meets : Distributed → Action → Prop}
    (reached : (runs Meets).Reachable s) (found : s.links conn = some l) :
    List.Forall₂ (fun m reply => Frame.Answers m reply ∧
        (reply.ok = true → m.ownId = some reply.messageId))
      (l.requests.sent.take l.replies.received.length) l.replies.received ∧
    l.requests.sent.length ≤ l.replies.received.length + 1 ∧
    (l.phase = .ready → l.requests.sent.length = l.replies.received.length) := by
  obtain ⟨stage, exchanged⟩ := inStep_of_reachable reached conn l found
  obtain ⟨underway, nothing⟩ := stage.underway
  have counted := exchanged.length
  have requests := congrArg List.length l.requests.conserved
  have replies := congrArg List.length l.replies.conserved
  rw [List.length_append] at requests replies
  refine ⟨?_, by omega, fun ready => ?_⟩
  · have pairs : List.Forall₂ Frame.Answers
        (l.requests.sent.take l.replies.sent.length) l.replies.sent := by
      rw [l.requests.conserved]
      unfold Link.Exchanged at exchanged
      split at exchanged
      · rw [← exchanged.length_eq, List.take_left]
        exact exchanged
      · obtain ⟨before, f, received, _, answered⟩ := exchanged
        rw [received, ← answered.length_eq, List.append_assoc, List.take_left]
        exact answered
    have heard := List.forall₂_take l.replies.received.length pairs
    rw [List.take_take, Nat.min_eq_left (by omega)] at heard
    rw [l.replies.conserved, List.take_left] at heard
    exact heard.imp fun m reply answers => ⟨answers, answers.messageId⟩
  · obtain ⟨noRequest, idle, noReply⟩ := nothing ready
    rw [noRequest] at requests
    rw [noReply] at replies
    rw [idle] at counted
    simp only [List.length_nil, Option.toList_none, Nat.add_zero] at requests replies counted
    omega

theorem joined_link : ∃ l, (run joining).links 1 = some l ∧ l.phase = .ready := by
  have joined : ((run joining).links 1).map Link.phase = some .ready := by decide +kernel
  exact Option.map_eq_some_iff.mp joined

theorem replies_answer_requests_serving : ∃ l, (run serving).links 1 = some l ∧
    l.requests.sent.length = 4 ∧
    List.Forall₂ (fun m reply => Frame.Answers m reply ∧
        (reply.ok = true → m.ownId = some reply.messageId))
      l.requests.sent l.replies.received := by
  have served : ((run serving).links 1).map (fun l => (l.phase, l.requests.sent.length)) =
      some (.ready, 4) := by decide +kernel
  obtain ⟨l, found, stands⟩ := Option.map_eq_some_iff.mp served
  obtain ⟨ready, sent⟩ := Prod.mk.inj stands
  obtain ⟨answered, _, even⟩ := replies_answer_requests (run_reachable serving) found
  rw [← even ready, List.take_length] at answered
  exact ⟨l, found, sent, answered⟩

end Distributed

end PowerGovernor
