import PowerGovernor.Coordinator.Turns
import PowerGovernor.Distributed.Worker
import PowerGovernor.Library.Fifo

/-!
Runs of workers and a coordinator.

Owns the worker processes with their connections, the steps of the whole system beside
the steps of its coordinator, what a step does to one connection, and the projection of
a run to a run of the coordinator. A connection hands over the frames of each direction
in order.

Does not own what a run guarantees.
-/

set_option autoImplicit false

namespace PowerGovernor

/-- What a worker process is about. -/
inductive Phase where
  | registering
  | ready
  | awaiting (cmd : WorkerCommand)
  | stopped
deriving DecidableEq

/-- A worker process and its connection, with the lines it has printed. -/
structure Link where
  ctx : WorkerCtx
  phase : Phase
  requests : Fifo Frame
  replies : Fifo Reply
  lines : List Bytes

/-- The processes of the system. Connections without a link belong to other peers. -/
structure Distributed where
  coordinator : Coordinator
  links : Nat → Option Link

/-- A step of the system. A worker starts, reads a command, hears an answer or ends; the
handler of its connection receives a frame, runs a section or finds the connection
closed; or the coordinator takes a step for another peer or for the control loop. -/
inductive Action where
  | spawn (conn : Nat) (worker : WorkerId) (boot : WorkerBootId) (node : NodeId)
  | command (conn : Nat) (cmd : WorkerCommand)
  | hear (conn : Nat)
  | kill (conn : Nat)
  | deliver (conn : Nat)
  | proceed (conn : Nat)
  | hangUp (conn : Nat)
  | outside (event : Event)

/-- The answer that a worker reads from a reply. -/
def Reply.heard (reply : Reply) : Option AckMsg := reply.frame.toOption.bind decodeAck

namespace Link

/-- A worker that has connected and sent its registration. -/
def start (ctx : WorkerCtx) (f : Frame) : Link :=
  ⟨ctx, .registering, Fifo.empty.put f, .empty, []⟩

/-- A worker that is ready takes a command. -/
def issue (l : Link) (cmd : WorkerCommand) : Link :=
  if l.phase = .ready then
    match l.ctx.request cmd with
    | .ok (some f) =>
      { l with ctx := l.ctx.advanced cmd, phase := .awaiting cmd, requests := l.requests.put f }
    | .ok none =>
      { l with
        phase := if cmd = .quit then .stopped else .ready
        lines := l.lines ++ cmd.idleLine }
    | .error _ => l
  else l

/-- The end of `worker_register`. -/
def register (l : Link) (answer : Option AckMsg) : Link :=
  let l := { l with lines := l.lines ++ [registerLine answer] }
  match answer with
  | some ra =>
    if ra.ok then { l with ctx := l.ctx.welcomed ra.message, phase := .ready }
    else { l with phase := .stopped }
  | none => { l with phase := .stopped }

/-- A worker that waits for an answer reads it, or finds the connection closed. -/
def hear (l : Link) (closed : Bool) : Link :=
  match l.phase, l.replies.next with
  | .registering, some reply => { l with replies := l.replies.take }.register reply.heard
  | .registering, none => if closed then { l with phase := .stopped } else l
  | .awaiting cmd, some reply =>
    { l with
      phase := .ready
      replies := l.replies.take
      lines := l.lines ++ [cmd.line reply.heard] }
  | .awaiting cmd, none =>
    if closed then { l with phase := .stopped, lines := l.lines ++ [cmd.closedLine] } else l
  | _, _ => l

/-- The reply that the coordinator sends is on its way. -/
def answered (l : Link) (reply : Option Reply) : Link :=
  { l with replies := l.replies.offer reply }

end Link

namespace Distributed

def start : Distributed := ⟨.start, fun _ => none⟩

/-- The event in which the handler of a connection receives a frame. -/
def arrival (s : Distributed) (conn : Nat) (f : Frame) : Event :=
  match s.coordinator.connections conn with
  | none => .connect conn f
  | some _ => .frame conn f

/-- The event of an action at the coordinator, if it is enabled there. -/
def event (s : Distributed) : Action → Option Event
  | .deliver conn =>
    ((s.links conn).bind fun l => l.requests.next).bind fun f =>
      if s.coordinator.takesUp (s.arrival conn f) = some (conn, f) then some (s.arrival conn f)
      else none
  | .proceed conn => some (.proceed conn)
  | .hangUp conn =>
    (s.links conn).bind fun l =>
      if l.phase = .stopped ∧ l.requests.next = none then some (.disconnect conn) else none
  | .outside event => if (event.conn?.bind s.links).isSome then none else some event
  | .spawn _ _ _ _ | .command _ _ | .hear _ | .kill _ => none

/-- The reply that an action sends on a connection. -/
def reply (s : Distributed) (a : Action) (conn : Nat) : Option Reply :=
  (s.event a).bind fun event => s.coordinator.repliesTo event conn

/-- The part of an action at a worker and its connection that is not the reply. -/
def touch (s : Distributed) (a : Action) (conn : Nat) (l : Link) : Link :=
  match a with
  | .command here cmd => if here = conn then l.issue cmd else l
  | .hear here => if here = conn then l.hear (!s.coordinator.running) else l
  | .kill here => if here = conn then { l with phase := .stopped } else l
  | .deliver here =>
    if here = conn ∧ (s.event a).isSome then { l with requests := l.requests.take } else l
  | .spawn _ _ _ _ | .proceed _ | .hangUp _ | .outside _ => l

/-- The link of a worker that an action starts. -/
def spawned (s : Distributed) (a : Action) (conn : Nat) : Option Link :=
  match a with
  | .spawn here worker boot node =>
    let ctx := WorkerCtx.fresh worker boot node
    if here = conn ∧ s.coordinator.running = true ∧ s.coordinator.connections conn = none then
      ctx.registerFrame.toOption.map (Link.start ctx)
    else none
  | _ => none

def linkAfter (s : Distributed) (a : Action) (conn : Nat) : Option Link :=
  match s.links conn with
  | none => s.spawned a conn
  | some l => some ((s.touch a conn l).answered (s.reply a conn))

def after (s : Distributed) (a : Action) : Distributed where
  coordinator := (s.event a).elim s.coordinator s.coordinator.after
  links := s.linkAfter a

/-- The runs whose steps all meet a condition on the state before them. -/
def runs (Meets : Distributed → Action → Prop) : TransitionSystem Distributed Action :=
  guardedRuns after Meets start

/-- The system after some actions. -/
def run (actions : List Action) : Distributed := actions.foldl after start

theorem run_reachable (actions : List Action) :
    (runs fun _ _ => True).Reachable (run actions) :=
  TransitionSystem.Reachable.foldl (.start rfl) (along_true _ actions)

/-- Worker 1 starts under boot 10 and registers. -/
def joining : List Action := [.spawn 1 ⟨1⟩ ⟨10⟩ ⟨1⟩, .deliver 1, .proceed 1, .hear 1]

/-- Worker 1 observes, reserves and activates under a budget. -/
def serving : List Action :=
  [.outside (.installBudget 1 0 100 100)] ++ joining ++
    [.command 1 (.observe 5000 3700), .deliver 1, .proceed 1, .hear 1,
      .command 1 (.reserve 1 5), .deliver 1, .proceed 1, .proceed 1, .hear 1,
      .command 1 (.activate 1 1 5), .deliver 1, .proceed 1, .hear 1]

/-! ## The coordinator in a run -/

variable {s : Distributed} {a : Action} {conn : Nat} {l : Link}

/-- A run of the system is a run of its coordinator. -/
theorem coordinator_reachable {Meets : Distributed → Action → Prop}
    (reached : (runs Meets).Reachable s) :
    (Coordinator.runs fun _ _ => True).Reachable s.coordinator := by
  induction reached with
  | start initial =>
      obtain rfl := initial
      exact .start rfl
  | @step s a s' before taken inductionHypothesis =>
      obtain ⟨_, rfl⟩ := taken
      show (Coordinator.runs _).Reachable ((s.event a).elim s.coordinator s.coordinator.after)
      cases s.event a with
      | none => exact inductionHypothesis
      | some event => exact .step event inductionHypothesis ⟨trivial, rfl⟩

theorem coordinator_after (event : Option Event) (here : s.event a = event) :
    (s.after a).coordinator = event.elim s.coordinator s.coordinator.after := by
  rw [← here]
  rfl

/-- Only the control loop takes steps of no connection. -/
theorem outside_of_control {event : Event} (enabled : s.event a = some event)
    (control : event.conn? = none) : a = .outside event := by
  unfold Distributed.event at enabled
  cases a with
  | deliver here =>
      obtain ⟨f, _, enabled⟩ := Option.bind_eq_some_iff.mp enabled
      split at enabled
      case isFalse => cases enabled
      case isTrue =>
        obtain rfl := Option.some.inj enabled
        unfold arrival at control
        split at control <;> cases control
  | proceed here =>
      obtain rfl := Option.some.inj enabled
      cases control
  | hangUp here =>
      obtain ⟨l, _, enabled⟩ := Option.bind_eq_some_iff.mp enabled
      split at enabled
      case isFalse => cases enabled
      case isTrue =>
        obtain rfl := Option.some.inj enabled
        cases control
  | outside event' =>
      dsimp only at enabled
      split at enabled
      case isTrue => cases enabled
      case isFalse => rw [Option.some.inj enabled]
  | spawn here worker boot node => cases enabled
  | command here cmd => cases enabled
  | hear here => cases enabled
  | kill here => cases enabled

/-! ## What a step does to a connection -/

/-- What an action does to a link, with the handler of its connection before and after.
The handler is as it was unless it is mentioned. -/
inductive Moves (s : Distributed) (conn : Nat) (l : Link) :
    Action → Option Connection → Link → Option Connection → Prop where
  | untouched {a : Action} {handler : Option Connection} : Moves s conn l a handler l handler
  | issues {cmd : WorkerCommand} {handler : Option Connection} :
      Moves s conn l (.command conn cmd) handler (l.issue cmd) handler
  | hears {handler : Option Connection} :
      Moves s conn l (.hear conn) handler (l.hear (!s.coordinator.running)) handler
  | ends {handler : Option Connection} :
      Moves s conn l (.kill conn) handler { l with phase := .stopped } handler
  | greets {f : Frame} {reg : RegisterMsg} (first : l.requests.next = some f)
      (running : s.coordinator.running = true) (type : f.type = .register)
      (decoded : decodeRegister f = some reg) :
      Moves s conn l (.deliver conn) none { l with requests := l.requests.take }
        (some ⟨reg, some (.welcome reg.worker)⟩)
  | refuses {f : Frame} {reply : Reply} (first : l.requests.next = some f)
      (running : s.coordinator.running = true)
      (other : f.type ≠ .register ∨ decodeRegister f = none) :
      Moves s conn l (.deliver conn) none
        ({ l with requests := l.requests.take }.answered (some reply)) none
  | answers {f : Frame} {reg : RegisterMsg} {reply : Reply} (first : l.requests.next = some f)
      (running : s.coordinator.running = true)
      (replied : (s.coordinator.shared.receive f).1 = .replied reply) :
      Moves s conn l (.deliver conn) (some ⟨reg, none⟩)
        ({ l with requests := l.requests.take }.answered (some reply)) (some ⟨reg, none⟩)
  | accepts {f : Frame} {reg : RegisterMsg} {next : Pending} (first : l.requests.next = some f)
      (running : s.coordinator.running = true)
      (accepts : s.coordinator.shared.Accepts f next) :
      Moves s conn l (.deliver conn) (some ⟨reg, none⟩) { l with requests := l.requests.take }
        (some ⟨reg, some next⟩)
  | finishes {reg : RegisterMsg} {work : Pending} {reply : Reply}
      (running : s.coordinator.running = true)
      (ran : (work.run.exec s.coordinator.shared).1 = .ok (.replied reply)) :
      Moves s conn l (.proceed conn) (some ⟨reg, some work⟩) (l.answered (some reply))
        (some ⟨reg, none⟩)
  | proceeds {reg : RegisterMsg} {rr : ReserveMsg} {planned : ReservationId}
      (running : s.coordinator.running = true)
      (ran : ((Pending.plan rr).run.exec s.coordinator.shared).1 =
        .ok (.pending (.reserve rr planned))) :
      Moves s conn l (.proceed conn) (some ⟨reg, some (.plan rr)⟩) l
        (some ⟨reg, some (.reserve rr planned)⟩)
  | closes {c : Connection} (stopped : l.phase = .stopped) (drained : l.requests.next = none)
      (idle : c.work = none) : Moves s conn l (.hangUp conn) (some c) l none

theorem running_of_takesUp {c : Coordinator} {event : Event} {taken : Nat × Frame}
    (takes : c.takesUp event = some taken) : c.running = true := by
  unfold Coordinator.takesUp at takes
  split at takes
  case isTrue running => exact running
  case isFalse => cases takes

/-- An action without an event at the coordinator. -/
theorem moves_of_eventless (found : s.links conn = some l) (eventless : s.event a = none) :
    ∃ l', (s.after a).links conn = some l' ∧
      s.Moves conn l a (s.coordinator.connections conn) l'
        ((s.after a).coordinator.connections conn) := by
  have links : (s.after a).links conn = some (s.touch a conn l) := by
    show s.linkAfter a conn = _
    unfold linkAfter reply
    rw [found, eventless]
    rfl
  have frozen : (s.after a).coordinator = s.coordinator := coordinator_after none eventless
  refine ⟨_, links, ?_⟩
  rw [frozen]
  unfold touch
  cases a with
  | command here cmd =>
      dsimp only
      split
      · rename_i same
        subst same
        exact .issues
      · exact .untouched
  | hear here =>
      dsimp only
      split
      · rename_i same
        subst same
        exact .hears
      · exact .untouched
  | kill here =>
      dsimp only
      split
      · rename_i same
        subst same
        exact .ends
      · exact .untouched
  | deliver here =>
      dsimp only
      rw [if_neg (by simp [eventless])]
      exact .untouched
  | spawn here worker boot node => exact .untouched
  | proceed here => exact .untouched
  | hangUp here => exact .untouched
  | outside event => exact .untouched

/-- A frame reaches the handler of a link. -/
theorem moves_of_deliver (found : s.links conn = some l) {here : Nat} {event : Event}
    (enabled : s.event (.deliver here) = some event) :
    ∃ l', (s.after (.deliver here)).links conn = some l' ∧
      s.Moves conn l (.deliver here) (s.coordinator.connections conn) l'
        ((s.after (.deliver here)).coordinator.connections conn) := by
  have links : (s.after (.deliver here)).links conn =
      some ((if here = conn then { l with requests := l.requests.take } else l).answered
        (s.coordinator.repliesTo event conn)) := by
    show s.linkAfter _ conn = _
    unfold linkAfter reply touch
    rw [found, enabled]
    simp only [Option.isSome_some, and_true]
    rfl
  have stepped : (s.after (.deliver here)).coordinator = s.coordinator.after event :=
    coordinator_after (some event) enabled
  refine ⟨_, links, ?_⟩
  rw [stepped]
  unfold Distributed.event at enabled
  obtain ⟨f, first, enabled⟩ := Option.bind_eq_some_iff.mp enabled
  split at enabled
  case isFalse => cases enabled
  case isTrue takes =>
    obtain rfl := Option.some.inj enabled
    have running := running_of_takesUp takes
    by_cases same : here = conn
    · subst same
      rw [if_pos rfl]
      rw [found] at first
      have turned := s.coordinator.turn (s.arrival here f) here
      generalize handler : s.coordinator.connections here = before at turned ⊢
      generalize (s.coordinator.after (s.arrival here f)).connections here = after' at turned ⊢
      generalize s.coordinator.repliesTo (s.arrival here f) here = reply at turned ⊢
      unfold arrival at takes turned
      rw [handler] at takes turned
      cases before with
      | none =>
          dsimp only at takes turned
          cases turned with
          | rests quiet => exact absurd takes (quiet f)
          | refuses _ other => exact .refuses first running other
          | greets _ type decoded => exact .greets first running type decoded
      | some c =>
          dsimp only at takes turned
          cases turned with
          | rests quiet => exact absurd takes (quiet f)
          | answers _ replied => exact .answers first running replied
          | accepts _ accepted => exact .accepts first running accepted
    · have other : (s.arrival here f).conn? ≠ some conn := by
        unfold arrival
        split
        · exact fun at' => same (Option.some.inj at')
        · exact fun at' => same (Option.some.inj at')
      obtain ⟨connections, silent, _⟩ := Coordinator.turn_of_other (s := s.coordinator) other
      rw [if_neg same, connections, silent]
      exact .untouched

/-- Every action is a move at every link. -/
theorem moves (found : s.links conn = some l) (a : Action) :
    ∃ l', (s.after a).links conn = some l' ∧
      s.Moves conn l a (s.coordinator.connections conn) l'
        ((s.after a).coordinator.connections conn) := by
  cases enabled : s.event a with
  | none => exact moves_of_eventless found enabled
  | some event =>
      have stepped : (s.after a).coordinator = s.coordinator.after event :=
        coordinator_after (some event) enabled
      have links : ∀ b, a = b → (s.after a).links conn =
          some ((s.touch b conn l).answered (s.coordinator.repliesTo event conn)) := by
        rintro b rfl
        show s.linkAfter _ conn = _
        unfold linkAfter reply
        rw [found, enabled]
        rfl
      have apart : event.conn? ≠ some conn → s.touch a conn l = l →
          ∃ l', (s.after a).links conn = some l' ∧
            s.Moves conn l a (s.coordinator.connections conn) l'
              ((s.after a).coordinator.connections conn) := by
        intro other same
        obtain ⟨connections, silent, _⟩ := Coordinator.turn_of_other (s := s.coordinator) other
        refine ⟨l, ?_, ?_⟩
        · rw [links a rfl, same, silent]
          rfl
        · rw [stepped, connections]
          exact .untouched
      cases a with
      | deliver here => exact moves_of_deliver found enabled
      | proceed here =>
          obtain rfl : Event.proceed here = event := Option.some.inj enabled
          by_cases same : here = conn
          · subst same
            refine ⟨_, links _ rfl, ?_⟩
            rw [stepped]
            have turned := s.coordinator.turn (.proceed here) here
            generalize s.coordinator.connections here = before at turned ⊢
            generalize (s.coordinator.after (.proceed here)).connections here = after' at turned ⊢
            generalize s.coordinator.repliesTo (.proceed here) here = reply at turned ⊢
            cases turned with
            | rests quiet => exact .untouched
            | finishes running ran => exact .finishes running ran
            | proceeds running ran => exact .proceeds running ran
          · exact apart (fun at' => same (Option.some.inj at')) rfl
      | hangUp here =>
          by_cases same : here = conn
          · subst same
            refine ⟨_, links _ rfl, ?_⟩
            rw [stepped]
            unfold Distributed.event at enabled
            dsimp only at enabled
            rw [found] at enabled
            rw [Option.bind_some] at enabled
            split at enabled
            case isFalse => cases enabled
            case isTrue finished =>
              obtain rfl := Option.some.inj enabled
              have turned := s.coordinator.turn (.disconnect here) here
              generalize s.coordinator.connections here = before at turned ⊢
              generalize (s.coordinator.after (.disconnect here)).connections here = after'
                at turned ⊢
              generalize s.coordinator.repliesTo (.disconnect here) here = reply at turned ⊢
              cases turned with
              | rests quiet => exact .untouched
              | closes idle => exact .closes finished.1 finished.2 idle
          · unfold Distributed.event at enabled
            obtain ⟨_, _, enabled⟩ := Option.bind_eq_some_iff.mp enabled
            split at enabled
            case isFalse => cases enabled
            case isTrue =>
              obtain rfl := Option.some.inj enabled
              exact apart (fun at' => same (Option.some.inj at')) rfl
      | outside event' =>
          unfold Distributed.event at enabled
          dsimp only at enabled
          split at enabled
          case isTrue => cases enabled
          case isFalse free =>
            obtain rfl := Option.some.inj enabled
            refine apart (fun at' => free ?_) rfl
            rw [at']
            simp [found]
      | spawn here worker boot node => cases enabled
      | command here cmd => cases enabled
      | hear here => cases enabled
      | kill here => cases enabled

/-- A new link belongs to a worker that has just connected. -/
theorem spawned_of_after (free : s.links conn = none) (found : (s.after a).links conn = some l) :
    ∃ worker boot node f, a = .spawn conn worker boot node ∧
      s.coordinator.connections conn = none ∧
      (WorkerCtx.fresh worker boot node).registerFrame = .ok f ∧
      l = .start (.fresh worker boot node) f ∧ (s.after a).coordinator = s.coordinator := by
  change s.linkAfter a conn = some l at found
  unfold linkAfter at found
  rw [free] at found
  dsimp only at found
  unfold spawned at found
  split at found
  · rename_i here worker boot node
    split at found
    case isFalse => cases found
    case isTrue enabled =>
      obtain ⟨rfl, _, closed⟩ := enabled
      obtain ⟨f, framed⟩ := WorkerCtx.exists_registerFrame (w := .fresh worker boot node)
      dsimp only at found
      rw [framed] at found
      obtain rfl := Option.some.inj found
      exact ⟨worker, boot, node, f, rfl, closed, framed, rfl, rfl⟩
  · cases found

end Distributed

end PowerGovernor
