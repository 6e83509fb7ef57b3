import PowerGovernor.Distributed.Sessions

/-!
The epoch in the system.

Owns the bound on the epochs of workers, the run of a worker from a roll of the epoch
on, and the theorem that such a worker only hears that its epoch is stale.
-/

set_option autoImplicit false

namespace PowerGovernor

/-! ## The coordinator's epoch -/

namespace Coordinator

theorem epoch_after (s : Coordinator) (event : Event) :
    (s.after event).shared.epoch = s.shared.epoch ∨
      event = .rollEpoch ∧ (s.after event).shared.epoch = s.shared.epoch.next := by
  rcases fencing_after s event with same | ⟨reg, _, written⟩ | ⟨rolled, written⟩
  · exact .inl (Prod.mk.inj same).1
  · exact .inl (Prod.mk.inj written).1
  · exact .inr ⟨rolled, (Prod.mk.inj written).1⟩

end Coordinator

namespace Link

variable {l l' : Link} {handler handler' : Option Connection} {s : Distributed} {conn : Nat}
  {a : Action}

/-- The worker knows no epoch that is still to come, and will not be told one. -/
structure Informed (l : Link) (epoch : CoordinatorEpoch) : Prop where
  known : l.ctx.epoch ≤ epoch
  welcome : l.phase = .registering → ∀ reply ∈ l.replies.waiting,
    ∃ (worker : UInt64) (told : CoordinatorEpoch), told ≤ epoch ∧
      reply = sendAck worker true (.text (toString told.raw.toNat))

theorem Informed.mono {before after : CoordinatorEpoch} (informed : l.Informed before)
    (le : before ≤ after) : l.Informed after := by
  refine ⟨Generation.le_trans informed.known le, ?_⟩
  intro registering reply waits
  obtain ⟨worker, told, known, is⟩ := informed.welcome registering reply waits
  exact ⟨worker, told, Generation.le_trans known le, is⟩

/-- A worker that does not register is told no epoch. -/
theorem Informed.of_ctx {epoch : CoordinatorEpoch} (informed : l.Informed epoch)
    (same : l'.ctx.epoch = l.ctx.epoch) (phase : l'.phase ≠ .registering) : l'.Informed epoch := by
  refine ⟨?_, fun registering => absurd registering phase⟩
  rw [same]
  exact informed.known

theorem Informed.hear {epoch : CoordinatorEpoch} (informed : l.Informed epoch) (closed : Bool) :
    (l.hear closed).Informed epoch := by
  obtain same | ⟨lines, ended⟩ | ⟨reply, registering, next, heard⟩ |
    ⟨cmd, reply, awaiting, next, heard⟩ := l.hear_cases closed
  · rw [same]
    exact informed
  · rw [ended]
    exact informed.of_ctx rfl (by simp)
  · obtain ⟨worker, told, known, rfl⟩ :=
      informed.welcome registering reply (List.mem_of_mem_head? next)
    have listens : Reply.heard (sendAck worker true (.text (toString told.raw.toNat))) =
        some ⟨worker, true, decimal told.raw.toNat⟩ := heard_welcome ⟨worker⟩ told
    rw [heard, listens]
    unfold register
    dsimp only
    rw [if_pos rfl, WorkerCtx.welcomed_decimal]
    exact ⟨known, fun registering => by cases registering⟩
  · rw [heard]
    exact informed.of_ctx rfl (by simp)

theorem Informed.after (informed : l.Informed s.coordinator.shared.epoch)
    (stage : l.Stage handler) (moved : s.Moves conn l a handler l' handler') :
    l'.Informed s.coordinator.shared.epoch := by
  have phase_of : ∀ {cmd : WorkerCommand}, l.phase = .awaiting cmd ∨ l.phase = .stopped →
      l.phase ≠ .registering := by
    rintro cmd (phase | phase) <;> simp [phase]
  cases moved with
  | untouched => exact informed
  | issues =>
      obtain same | ⟨_, _, _, _, _, _, asked⟩ | ⟨_, phase, _, after, idle⟩ := l.issue_cases _
      · rw [same]
        exact informed
      · rw [asked]
        exact informed.of_ctx (ctx_advanced l.ctx _).2.2 (by simp)
      · rw [idle]
        refine informed.of_ctx rfl ?_
        rcases after with rfl | rfl <;> simp
  | hears => exact informed.hear _
  | ends => exact informed.of_ctx rfl (by simp)
  | greets first running type decoded => exact ⟨informed.known, informed.welcome⟩
  | refuses first running other => exact (stage.not_refused first other).elim
  | answers first running replied =>
      cases stage with
      | asked phase asked requests replies => exact informed.of_ctx rfl (phase_of phase)
      | welcomed phase requests | idle phase requests | answered phase requests =>
          exact absurd first (Fifo.next_ne_some_of_empty requests)
  | accepts first running accepts => exact ⟨informed.known, informed.welcome⟩
  | finishes running ran =>
      cases stage with
      | welcoming phase requests replies =>
          rw [exec_welcome] at ran
          obtain rfl := Progress.replied.inj (Except.ok.inj ran)
          refine ⟨informed.known, ?_⟩
          intro _ reply waits
          rw [waiting_answered replies, List.mem_singleton] at waits
          exact ⟨_, _, Generation.le_refl _, waits⟩
      | working phase asked worksOn requests replies =>
          exact informed.of_ctx rfl (phase_of phase)
  | proceeds running ran => exact informed
  | closes stopped drained idle => exact informed

end Link

namespace Distributed

variable {s : Distributed} {a : Action} {conn : Nat} {l : Link}

/-- A roll of the epoch gives a new one: the counter does not wrap around. -/
def RollsUp (s : Distributed) (a : Action) : Prop :=
  s.event a = some .rollEpoch → s.coordinator.shared.epoch < s.coordinator.shared.epoch.next

theorem epoch_le_after (rollsUp : s.RollsUp a) :
    s.coordinator.shared.epoch ≤ (s.after a).coordinator.shared.epoch := by
  cases enabled : s.event a with
  | none =>
      rw [coordinator_after none enabled]
      exact Generation.le_refl _
  | some event =>
      rw [coordinator_after (some event) enabled]
      rcases s.coordinator.epoch_after event with same | ⟨rfl, rolled⟩
      · exact same ▸ Generation.le_refl _
      · exact rolled ▸ UInt64.le_of_lt (rollsUp enabled)

/-- No worker is ahead of the coordinator. -/
def NoneAhead (s : Distributed) : Prop :=
  ∀ conn l, s.links conn = some l → l.Informed s.coordinator.shared.epoch

theorem noneAhead_of_reachable (reached : (runs RollsUp).Reachable s) :
    s.InStep ∧ s.NoneAhead := by
  refine reached.invariant (fun s => s.InStep ∧ s.NoneAhead) ?_ ?_
  · rintro s rfl
    refine ⟨@inStep_of_reachable _ (fun _ _ => True) (.start rfl), ?_⟩
    intro conn l found
    cases found
  · rintro s a s' ⟨inStep, noneAhead⟩ ⟨rollsUp, rfl⟩
    refine ⟨inStep_after inStep a, ?_⟩
    intro conn l' found'
    cases found : s.links conn with
    | none =>
        obtain ⟨worker, boot, node, f, rfl, _, _, rfl, _⟩ := spawned_of_after found found'
        refine ⟨Nat.zero_le _, ?_⟩
        intro _ reply waits
        exact absurd waits List.not_mem_nil
    | some l =>
        obtain ⟨l'', here, moved⟩ := moves found a
        obtain rfl := Option.some.inj (here.symm.trans found')
        exact ((noneAhead conn l found).after (inStep conn l found).1 moved).mono
          (epoch_le_after rollsUp)

end Distributed

/-! ## Workers of an earlier epoch -/

/-- The command names an epoch and a boot itself. -/
def WorkerCommand.stale : WorkerCommand → Bool
  | .staleObserve _ _ _ | .staleReserve _ _ _ _ | .staleRelease _ _ _ _ _ => true
  | _ => false

theorem WorkerCtx.own_of_message {w : WorkerCtx} {cmd : WorkerCommand} {type : MsgType}
    {m : Message} (sends : w.message cmd = some (type, m)) (stale : cmd.stale = false) :
    cmd.own = true ∧ type ≠ .register := by
  cases cmd with
  | observe mw centi | reserve budget mw | decision budget mw | activate reservation budget mw
  | release reservation budget mw =>
      cases sends
      exact ⟨rfl, by decide⟩
  | staleObserve epoch boot mw | staleReserve epoch boot budget mw
  | staleRelease epoch boot reservation budget mw => cases stale
  | quit | badArgs name | unknown => cases sends

/-- The frame carries an own command under the epoch. -/
def Frame.OwnUnder (f : Frame) (epoch : CoordinatorEpoch) : Prop :=
  ∃ (w : WorkerCtx) (cmd : WorkerCommand) (type : MsgType) (m : Message), w.epoch = epoch ∧
    cmd.stale = false ∧ w.message cmd = some (type, m) ∧ m.frame type = .ok f

theorem Frame.OwnUnder.type_ne {f : Frame} {epoch : CoordinatorEpoch} (own : f.OwnUnder epoch) :
    f.type ≠ .register := by
  obtain ⟨w, cmd, type, m, _, stale, message, framed⟩ := own
  rw [(Message.frame_eq_ok.mp framed).1]
  exact (WorkerCtx.own_of_message message stale).2

/-- A coordinator of another epoch refuses the frame. -/
theorem Frame.OwnUnder.receive {f : Frame} {epoch : CoordinatorEpoch} (own : f.OwnUnder epoch)
    {cs : CoordShared} (other : epoch ≠ cs.epoch) :
    ∃ id, cs.receive f = (.replied (sendError id "STALE_EPOCH"), cs) := by
  obtain ⟨w, cmd, type, m, rfl, stale, message, framed⟩ := own
  exact WorkerCtx.receive_of_other_epoch (WorkerCtx.own_of_message message stale).1 message framed
    other

namespace Link

/-- The worker is of an epoch that the coordinator has left, and since it had sent the
replies `heard`, the handler has only refused. -/
structure FencedOff (l : Link) (epoch : CoordinatorEpoch) (heard : List Reply)
    (handler : Option Connection) : Prop where
  ctx : l.ctx.epoch = epoch
  phase : l.phase ≠ .registering
  idle : handler.bind Connection.work = none
  own : ∀ f ∈ l.requests.waiting, f.OwnUnder epoch
  refused : ∃ replies, l.replies.sent = heard ++ replies ∧
    ∀ reply ∈ replies, ∃ id, reply = sendError id "STALE_EPOCH"

variable {l l' : Link} {handler handler' : Option Connection} {s : Distributed} {conn : Nat}
  {a : Action} {epoch : CoordinatorEpoch} {heard : List Reply}

theorem FencedOff.after (fencedOff : l.FencedOff epoch heard handler) (stage : l.Stage handler)
    (moved : s.Moves conn l a handler l' handler') (left : epoch ≠ s.coordinator.shared.epoch)
    (loyal : ∀ cmd, a = .command conn cmd → cmd.stale = false) :
    l'.FencedOff epoch heard handler' := by
  obtain ⟨ctx, phase, idle, own, refused⟩ := fencedOff
  have rest : ∀ f ∈ l.requests.take.waiting, f.OwnUnder epoch := fun f waits =>
    own f (List.mem_of_mem_drop waits)
  cases moved with
  | untouched => exact ⟨ctx, phase, idle, own, refused⟩
  | @issues cmd =>
      obtain same | ⟨_, type, m, f, message, framed, asked⟩ | ⟨_, after, _, ready, idles⟩ :=
        l.issue_cases cmd
      · rw [same]
        exact ⟨ctx, phase, idle, own, refused⟩
      · rw [asked]
        refine ⟨(ctx_advanced l.ctx cmd).2.2.trans ctx, by simp, idle, ?_, refused⟩
        intro f' waits
        rcases List.mem_append.mp waits with before | new
        · exact own f' before
        · obtain rfl := List.mem_singleton.mp new
          exact ⟨l.ctx, cmd, type, m, ctx, loyal cmd rfl, message, framed⟩
      · rw [idles]
        refine ⟨ctx, ?_, idle, own, refused⟩
        rcases ready with rfl | rfl <;> simp
  | hears =>
      obtain same | ⟨_, ended⟩ | ⟨_, registering, _, _⟩ | ⟨_, _, _, _, hears⟩ := l.hear_cases _
      · rw [same]
        exact ⟨ctx, phase, idle, own, refused⟩
      · rw [ended]
        exact ⟨ctx, by simp, idle, own, refused⟩
      · exact absurd registering phase
      · rw [hears]
        exact ⟨ctx, by simp, idle, own, refused⟩
  | ends => exact ⟨ctx, by simp, idle, own, refused⟩
  | greets first running type decoded =>
      exact absurd type (own _ (List.mem_of_mem_head? first)).type_ne
  | refuses first running other => exact (stage.not_refused first other).elim
  | answers first running replied =>
      refine ⟨ctx, phase, idle, rest, ?_⟩
      obtain ⟨id, stale⟩ := (own _ (List.mem_of_mem_head? first)).receive left
      rw [stale] at replied
      obtain rfl := Progress.replied.inj replied
      obtain ⟨replies, sent, each⟩ := refused
      refine ⟨replies ++ [sendError id "STALE_EPOCH"], ?_, ?_⟩
      · rw [← List.append_assoc, ← sent]
        rfl
      · intro reply member
        rcases List.mem_append.mp member with before | new
        · exact each reply before
        · exact ⟨id, List.mem_singleton.mp new⟩
  | accepts first running accepts =>
      obtain ⟨id, stale⟩ := (own _ (List.mem_of_mem_head? first)).receive left
      have goesOn := CoordShared.receive_eq_pending.mpr accepts
      rw [stale] at goesOn
      cases goesOn
  | finishes running ran => cases idle
  | proceeds running ran => cases idle
  | closes stopped drained _ => exact ⟨ctx, phase, rfl, own, refused⟩

end Link

namespace Distributed

variable {s : Distributed} {a : Action} {conn : Nat} {l : Link}

/-- The worker of the connection names no epoch itself, and the epoch does not wrap around. -/
structure Loyal (conn : Nat) (s : Distributed) (a : Action) : Prop where
  commands : ∀ cmd, a = .command conn cmd → cmd.stale = false
  rollsUp : s.RollsUp a

/-- A worker that is fenced off does not change what the handlers share. -/
theorem shared_of_fencedOff {epoch : CoordinatorEpoch} {heard : List Reply}
    (fencedOff : l.FencedOff epoch heard (s.coordinator.connections conn))
    (stage : l.Stage (s.coordinator.connections conn)) (found : s.links conn = some l)
    (left : epoch ≠ s.coordinator.shared.epoch) :
    (s.after (.deliver conn)).coordinator.shared = s.coordinator.shared ∧
      (s.after (.proceed conn)).coordinator.shared = s.coordinator.shared := by
  have idle := fencedOff.idle
  constructor
  · cases enabled : s.event (.deliver conn) with
    | none =>
        rw [coordinator_after none enabled]
        rfl
    | some event =>
        rw [coordinator_after (some event) enabled]
        obtain ⟨f, first, rfl⟩ := next_of_deliver found enabled
        have own := fencedOff.own f (List.mem_of_mem_head? first)
        unfold arrival
        generalize handler : s.coordinator.connections conn = c at stage idle ⊢
        cases c with
        | none =>
            cases stage with
            | greeting phase framed requests replies =>
                obtain rfl := (Fifo.next_eq_some_of_singleton requests).mp first
                exact absurd (WorkerCtx.decodeRegister_registerFrame framed).1 own.type_ne
            | closed phase requests replies =>
                exact absurd first (Fifo.next_ne_some_of_empty requests)
        | some c =>
            obtain ⟨reg, work⟩ := c
            obtain rfl : work = none := idle
            obtain ⟨id, stale⟩ := own.receive left
            show (s.coordinator.after (.frame conn f)).shared = s.coordinator.shared
            unfold Coordinator.after Coordinator.take
            split
            · dsimp only
              rw [handler]
              exact congrArg Prod.snd stale
            · rfl
  · have stepped : (s.after (.proceed conn)).coordinator = s.coordinator.after (.proceed conn) :=
      coordinator_after (some _) rfl
    rw [stepped]
    unfold Coordinator.after Coordinator.take
    split
    · dsimp only
      split
      · rename_i reg work busy
        rw [busy] at idle
        cases idle
      · rfl
    · rfl

/-- The worker of the connection is of an earlier epoch and fenced off. -/
def LeftBehind (s : Distributed) (conn : Nat) (epoch : CoordinatorEpoch) (heard : List Reply) :
    Prop :=
  s.InStep ∧ epoch < s.coordinator.shared.epoch ∧
    ∃ l, s.links conn = some l ∧ l.FencedOff epoch heard (s.coordinator.connections conn)

theorem LeftBehind.after {epoch : CoordinatorEpoch} {heard : List Reply}
    (leftBehind : s.LeftBehind conn epoch heard) (loyal : s.Loyal conn a) :
    (s.after a).LeftBehind conn epoch heard := by
  obtain ⟨inStep, ahead, l, found, fencedOff⟩ := leftBehind
  obtain ⟨l', found', moved⟩ := moves found a
  have left : epoch ≠ s.coordinator.shared.epoch :=
    fun same => Generation.lt_irrefl _ (same ▸ ahead)
  exact ⟨inStep_after inStep a, UInt64.lt_of_lt_of_le ahead (epoch_le_after loyal.rollsUp),
    l', found', fencedOff.after (inStep conn l found).1 moved left
      fun cmd commanded => loyal.commands cmd commanded⟩

/-- The roll leaves a worker that is ready behind. -/
theorem leftBehind_of_roll (reached : (runs RollsUp).Reachable s) (found : s.links conn = some l)
    (ready : l.phase = .ready) (running : s.coordinator.running = true)
    (up : s.coordinator.shared.epoch < s.coordinator.shared.epoch.next) :
    (s.after (.outside .rollEpoch)).LeftBehind conn l.ctx.epoch l.replies.sent := by
  obtain ⟨inStep, noneAhead⟩ := noneAhead_of_reachable reached
  have known := (noneAhead conn l found).known
  have stage := (inStep conn l found).1
  obtain ⟨handler, requests, replies⟩ := stage.of_ready ready
  have rolled : (s.after (.outside .rollEpoch)).coordinator =
      { s.coordinator with shared :=
          { s.coordinator.shared with epoch := s.coordinator.shared.epoch.next } } := by
    rw [coordinator_after (some .rollEpoch) rfl]
    exact if_pos running
  have kept : (s.after (.outside .rollEpoch)).links conn = some l := by
    show s.linkAfter _ conn = _
    unfold linkAfter
    rw [found]
    have other : Event.rollEpoch.conn? ≠ some conn := Option.some_ne_none conn |>.symm
    have silent : s.reply (.outside .rollEpoch) conn = none := (Coordinator.turn_of_other other).2.1
    dsimp only
    rw [silent]
    rfl
  refine ⟨inStep_after inStep _, ?_, l, kept, ?_⟩
  · rw [rolled]
    exact UInt64.lt_of_le_of_lt known up
  · rw [rolled]
    refine ⟨rfl, by simp [ready], ?_, ?_, [], (List.append_nil _).symm, ?_⟩
    · rw [handler]
      rfl
    · intro f waits
      rw [requests] at waits
      exact absurd waits List.not_mem_nil
    · intro reply member
      exact absurd member List.not_mem_nil

/-- A roll of the epoch fences off every worker that has joined. Whatever the processes
do after it, in any order: as long as the worker names no other epoch itself, it is only
told that its epoch is stale, and its messages change nothing that the handlers share. -/
theorem epoch_roll_fences_off (reached : (runs RollsUp).Reachable s)
    (found : s.links conn = some l) (ready : l.phase = .ready)
    (running : s.coordinator.running = true)
    (up : s.coordinator.shared.epoch < s.coordinator.shared.epoch.next) {actions : List Action}
    (loyal : Along after (Loyal conn) (s.after (.outside .rollEpoch)) actions) {s' : Distributed}
    (later : s' = actions.foldl after (s.after (.outside .rollEpoch))) :
    ∃ l' replies, s'.links conn = some l' ∧ l'.replies.sent = l.replies.sent ++ replies ∧
      (∀ reply ∈ replies, ∃ id, reply = sendError id "STALE_EPOCH") ∧
      (s'.after (.deliver conn)).coordinator.shared = s'.coordinator.shared ∧
      (s'.after (.proceed conn)).coordinator.shared = s'.coordinator.shared := by
  have ran : (guardedRuns after (Loyal conn) (s.after (.outside .rollEpoch))).Reachable s' :=
    later ▸ TransitionSystem.Reachable.foldl (.start rfl) loyal
  have leftBehind : s'.LeftBehind conn l.ctx.epoch l.replies.sent := by
    refine ran.invariant (fun s => s.LeftBehind conn l.ctx.epoch l.replies.sent) ?_ ?_
    · rintro s rfl
      exact leftBehind_of_roll reached found ready running up
    · rintro s a s' leftBehind ⟨loyal, rfl⟩
      exact leftBehind.after loyal
  obtain ⟨inStep, ahead, l', found', fencedOff⟩ := leftBehind
  obtain ⟨replies, sent, each⟩ := fencedOff.refused
  have left : l.ctx.epoch ≠ s'.coordinator.shared.epoch :=
    fun same => Generation.lt_irrefl _ (same ▸ ahead)
  exact ⟨l', replies, found', sent, each,
    shared_of_fencedOff fencedOff (inStep conn l' found').1 found' left⟩

theorem rollsUp_of_inside (inside : ∀ event, a ≠ .outside event) : s.RollsUp a :=
  fun rolls => absurd (outside_of_control rolls rfl) (inside _)

theorem run_append (before rest : List Action) :
    run (before ++ rest) = rest.foldl after (run before) := List.foldl_append ..

/-- Worker 1 asks for power. -/
def latecoming : List Action := [.command 1 (.reserve 1 5), .deliver 1]

theorem epoch_roll_fences_off_latecoming : ∃ l l' replies, (run joining).links 1 = some l ∧
    (run (joining ++ .outside .rollEpoch :: latecoming)).links 1 = some l' ∧
    l'.replies.sent = l.replies.sent ++ replies ∧
    (∀ reply ∈ replies, ∃ id, reply = sendError id "STALE_EPOCH") ∧
    ((run (joining ++ .outside .rollEpoch :: latecoming)).after (.deliver 1)).coordinator.shared =
      (run (joining ++ .outside .rollEpoch :: latecoming)).coordinator.shared ∧
    ((run (joining ++ .outside .rollEpoch :: latecoming)).after (.proceed 1)).coordinator.shared =
      (run (joining ++ .outside .rollEpoch :: latecoming)).coordinator.shared := by
  obtain ⟨l, found, ready⟩ := joined_link
  have reached : (runs RollsUp).Reachable (run joining) := by
    refine TransitionSystem.Reachable.foldl (.start rfl) ?_
    exact ⟨rollsUp_of_inside (by simp), rollsUp_of_inside (by simp), rollsUp_of_inside (by simp),
      rollsUp_of_inside (by simp), trivial⟩
  have running : (run joining).coordinator.running = true := by decide +kernel
  have epoch : (run joining).coordinator.shared.epoch = .first := by decide +kernel
  have up : (run joining).coordinator.shared.epoch <
      (run joining).coordinator.shared.epoch.next := by
    rw [epoch]
    decide
  have loyal : Along after (Loyal 1) ((run joining).after (.outside .rollEpoch)) latecoming := by
    refine ⟨⟨?_, rollsUp_of_inside (by simp)⟩, ⟨by simp, rollsUp_of_inside (by simp)⟩, trivial⟩
    rintro cmd is
    cases is
    rfl
  have later : run (joining ++ .outside .rollEpoch :: latecoming) =
      latecoming.foldl after ((run joining).after (.outside .rollEpoch)) := by
    rw [run_append, List.foldl_cons]
  obtain ⟨l', replies, facts⟩ :=
    epoch_roll_fences_off reached found ready running up loyal later
  exact ⟨l, l', replies, found, facts⟩

end Distributed

end PowerGovernor
