import PowerGovernor.Coordinator.Fencing
import PowerGovernor.Coordinator.Observations
import PowerGovernor.Distributed.Exchanges

/-!
The sessions of workers.

Owns which frames name a worker, the runs in which nobody else speaks under its id, the
session that the coordinator keeps for a worker in such a run, and the theorem that its
own commands pass the fence as long as the epoch is the one it registered in.
-/

set_option autoImplicit false

namespace PowerGovernor

/-! ## Own commands -/

/-- The command is sent under the epoch and the boot of its worker. -/
def WorkerCommand.own : WorkerCommand → Bool
  | .observe _ _ | .reserve _ _ | .activate _ _ _ | .release _ _ _ | .decision _ _ => true
  | _ => false

namespace WorkerCtx

variable {w : WorkerCtx} {cmd : WorkerCommand} {type : MsgType} {m : Message} {f : Frame}

/-- The coordinator reads the message of a command. -/
theorem decode_of_message (sends : w.message cmd = some (type, m)) (framed : m.frame type = .ok f) :
    f.type = type ∧ m.kind.decode f = some m :=
  ⟨(Message.frame_eq_ok.mp framed).1, Message.decode_frame framed (fits_of_message sends).2⟩

/-- An observation of a worker carries its id and the generation it has reached. -/
theorem obsStamp_of_message (sends : w.message cmd = some (type, m))
    (framed : m.frame type = .ok f) {o : ObsStamp} (stamped : f.obsStamp = some o) :
    o.worker = w.worker ∧ o.generation = w.obsGen ∧
      (w.advanced cmd).obsGen = w.obsGen.next := by
  obtain ⟨sameType, decoded⟩ := decode_of_message sends framed
  have silent : ∀ {type' : MsgType}, f.type = type' → type' ≠ .powerObservation →
      type' ≠ .thermalObservation → False := by
    intro type' is power thermal
    unfold Frame.obsStamp at stamped
    rw [is] at stamped
    split at stamped
    · exact power rfl
    · exact thermal rfl
    · cases stamped
  cases cmd with
  | observe mw centi | staleObserve epoch boot mw =>
      cases sends
      obtain ⟨po, read, here⟩ := Option.map_eq_some_iff.mp decoded
      cases here
      unfold Frame.obsStamp at stamped
      rw [sameType] at stamped
      dsimp only at stamped
      rw [read] at stamped
      obtain rfl := Option.some.inj stamped
      exact ⟨rfl, rfl, rfl⟩
  | reserve budget mw | decision budget mw | staleReserve epoch boot budget mw =>
      cases sends
      exact (silent sameType (by decide) (by decide)).elim
  | activate reservation budget mw | release reservation budget mw
  | staleRelease epoch boot reservation budget mw =>
      cases sends
      exact (silent sameType (by decide) (by decide)).elim
  | quit | badArgs name | unknown => cases sends

variable {cs : CoordShared}

/-- The fence that an own command meets, and the section behind it. -/
theorem receive_own (cs : CoordShared) (own : cmd.own = true)
    (sends : w.message cmd = some (type, m)) (framed : m.frame type = .ok f) :
    ∃ fence id work passed, cs.receive f = cs.fenced fence id (.pending work, passed) ∧
      (fence = cs.fenceObs w.epoch w.boot w.obsGen w.worker ∨
        fence = cs.fenceEpochBoot w.epoch w.boot) := by
  obtain ⟨sameType, decoded⟩ := decode_of_message sends framed
  unfold CoordShared.receive
  rw [sameType]
  cases cmd with
  | observe mw centi =>
      cases sends
      obtain ⟨po, read, here⟩ := Option.map_eq_some_iff.mp decoded
      cases here
      dsimp only
      rw [read]
      exact ⟨_, _, _, _, rfl, .inl rfl⟩
  | reserve budget mw | decision budget mw =>
      cases sends
      obtain ⟨rr, read, here⟩ := Option.map_eq_some_iff.mp decoded
      cases here
      dsimp only
      rw [read]
      exact ⟨_, _, _, _, rfl, .inr rfl⟩
  | activate reservation budget mw | release reservation budget mw =>
      cases sends
      obtain ⟨ba, read, here⟩ := Option.map_eq_some_iff.mp decoded
      cases here
      dsimp only
      rw [read]
      exact ⟨_, _, _, _, rfl, .inr rfl⟩
  | staleObserve epoch boot mw | staleReserve epoch boot budget mw
  | staleRelease epoch boot reservation budget mw | quit | badArgs name | unknown => cases own

/-- The coordinator refuses an own command of another epoch, and nothing else happens. -/
theorem receive_of_other_epoch (own : cmd.own = true)
    (sends : w.message cmd = some (type, m)) (framed : m.frame type = .ok f)
    (other : w.epoch ≠ cs.epoch) :
    ∃ id, cs.receive f = (.replied (sendError id "STALE_EPOCH"), cs) := by
  obtain ⟨fence, id, work, passed, received, rfl | rfl⟩ := receive_own cs own sends framed
  · refine ⟨id, received.trans ?_⟩
    rw [show cs.fenceObs w.epoch w.boot w.obsGen w.worker = .error "STALE_EPOCH" from
      if_pos other]
    rfl
  · refine ⟨id, received.trans ?_⟩
    rw [show cs.fenceEpochBoot w.epoch w.boot = .error "STALE_EPOCH" from if_pos other]
    rfl

/-- The coordinator accepts an own command of its epoch from a worker that is registered
and whose generation is not below its mark. -/
theorem accepts_of_session (own : cmd.own = true)
    (sends : w.message cmd = some (type, m)) (framed : m.frame type = .ok f)
    (same : w.epoch = cs.epoch) (registered : cs.bootOf w.worker = some w.boot)
    (fresh : ∀ hi, cs.markOf w.worker = some hi → hi ≤ w.obsGen) :
    ∃ work, cs.Accepts f work := by
  obtain ⟨fence, id, work, passed, received, rfl | rfl⟩ := receive_own cs own sends framed
  · have passes : cs.fenceObs w.epoch w.boot w.obsGen w.worker = .ok () := by
      unfold CoordShared.fenceObs
      rw [if_neg (not_not.mpr same), if_neg (not_not.mpr registered), if_neg]
      rw [Option.any_eq_true]
      rintro ⟨hi, found, below⟩
      have marked : cs.markOf w.worker = some hi.generation :=
        Option.map_eq_some_iff.mpr ⟨hi, found, rfl⟩
      exact Generation.not_lt.mpr (fresh hi.generation marked) (of_decide_eq_true below)
    rw [passes] at received
    exact ⟨work, CoordShared.receive_eq_pending.mp (congrArg Prod.fst received)⟩
  · have passes : cs.fenceEpochBoot w.epoch w.boot = .ok () :=
      CoordShared.fenceEpochBoot_eq_ok.mpr ⟨same, CoordShared.booted_of_bootOf registered⟩
    rw [passes] at received
    exact ⟨work, CoordShared.receive_eq_pending.mp (congrArg Prod.fst received)⟩

end WorkerCtx

/-! ## Events about a worker -/

/-- The event registers the worker or carries an observation of it. -/
def Event.Names : Event → WorkerId → Prop
  | .connect _ first, worker => ∃ reg, decodeRegister first = some reg ∧ reg.worker = worker
  | .frame _ m, worker => ∃ o, m.obsStamp = some o ∧ o.worker = worker
  | _, _ => False

namespace Coordinator

variable {s : Coordinator} {event : Event} {worker : WorkerId}

theorem names_of_markWrite {write : MarkWrite} (written : s.markWrite event = some write) :
    event.Names write.entry.worker := by
  unfold markWrite at written
  split at written
  case isFalse stopped => cases written
  case isTrue running =>
    split at written
    · split at written
      · cases written
      · split at written
        · cases written
        · obtain ⟨reg, decoded, rfl⟩ := Option.map_eq_some_iff.mp written
          exact ⟨reg, decoded, rfl⟩
    · split at written
      · obtain ⟨o, passed, rfl⟩ := Option.map_eq_some_iff.mp written
        exact ⟨o, (Option.filter_eq_some_iff.mp passed).1, rfl⟩
      · cases written
    · cases written

/-- What the coordinator knows of a worker stays as it is when nothing names it. -/
theorem known_of_unnamed (unnamed : ¬ event.Names worker) :
    (s.after event).shared.bootOf worker = s.shared.bootOf worker ∧
      (s.after event).shared.markOf worker = s.shared.markOf worker := by
  constructor
  · rcases fencing_after s event with same | ⟨reg, registered, written⟩ | ⟨_, written⟩
    · exact bootOf_of_fencing same worker
    · obtain ⟨conn, first, rfl, _, _, decoded⟩ := registered
      have other : worker ≠ reg.worker := fun same => unnamed ⟨reg, decoded, same.symm⟩
      rw [bootOf_of_fencing written]
      unfold CoordShared.bootOf CoordShared.register
      dsimp only
      rw [Keyed.find?_assign, if_neg other]
    · unfold CoordShared.bootOf
      rw [show (s.after event).shared.workers = s.shared.workers from (Prod.mk.inj written).2]
  · rw [markOf_after]
    cases written : s.markWrite event with
    | none => rfl
    | some write =>
        dsimp only
        rw [if_neg]
        intro same
        rw [same] at unnamed
        exact unnamed (names_of_markWrite written)

/-- A REGISTER writes the boot and clears the mark. -/
theorem known_of_register {conn : Nat} {first : Frame} {reg : RegisterMsg}
    (running : s.running = true) (free : s.connections conn = none)
    (type : first.type = .register) (decoded : decodeRegister first = some reg) :
    (s.after (.connect conn first)).shared.bootOf reg.worker = some reg.boot ∧
      (s.after (.connect conn first)).shared.markOf reg.worker = some .null := by
  have registered : (s.after (.connect conn first)).shared = s.shared.register reg := by
    unfold after take
    rw [if_pos running]
    dsimp only
    rw [free]
    dsimp only
    rw [if_neg (not_not.mpr type), decoded]
    rfl
  rw [registered]
  unfold CoordShared.bootOf CoordShared.markOf CoordShared.register
  dsimp only
  rw [Keyed.find?_assign, Keyed.find?_assign, if_pos rfl, if_pos rfl]
  exact ⟨rfl, rfl⟩

/-- A frame writes the mark of its observation. -/
theorem accept_of_markWrite {conn : Nat} {m : Frame} {write : MarkWrite}
    (written : s.markWrite (.frame conn m) = some write) :
    ∃ o, m.obsStamp = some o ∧ write = .accept o := by
  unfold markWrite at written
  split at written
  case isFalse stopped => cases written
  case isTrue running =>
    dsimp only at written
    split at written
    · obtain ⟨o, passed, rfl⟩ := Option.map_eq_some_iff.mp written
      exact ⟨o, (Option.filter_eq_some_iff.mp passed).1, rfl⟩
    · cases written

/-- A frame changes no boot, and a mark only by its observation. -/
theorem known_of_frame (s : Coordinator) (conn : Nat) (m : Frame) (worker : WorkerId) :
    (s.after (.frame conn m)).shared.bootOf worker = s.shared.bootOf worker ∧
      ((s.after (.frame conn m)).shared.markOf worker = s.shared.markOf worker ∨
        ∃ o, m.obsStamp = some o ∧
          (s.after (.frame conn m)).shared.markOf worker = some o.generation) := by
  constructor
  · rcases fencing_after s (.frame conn m) with same | ⟨_, ⟨_, _, other, _⟩, _⟩ | ⟨other, _⟩
    · exact bootOf_of_fencing same worker
    · cases other
    · cases other
  · rw [markOf_after]
    cases written : s.markWrite (.frame conn m) with
    | none => exact .inl rfl
    | some write =>
        dsimp only
        split
        · obtain ⟨o, stamped, rfl⟩ := accept_of_markWrite written
          exact .inr ⟨o, stamped, rfl⟩
        · exact .inl rfl

end Coordinator

/-! ## Links -/

protected theorem Generation.lt_trans {tag : GenerationTag} {first second third : Generation tag}
    (before : first < second) (after : second < third) : first < third :=
  UInt64.lt_trans before after

namespace Link

/-- The worker has ended and nothing of it is on its way. -/
def Retired (l : Link) : Prop := l.phase = .stopped ∧ l.requests.waiting = []

/-- The generations on the way are used up, and they are of this worker. -/
structure Counted (l : Link) : Prop where
  positive : Generation.null < l.ctx.obsGen
  onTheWay : ∀ f ∈ l.requests.waiting, ∀ o, f.obsStamp = some o →
    o.worker = l.ctx.worker ∧ o.generation < l.ctx.obsGen

/-- The coordinator knows the boot of the worker, and no generation that is not used up. -/
structure Session (l : Link) (cs : CoordShared) : Prop where
  registered : cs.bootOf l.ctx.worker = some l.ctx.boot
  fresh : ∀ hi, cs.markOf l.ctx.worker = some hi → hi < l.ctx.obsGen

variable {l l' : Link} {handler handler' : Option Connection} {s : Distributed} {conn : Nat}
  {a : Action}

theorem ctx_advanced (w : WorkerCtx) (cmd : WorkerCommand) :
    (w.advanced cmd).worker = w.worker ∧ (w.advanced cmd).boot = w.boot ∧
      (w.advanced cmd).epoch = w.epoch := by
  cases cmd <;> exact ⟨rfl, rfl, rfl⟩

/-- A link that a step does not give a command to. -/
structure Carried (l l' : Link) : Prop where
  worker : l'.ctx.worker = l.ctx.worker
  boot : l'.ctx.boot = l.ctx.boot
  obsGen : l'.ctx.obsGen = l.ctx.obsGen
  waiting : l'.requests.waiting ⊆ l.requests.waiting
  stopped : l.phase = .stopped → l'.phase = .stopped

theorem Carried.hear (l : Link) (closed : Bool) : l.Carried (l.hear closed) := by
  obtain same | ⟨lines, ended⟩ | ⟨reply, registering, next, heard⟩ |
    ⟨cmd, reply, awaiting, next, heard⟩ := l.hear_cases closed
  · rw [same]
    exact ⟨rfl, rfl, rfl, List.Subset.refl _, id⟩
  · rw [ended]
    exact ⟨rfl, rfl, rfl, List.Subset.refl _, fun _ => rfl⟩
  · rw [heard]
    have phase : l.phase ≠ .stopped := by simp [registering]
    unfold register
    dsimp only
    repeat' split
    all_goals exact ⟨rfl, rfl, rfl, List.Subset.refl _, fun stopped => absurd stopped phase⟩
  · rw [heard]
    have phase : l.phase ≠ .stopped := by simp [awaiting]
    exact ⟨rfl, rfl, rfl, List.Subset.refl _, fun stopped => absurd stopped phase⟩

/-- A move gives a command or carries the link on. -/
theorem issues_or_carried (moved : s.Moves conn l a handler l' handler') :
    (∃ cmd, a = .command conn cmd ∧ l' = l.issue cmd ∧ handler' = handler) ∨ l.Carried l' := by
  have taken : ∀ reply, l.Carried
      ({ l with requests := l.requests.take : Link }.answered reply) := fun reply =>
    ⟨rfl, rfl, rfl, List.drop_subset 1 _, id⟩
  cases moved with
  | untouched => exact .inr ⟨rfl, rfl, rfl, List.Subset.refl _, id⟩
  | issues => exact .inl ⟨_, rfl, rfl, rfl⟩
  | hears => exact .inr (.hear l _)
  | ends => exact .inr ⟨rfl, rfl, rfl, List.Subset.refl _, fun _ => rfl⟩
  | greets first running type decoded => exact .inr (taken none)
  | refuses first running other => exact .inr (taken _)
  | answers first running replied => exact .inr (taken _)
  | accepts first running accepts => exact .inr (taken none)
  | finishes running ran => exact .inr ⟨rfl, rfl, rfl, List.Subset.refl _, id⟩
  | proceeds running ran => exact .inr ⟨rfl, rfl, rfl, List.Subset.refl _, id⟩
  | closes stopped drained idle => exact .inr ⟨rfl, rfl, rfl, List.Subset.refl _, id⟩

/-- A worker keeps its id and its boot. -/
theorem ctx_of_moves (moved : s.Moves conn l a handler l' handler') :
    l'.ctx.worker = l.ctx.worker ∧ l'.ctx.boot = l.ctx.boot := by
  obtain ⟨cmd, _, rfl, _⟩ | carried := issues_or_carried moved
  · obtain same | ⟨_, _, _, _, _, _, asked⟩ | ⟨_, _, _, _, idle⟩ := l.issue_cases cmd
    · rw [same]
      exact ⟨rfl, rfl⟩
    · rw [asked]
      exact ⟨(ctx_advanced l.ctx cmd).1, (ctx_advanced l.ctx cmd).2.1⟩
    · rw [idle]
      exact ⟨rfl, rfl⟩
  · exact ⟨carried.worker, carried.boot⟩

/-- A worker that has retired stays so. -/
theorem Retired.after (retired : l.Retired) (moved : s.Moves conn l a handler l' handler') :
    l'.Retired := by
  obtain ⟨stopped, drained⟩ := retired
  obtain ⟨cmd, _, rfl, _⟩ | carried := issues_or_carried moved
  · have same : l.issue cmd = l := by
      unfold issue
      rw [if_neg (by simp [stopped])]
    rw [same]
    exact ⟨stopped, drained⟩
  · refine ⟨carried.stopped stopped, ?_⟩
    have empty := carried.waiting
    rw [drained] at empty
    exact List.subset_nil.mp empty

/-- A command of a worker with nothing on its way. -/
inductive Issues (l : Link) (cmd : WorkerCommand) : Link → Prop where
  | nothing {l' : Link} (ctx : l'.ctx = l.ctx) (requests : l'.requests = l.requests) :
      Issues l cmd l'
  | sends {l' : Link} {type : MsgType} {m : Message} {f : Frame}
      (message : l.ctx.message cmd = some (type, m)) (framed : m.frame type = .ok f)
      (ctx : l'.ctx = l.ctx.advanced cmd) (waiting : l'.requests.waiting = [f]) :
      Issues l cmd l'

theorem Stage.issues (stage : l.Stage handler) (cmd : WorkerCommand) :
    l.Issues cmd (l.issue cmd) := by
  obtain same | ⟨ready, type, m, f, message, framed, asked⟩ | ⟨_, _, _, _, idle⟩ :=
    l.issue_cases cmd
  · rw [same]
    exact .nothing rfl rfl
  · rw [asked]
    refine .sends message framed rfl ?_
    rw [Fifo.waiting_put, (stage.of_ready ready).2.1]
    rfl
  · rw [idle]
    exact .nothing rfl rfl

theorem obsGen_advanced (w : WorkerCtx) (cmd : WorkerCommand) (ahead : w.obsGen < w.obsGen.next) :
    w.obsGen ≤ (w.advanced cmd).obsGen := by
  cases cmd with
  | observe mw centi | staleObserve epoch boot mw => exact UInt64.le_of_lt ahead
  | _ => exact Generation.le_refl _

theorem le_of_lt_advanced {w : WorkerCtx} {cmd : WorkerCommand} {hi : ObservationGeneration}
    (below : hi < (w.advanced cmd).obsGen) : hi ≤ w.obsGen := by
  have le_of_next : hi < w.obsGen.next → hi ≤ w.obsGen := by
    intro below
    change hi.raw.toNat < (w.obsGen.raw + 1).toNat at below
    show hi.raw.toNat ≤ w.obsGen.raw.toNat
    rw [UInt64.toNat_add] at below
    have one : (1 : UInt64).toNat = 1 := rfl
    omega
  cases cmd with
  | observe mw centi | staleObserve epoch boot mw => exact le_of_next below
  | _ => exact UInt64.le_of_lt below

theorem Counted.after (counted : l.Counted) (stage : l.Stage handler)
    (moved : s.Moves conn l a handler l' handler')
    (ahead : ∀ cmd, a = .command conn cmd → l.ctx.obsGen < l.ctx.obsGen.next) : l'.Counted := by
  obtain ⟨cmd, commanded, rfl, _⟩ | carried := issues_or_carried moved
  · cases stage.issues cmd with
    | nothing ctx requests =>
        refine ⟨by rw [ctx]; exact counted.positive, ?_⟩
        rw [ctx, requests]
        exact counted.onTheWay
    | sends message framed ctx waiting =>
        refine ⟨?_, ?_⟩
        · rw [ctx]
          exact UInt64.lt_of_lt_of_le counted.positive
            (obsGen_advanced l.ctx cmd (ahead cmd commanded))
        · intro f' waits o stamped
          rw [waiting, List.mem_singleton] at waits
          subst waits
          obtain ⟨worker, generation, advanced⟩ :=
            WorkerCtx.obsStamp_of_message message framed stamped
          rw [ctx, (ctx_advanced l.ctx cmd).1, worker, generation, advanced]
          exact ⟨rfl, ahead cmd commanded⟩
  · refine ⟨by rw [carried.obsGen]; exact counted.positive, ?_⟩
    intro f waits o stamped
    rw [carried.worker, carried.obsGen]
    exact counted.onTheWay f (carried.waiting waits) o stamped

/-- A session goes on while the coordinator hears nothing about the worker. -/
theorem Session.after {cs cs' : CoordShared} (session : l.Session cs) (stage : l.Stage handler)
    (moved : s.Moves conn l a handler l' handler')
    (ahead : ∀ cmd, a = .command conn cmd → l.ctx.obsGen < l.ctx.obsGen.next)
    (boot : cs'.bootOf l.ctx.worker = cs.bootOf l.ctx.worker)
    (mark : cs'.markOf l.ctx.worker = cs.markOf l.ctx.worker) : l'.Session cs' := by
  obtain ⟨worker, sameBoot⟩ := ctx_of_moves moved
  refine ⟨by rw [worker, sameBoot, boot]; exact session.registered, ?_⟩
  intro hi found
  rw [worker, mark] at found
  have below := session.fresh hi found
  obtain ⟨cmd, commanded, rfl, _⟩ | carried := issues_or_carried moved
  · cases stage.issues cmd with
    | nothing ctx requests =>
        rw [ctx]
        exact below
    | sends message framed ctx waiting =>
        rw [ctx]
        exact UInt64.lt_of_lt_of_le below (obsGen_advanced l.ctx cmd (ahead cmd commanded))
  · rw [carried.obsGen]
    exact below

/-- The frame of the worker itself moves its mark up to what it carries. -/
theorem Session.of_frame {cs cs' : CoordShared} (session : l.Session cs) (counted : l.Counted)
    {f : Frame} (waits : f ∈ l.requests.waiting) (reply : Option Reply)
    (boot : cs'.bootOf l.ctx.worker = cs.bootOf l.ctx.worker)
    (mark : cs'.markOf l.ctx.worker = cs.markOf l.ctx.worker ∨
      ∃ o, f.obsStamp = some o ∧ cs'.markOf l.ctx.worker = some o.generation) :
    ({ l with requests := l.requests.take : Link }.answered reply).Session cs' := by
  refine ⟨boot.trans session.registered, ?_⟩
  intro hi found
  change cs'.markOf l.ctx.worker = some hi at found
  show hi < l.ctx.obsGen
  obtain same | ⟨o, stamped, moved⟩ := mark
  · rw [same] at found
    exact session.fresh hi found
  · obtain rfl := Option.some.inj (moved.symm.trans found)
    exact (counted.onTheWay f waits o stamped).2

/-- A registration opens a session. -/
theorem Session.of_register {cs : CoordShared} (counted : l.Counted)
    (boot : cs.bootOf l.ctx.worker = some l.ctx.boot)
    (mark : cs.markOf l.ctx.worker = some .null) :
    { l with requests := l.requests.take : Link }.Session cs := by
  refine ⟨boot, ?_⟩
  intro hi found
  obtain rfl := Option.some.inj (mark.symm.trans found)
  exact counted.positive

/-- Nothing is on its way back while a request is on its way. -/
theorem Stage.replies_of_next (stage : l.Stage handler) {f : Frame}
    (first : l.requests.next = some f) : l.replies.waiting = [] := by
  cases stage with
  | greeting phase framed requests replies | asked phase asked requests replies => exact replies
  | welcoming phase requests | welcomed phase requests | idle phase requests
  | answered phase requests | closed phase requests | working phase asked worksOn requests =>
      exact absurd first (Fifo.next_ne_some_of_empty requests)

end Link

/-! ## Runs of genuine workers -/

namespace Distributed

variable {s : Distributed} {a : Action} {conn : Nat} {l l' : Link}

/-- No worker starts under the id of one that has not retired, no other peer speaks under
that id, and no worker uses up its generations. -/
structure Genuine (s : Distributed) (a : Action) : Prop where
  alone : ∀ conn worker boot node, a = .spawn conn worker boot node →
    ∀ other l, s.links other = some l → l.ctx.worker = worker → l.Retired
  apart : ∀ event, a = .outside event →
    ∀ conn l, s.links conn = some l → ¬ l.Retired → ¬ event.Names l.ctx.worker
  ahead : ∀ conn cmd, a = .command conn cmd →
    ∀ l, s.links conn = some l → l.ctx.obsGen < l.ctx.obsGen.next

/-- Workers that have not retired have ids of their own, and the coordinator keeps a
session for each that it has registered. -/
structure Attended (s : Distributed) : Prop where
  distinct : ∀ conn l other l', s.links conn = some l → s.links other = some l' →
    ¬ l.Retired → ¬ l'.Retired → l.ctx.worker = l'.ctx.worker → conn = other
  counted : ∀ conn l, s.links conn = some l → l.Counted
  session : ∀ conn l c, s.links conn = some l → s.coordinator.connections conn = some c →
    ¬ l.Retired → l.Session s.coordinator.shared

/-- An event that names a worker is a frame of its own link or comes from outside. -/
theorem delivers_of_names (inStep : s.InStep) (attended : s.Attended) {event : Event}
    (enabled : s.event a = some event) {worker : WorkerId} (names : event.Names worker) :
    (∃ here l f, a = .deliver here ∧ s.links here = some l ∧ l.requests.next = some f ∧
      l.ctx.worker = worker ∧ event = s.arrival here f) ∨ a = .outside event := by
  unfold Distributed.event at enabled
  cases a with
  | deliver here =>
      obtain ⟨f, first, enabled⟩ := Option.bind_eq_some_iff.mp enabled
      obtain ⟨l, found, first⟩ := Option.bind_eq_some_iff.mp first
      split at enabled
      case isFalse => cases enabled
      case isTrue takes =>
        obtain rfl := Option.some.inj enabled
        refine .inl ⟨here, l, f, rfl, found, first, ?_, rfl⟩
        have stage := (inStep here l found).1
        unfold arrival at names
        cases handler : s.coordinator.connections here with
        | none =>
            rw [handler] at names stage
            obtain ⟨reg, decoded, rfl⟩ := names
            cases stage with
            | greeting phase framed requests replies =>
                obtain rfl := (Fifo.next_eq_some_of_singleton requests).mp first
                obtain ⟨_, read⟩ := WorkerCtx.decodeRegister_registerFrame framed
                obtain rfl := Option.some.inj (read.symm.trans decoded)
                rfl
            | closed phase requests replies =>
                exact absurd first (Fifo.next_ne_some_of_empty requests)
        | some c =>
            rw [handler] at names
            obtain ⟨o, stamped, rfl⟩ := names
            have waits : f ∈ l.requests.waiting := List.mem_of_mem_head? first
            exact ((attended.counted here l found).onTheWay f waits o stamped).1.symm
  | proceed here =>
      obtain rfl := Option.some.inj enabled
      exact names.elim
  | hangUp here =>
      obtain ⟨l, _, enabled⟩ := Option.bind_eq_some_iff.mp enabled
      split at enabled
      case isFalse => cases enabled
      case isTrue =>
        obtain rfl := Option.some.inj enabled
        exact names.elim
  | outside event' =>
      dsimp only at enabled
      split at enabled
      case isTrue => cases enabled
      case isFalse =>
        obtain rfl := Option.some.inj enabled
        exact .inr rfl
  | spawn here worker boot node => cases enabled
  | command here cmd => cases enabled
  | hear here => cases enabled
  | kill here => cases enabled

/-- A frame is delivered in its turn. -/
theorem next_of_deliver (found : s.links conn = some l) {event : Event}
    (enabled : s.event (.deliver conn) = some event) :
    ∃ f, l.requests.next = some f ∧ event = s.arrival conn f := by
  unfold Distributed.event at enabled
  obtain ⟨f, first, enabled⟩ := Option.bind_eq_some_iff.mp enabled
  rw [found] at first
  split at enabled
  case isFalse => cases enabled
  case isTrue => exact ⟨f, first, (Option.some.inj enabled).symm⟩

/-- The link whose frame is delivered. -/
theorem links_of_deliver (found : s.links conn = some l) {event : Event}
    (enabled : s.event (.deliver conn) = some event) :
    (s.after (.deliver conn)).links conn = some
      ({ l with requests := l.requests.take : Link }.answered
        (s.coordinator.repliesTo event conn)) := by
  show s.linkAfter _ conn = _
  unfold linkAfter reply touch
  rw [found, enabled]
  dsimp only
  rw [if_pos ⟨rfl, rfl⟩]
  rfl

theorem counted_start {w : WorkerCtx} {worker : WorkerId} {boot : WorkerBootId} {node : NodeId}
    {f : Frame} (fresh : w = .fresh worker boot node) (framed : w.registerFrame = .ok f) :
    (Link.start w f).Counted := by
  subst fresh
  refine ⟨show (0 : UInt64) < 1 by decide, ?_⟩
  intro f' waits o stamped
  obtain rfl := List.mem_singleton.mp waits
  have type := (WorkerCtx.decodeRegister_registerFrame framed).1
  unfold Frame.obsStamp at stamped
  rw [type] at stamped
  cases stamped

theorem session_after (genuine : s.Genuine a) (inStep : s.InStep) (attended : s.Attended)
    (found : s.links conn = some l) (found' : (s.after a).links conn = some l')
    {c : Connection} (connected : (s.after a).coordinator.connections conn = some c)
    (live : ¬ l'.Retired) : l'.Session (s.after a).coordinator.shared := by
  obtain ⟨l'', here, moved⟩ := moves found a
  obtain rfl := Option.some.inj (here.symm.trans found')
  have stage := (inStep conn l found).1
  have liveBefore : ¬ l.Retired := fun retired => live (retired.after moved)
  have ahead : ∀ cmd, a = .command conn cmd → l.ctx.obsGen < l.ctx.obsGen.next :=
    fun cmd commanded => genuine.ahead conn cmd commanded l found
  cases enabled : s.event a with
  | none =>
      have frozen : (s.after a).coordinator = s.coordinator := coordinator_after none enabled
      rw [frozen] at connected ⊢
      have session := attended.session conn l c found connected liveBefore
      exact session.after stage moved ahead rfl rfl
  | some event =>
      have stepped : (s.after a).coordinator = s.coordinator.after event :=
        coordinator_after (some event) enabled
      cases handler : s.coordinator.connections conn with
      | none =>
          rw [handler, connected] at moved
          rw [handler] at stage
          cases moved with
          | @greets f reg first running type decoded =>
              have arrives : event = .connect conn f := by
                obtain ⟨f', first', rfl⟩ := next_of_deliver found enabled
                obtain rfl := Option.some.inj (first.symm.trans first')
                unfold arrival
                rw [handler]
              cases stage with
              | greeting phase framed requests replies =>
                  obtain rfl := (Fifo.next_eq_some_of_singleton requests).mp first
                  obtain ⟨_, read⟩ := WorkerCtx.decodeRegister_registerFrame framed
                  obtain rfl := Option.some.inj (read.symm.trans decoded)
                  obtain ⟨boot, mark⟩ := Coordinator.known_of_register running handler type decoded
                  rw [stepped, arrives]
                  exact .of_register (attended.counted conn l found) boot mark
              | closed phase requests replies =>
                  exact absurd first (Fifo.next_ne_some_of_empty requests)
      | some c₀ =>
          have session := attended.session conn l c₀ found handler liveBefore
          by_cases names : event.Names l.ctx.worker
          · rw [stepped]
            obtain ⟨there, lt, f, rfl, foundThere, first, sameWorker, rfl⟩ | rfl :=
              delivers_of_names inStep attended enabled names
            · have busy : ¬ lt.Retired := fun retired =>
                Fifo.next_ne_some_of_empty retired.2 first
              obtain rfl := attended.distinct conn l there lt found foundThere liveBefore busy
                sameWorker.symm
              obtain rfl := Option.some.inj (found.symm.trans foundThere)
              obtain rfl := Option.some.inj (found'.symm.trans (links_of_deliver found enabled))
              have arrives : s.arrival conn f = .frame conn f := by
                unfold arrival
                rw [handler]
              rw [arrives]
              obtain ⟨boot, mark⟩ := s.coordinator.known_of_frame conn f l.ctx.worker
              exact session.of_frame (attended.counted conn l found) (List.mem_of_mem_head? first) _
                boot mark
            · exact absurd names (genuine.apart event rfl conn l found liveBefore)
          · obtain ⟨boot, mark⟩ := Coordinator.known_of_unnamed (s := s.coordinator) names
            rw [stepped]
            exact session.after stage moved ahead boot mark

theorem attended_after (genuine : s.Genuine a) (inStep : s.InStep) (attended : s.Attended) :
    (s.after a).Attended := by
  -- A link is one that moved on or that has just started.
  have origin : ∀ conn l', (s.after a).links conn = some l' →
      (∃ l, s.links conn = some l ∧
        s.Moves conn l a (s.coordinator.connections conn) l'
          ((s.after a).coordinator.connections conn)) ∨
      ∃ worker boot node f, a = .spawn conn worker boot node ∧
        (WorkerCtx.fresh worker boot node).registerFrame = .ok f ∧
        l' = .start (.fresh worker boot node) f ∧
        (s.after a).coordinator.connections conn = none := by
    intro conn l' found'
    cases found : s.links conn with
    | none =>
        obtain ⟨worker, boot, node, f, spawns, free, framed, fresh, frozen⟩ :=
          spawned_of_after found found'
        exact .inr ⟨worker, boot, node, f, spawns, framed, fresh, by rw [frozen]; exact free⟩
    | some l =>
        obtain ⟨l'', here, moved⟩ := moves found a
        obtain rfl := Option.some.inj (here.symm.trans found')
        exact .inl ⟨l, rfl, moved⟩
  refine ⟨?_, ?_, ?_⟩
  · intro conn l' other m' foundL foundM liveL liveM same
    obtain ⟨l, before, movedL⟩ | ⟨worker, boot, node, f, spawnsL, _, rfl, _⟩ :=
      origin conn l' foundL
    · obtain ⟨m, beforeM, movedM⟩ | ⟨worker, boot, node, f, spawnsM, _, rfl, _⟩ :=
        origin other m' foundM
      · have liveBeforeL : ¬ l.Retired := fun retired => liveL (retired.after movedL)
        have liveBeforeM : ¬ m.Retired := fun retired => liveM (retired.after movedM)
        rw [(Link.ctx_of_moves movedL).1, (Link.ctx_of_moves movedM).1] at same
        exact attended.distinct conn l other m before beforeM liveBeforeL liveBeforeM same
      · rw [(Link.ctx_of_moves movedL).1] at same
        have retired := genuine.alone other worker boot node spawnsM conn l before same
        exact absurd (retired.after movedL) liveL
    · obtain ⟨m, beforeM, movedM⟩ | ⟨_, _, _, _, spawnsM, _, _, _⟩ := origin other m' foundM
      · rw [(Link.ctx_of_moves movedM).1] at same
        have retired := genuine.alone conn worker boot node spawnsL other m beforeM same.symm
        exact absurd (retired.after movedM) liveM
      · rw [spawnsL] at spawnsM
        cases spawnsM
        rfl
  · intro conn l' found'
    obtain ⟨l, found, moved⟩ | ⟨worker, boot, node, f, _, framed, rfl, _⟩ := origin conn l' found'
    · exact (attended.counted conn l found).after (inStep conn l found).1 moved
        fun cmd commanded => genuine.ahead conn cmd commanded l found
    · exact counted_start rfl framed
  · intro conn l' c found' connected live
    obtain ⟨l, found, _⟩ | ⟨_, _, _, _, _, _, _, free⟩ := origin conn l' found'
    · exact session_after genuine inStep attended found found' connected live
    · rw [free] at connected
      cases connected

theorem attended_of_reachable (reached : (runs Genuine).Reachable s) : s.Attended := by
  have both : s.InStep ∧ s.Attended := by
    refine reached.invariant (fun s => s.InStep ∧ s.Attended) ?_ ?_
    · rintro s rfl
      refine ⟨@inStep_of_reachable _ (fun _ _ => True) (.start rfl), ?_, ?_, ?_⟩
      · intro conn l other l' found
        cases found
      · intro conn l found
        cases found
      · intro conn l c found
        cases found
    · rintro s a s' ⟨inStep, attended⟩ ⟨genuine, rfl⟩
      exact ⟨inStep_after inStep a, attended_after genuine inStep attended⟩
  exact both.2

/-- A worker that waits for an answer, with its request still on the way. -/
theorem asked_of_awaiting (inStep : s.InStep) (found : s.links conn = some l)
    {cmd : WorkerCommand} (awaiting : l.phase = .awaiting cmd) {f : Frame}
    (first : l.requests.next = some f) :
    s.coordinator.connections conn = some ⟨l.ctx.registerMsg, none⟩ ∧ l.Asked cmd f := by
  have stage := (inStep conn l found).1
  generalize s.coordinator.connections conn = handler at stage ⊢
  cases stage with
  | asked phase asked requests replies =>
      obtain rfl := (Fifo.next_eq_some_of_singleton requests).mp first
      rw [awaiting] at phase
      rcases phase with phase | phase
      · cases phase
        exact ⟨rfl, asked⟩
      · cases phase
  | greeting phase =>
      rw [awaiting] at phase
      rcases phase with phase | phase <;> cases phase
  | welcoming phase requests | welcomed phase requests | idle phase requests
  | answered phase requests | closed phase requests | working phase asked worksOn requests =>
      exact absurd first (Fifo.next_ne_some_of_empty requests)

/-- Workers are not fenced off by accident. In every run of genuine workers, the handler
works on an own command of a worker whenever the epoch is still the one of the worker,
and otherwise answers that the epoch is stale and leaves the shared state alone. -/
theorem own_command_fenced (reached : (runs Genuine).Reachable s)
    (found : s.links conn = some l) {cmd : WorkerCommand} (awaiting : l.phase = .awaiting cmd)
    (own : cmd.own = true) {f : Frame} (first : l.requests.next = some f)
    (running : s.coordinator.running = true) :
    if l.ctx.epoch = s.coordinator.shared.epoch then
      ∃ work, f.WorksOn work ∧
        (s.after (.deliver conn)).coordinator.connections conn =
          some ⟨l.ctx.registerMsg, some work⟩
    else
      (s.after (.deliver conn)).coordinator.shared = s.coordinator.shared ∧
        ∃ l' id, (s.after (.deliver conn)).links conn = some l' ∧
          l'.replies.waiting = [sendError id "STALE_EPOCH"] := by
  have attended := attended_of_reachable reached
  have inStep := inStep_of_reachable reached
  obtain ⟨handler, w, type, m, ctx, message, framed⟩ :=
    asked_of_awaiting inStep found awaiting first
  have idle : s.coordinator.Idle conn := ⟨running, _, handler⟩
  have arrives : s.arrival conn f = .frame conn f := by
    unfold arrival
    rw [handler]
  have enabled : s.event (.deliver conn) = some (.frame conn f) := by
    unfold Distributed.event
    dsimp only
    rw [found, Option.bind_some, first, Option.bind_some, arrives,
      if_pos (Coordinator.takesUp_frame idle f)]
  have stepped : (s.after (.deliver conn)).coordinator = s.coordinator.after (.frame conn f) :=
    coordinator_after (some _) enabled
  obtain ⟨worker, boot, epoch⟩ := Link.ctx_advanced w cmd
  rw [stepped]
  have taken : s.coordinator.after (.frame conn f) =
      { s.coordinator with shared := (s.coordinator.shared.receive f).2 }.setConnection conn
        (some ⟨l.ctx.registerMsg, (s.coordinator.shared.receive f).1.next⟩) := by
    unfold Coordinator.after Coordinator.take
    rw [if_pos running]
    dsimp only
    rw [handler]
  split
  case isTrue same =>
    have session := attended.session conn l _ found handler fun retired =>
      Fifo.next_ne_some_of_empty retired.2 first
    have registered := session.registered
    have fresh := session.fresh
    rw [ctx, worker] at registered fresh
    rw [boot] at registered
    rw [ctx, epoch] at same
    obtain ⟨work, accepts⟩ := WorkerCtx.accepts_of_session own message framed same registered
      fun hi mark => Link.le_of_lt_advanced (fresh hi mark)
    refine ⟨work, .accepted accepts, ?_⟩
    rw [taken, CoordShared.receive_eq_pending.mpr accepts]
    exact Coordinator.connections_setConnection ..
  case isFalse other =>
    rw [ctx, epoch] at other
    obtain ⟨id, refused⟩ := WorkerCtx.receive_of_other_epoch own message framed other
    refine ⟨?_, _, id, links_of_deliver found enabled, ?_⟩
    · rw [taken, refused]
      rfl
    · have sent : s.coordinator.repliesTo (.frame conn f) conn =
          some (sendError id "STALE_EPOCH") := by
        unfold Coordinator.repliesTo
        rw [Coordinator.sends_frame_iff.mpr ⟨idle, rfl, congrArg Prod.fst refused⟩]
        exact if_pos rfl
      rw [sent]
      refine Link.waiting_answered ?_ _
      exact (inStep conn l found).1.replies_of_next first

/-- Worker 1 joins and asks for power. -/
def asking : List Action := joining ++ [.command 1 (.reserve 1 5)]

theorem genuine_of_quiet (spawns : ∀ conn worker boot node, a ≠ .spawn conn worker boot node)
    (outside : ∀ event, a ≠ .outside event) (commands : ∀ conn cmd, a ≠ .command conn cmd) :
    s.Genuine a where
  alone := fun conn worker boot node is => absurd is (spawns conn worker boot node)
  apart := fun event is => absurd is (outside event)
  ahead := fun conn cmd is => absurd is (commands conn cmd)

theorem along_asking : Along after Genuine start asking := by
  refine ⟨⟨?_, by simp, by simp⟩, genuine_of_quiet (by simp) (by simp) (by simp),
    genuine_of_quiet (by simp) (by simp) (by simp),
    genuine_of_quiet (by simp) (by simp) (by simp), ⟨by simp, by simp, ?_⟩, trivial⟩
  · intro conn worker boot node _ other l found
    cases found
  · rintro conn cmd is l found
    cases is
    have counted : ((run joining).links 1).map (fun l => l.ctx.obsGen) = some .first := by
      decide +kernel
    change (run joining).links 1 = some l at found
    rw [found] at counted
    have generation : l.ctx.obsGen = .first := Option.some.inj counted
    rw [generation]
    decide

theorem asking_reachable : (runs Genuine).Reachable (run asking) :=
  TransitionSystem.Reachable.foldl (.start rfl) along_asking

theorem own_command_fenced_asking : ∃ l f, (run asking).links 1 = some l ∧
    l.requests.next = some f ∧
    if l.ctx.epoch = (run asking).coordinator.shared.epoch then
      ∃ work, f.WorksOn work ∧
        ((run asking).after (.deliver 1)).coordinator.connections 1 =
          some ⟨l.ctx.registerMsg, some work⟩
    else
      ((run asking).after (.deliver 1)).coordinator.shared = (run asking).coordinator.shared ∧
        ∃ l' id, ((run asking).after (.deliver 1)).links 1 = some l' ∧
          l'.replies.waiting = [sendError id "STALE_EPOCH"] := by
  have asked : ((run asking).links 1).map (fun l => (l.phase, l.requests.next.isSome)) =
      some (.awaiting (.reserve 1 5), true) := by decide +kernel
  obtain ⟨l, found, facts⟩ := Option.map_eq_some_iff.mp asked
  obtain ⟨phase, waits⟩ := Prod.mk.inj facts
  obtain ⟨f, first⟩ := Option.isSome_iff_exists.mp waits
  have running : (run asking).coordinator.running = true := by decide +kernel
  exact ⟨l, f, found, first,
    own_command_fenced asking_reachable found phase rfl first running⟩

end Distributed

end PowerGovernor
