import PowerGovernor.Coordinator.Survival
import PowerGovernor.Distributed.Progress

/-!
The service to workers.

Owns the commands a worker can give without harm, what they have the coordinator work
on, and the theorem that a system of such workers stays up and answers every one of them.
-/

set_option autoImplicit false

namespace PowerGovernor

/-- The time of every message of a worker. -/
def WorkerCtx.tick : Timestamp := .ofInt64 1000000

theorem WorkerCtx.regular_tick : WorkerCtx.tick.Regular := ⟨by decide, by decide⟩

/-- Amounts and readings are in range, and a reservation is known to the Governor. -/
def WorkerCommand.Sensible (g : Governor) : WorkerCommand → Prop
  | .observe mw centi => 0 ≤ mw.toInt ∧ -27315 ≤ centi.toInt
  | .reserve _ mw | .decision _ mw | .staleObserve _ _ mw | .staleReserve _ _ _ mw => 0 ≤ mw.toInt
  | .activate reservation _ _ | .release reservation _ _ | .staleRelease _ _ reservation _ _ =>
    ∃ r, g.reservations.find? ⟨reservation⟩ = some r
  | .quit | .badArgs _ | .unknown => True

/-- The message a section works on. -/
def Pending.message : Pending → Option Message
  | .welcome _ => none
  | .observe po => some (.powerObs po)
  | .plan rr | .reserve rr _ | .decide rr => some (.reserve rr)
  | .act _ ba => some (.budgetAction ba)

/-- Its time, if the Governor keeps it, is that of the messages of workers. -/
def Pending.Ticks (work : Pending) : Prop := work.Dated fun t => t = WorkerCtx.tick

namespace WorkerCtx

variable {w : WorkerCtx} {cmd : WorkerCommand} {type : MsgType} {m : Message} {f : Frame}
  {cs : CoordShared} {work : Pending}

/-- The coordinator works on the message that was sent. -/
theorem message_of_accepts (sends : w.message cmd = some (type, m))
    (framed : m.frame type = .ok f) (accepts : cs.Accepts f work) : work.message = some m := by
  obtain ⟨sameType, decoded⟩ := decode_of_message sends framed
  -- The type of the frame says which decoder reads it.
  have read : ∀ m', m.kind.decode f = some m' → some m' = some m := fun m' here =>
    here.symm.trans decoded
  cases accepts with
  | observe is here passed =>
      rw [sameType] at is
      cases cmd <;> cases sends <;> cases is <;>
        exact read _ (Option.map_eq_some_iff.mpr ⟨_, here, rfl⟩)
  | plan is here passed | decide is here passed =>
      rw [sameType] at is
      cases cmd <;> cases sends <;> cases is <;>
        exact read _ (Option.map_eq_some_iff.mpr ⟨_, here, rfl⟩)
  | @act action ba is here passed =>
      rw [sameType] at is
      cases action <;> cases cmd <;> cases sends <;> cases is <;>
        exact read _ (Option.map_eq_some_iff.mpr ⟨_, here, rfl⟩)

/-- The work on a sensible command is sane. -/
theorem sane_of_accepts {g : Governor} (sensible : cmd.Sensible g)
    (sends : w.message cmd = some (type, m)) (framed : m.frame type = .ok f)
    (accepts : cs.Accepts f work) : work.Sane g ∧ work.Ticks := by
  have message := message_of_accepts sends framed accepts
  have amount : ∀ mw : Int32, 0 ≤ mw.toInt → 0 ≤ mw.toInt64.toInt := fun mw positive => by
    rw [Int32.toInt_toInt64]
    exact positive
  have observed : ∀ po : PowerObsMsg, work.message = some (.powerObs po) → po.Physical →
      Timestamp.ofInt64 po.timestampNs = tick → work.Sane g ∧ work.Ticks := by
    intro po here physical time
    cases work with
    | observe po' =>
        cases here
        exact ⟨⟨physical, by rw [time]; exact regular_tick⟩, time⟩
    | welcome | plan | reserve | act | decide => cases here
  have reserved : ∀ rr : ReserveMsg, work.message = some (.reserve rr) → rr.Physical →
      ((∀ dr, work ≠ .decide dr) → Timestamp.ofInt64 rr.timestampNs = tick) →
      work.Sane g ∧ work.Ticks := by
    intro rr here physical time
    cases work with
    | plan rr' =>
        cases here
        have ticks := time (by simp)
        exact ⟨⟨physical, by rw [ticks]; exact regular_tick⟩, ticks⟩
    | reserve rr' planned =>
        cases here
        have ticks : Timestamp.ofInt64 rr.timestampNs = tick := time (by simp)
        refine ⟨?_, trivial⟩
        show (Timestamp.ofInt64 rr.timestampNs).Regular
        rw [ticks]
        exact regular_tick
    | decide dr =>
        cases here
        exact ⟨physical.power, trivial⟩
    | welcome | observe | act => cases here
  have acted : ∀ ba : BudgetActionMsg, work.message = some (.budgetAction ba) →
      (∃ r, g.reservations.find? ba.reservation = some r) → work.Sane g ∧ work.Ticks := by
    intro ba here known
    cases work with
    | act action ba' =>
        cases here
        exact ⟨known, trivial⟩
    | welcome | observe | plan | reserve | decide => cases here
  have zero : 0 ≤ (0 : Int64).toInt := by decide
  have brief : 0 ≤ (0 : Int64).toInt ∧ (0 : Int64).toInt ≤ kMaxNs := by decide
  have valid : 0 ≤ (5000000000 : Int64).toInt ∧ (5000000000 : Int64).toInt ≤ kMaxNs := by decide
  have half : (5000 : UInt16).toNat ≤ 10000 := by decide
  have warm : -27315 ≤ (3700 : Int32).toInt := by decide
  cases cmd with
  | observe mw centi =>
      cases sends
      exact observed _ message ⟨fun _ => amount mw sensible.1, fun _ => sensible.2, fun _ => half⟩
        rfl
  | staleObserve epoch boot mw =>
      cases sends
      exact observed _ message ⟨fun _ => amount mw sensible, fun _ => warm,
        fun absent => by cases absent⟩ rfl
  | reserve budget mw | staleReserve epoch boot budget mw =>
      cases sends
      exact reserved _ message ⟨amount mw sensible, zero, valid⟩ fun _ => rfl
  | decision budget mw =>
      cases sends
      refine reserved _ message ⟨amount mw sensible, zero, brief⟩ fun other => ?_
      have sameType := (Message.frame_eq_ok.mp framed).1
      cases accepts with
      | decide is here passed => exact absurd rfl (other _)
      | observe is => cases sameType.symm.trans is
      | plan is => cases sameType.symm.trans is
      | @act action ba is => cases action <;> cases sameType.symm.trans is
  | activate reservation budget mw | release reservation budget mw
  | staleRelease epoch boot reservation budget mw =>
      cases sends
      exact acted _ message sensible
  | quit | badArgs name | unknown => cases sends

end WorkerCtx

namespace Distributed

variable {s : Distributed} {a : Action} {conn : Nat} {l : Link}

/-- There are no other peers than workers, a worker gives sensible commands, and no
command of the control loop has a negative amount. -/
structure Sensible (s : Distributed) (a : Action) : Prop where
  commands : ∀ conn cmd, a = .command conn cmd → cmd.Sensible s.coordinator.shared.gov
  outside : ∀ event, a = .outside event → event.conn? = none ∧ s.coordinator.Gentle event

/-- The frame gives the coordinator nothing to do but what is sane and in time. -/
def Harmless (s : Distributed) (f : Frame) : Prop :=
  ∀ cs work, CoordShared.Accepts cs f work → work.Sane s.coordinator.shared.gov ∧ work.Ticks

/-- The coordinator is sound, all its times are those of workers, and nothing harmful is
on its way. -/
structure Orderly (s : Distributed) : Prop where
  inStep : s.InStep
  sound : s.coordinator.Sound
  dated : s.coordinator.shared.gov.Dated fun t => t = WorkerCtx.tick
  ticks : ∀ conn c work, s.coordinator.connections conn = some c → c.work = some work → work.Ticks
  onTheWay : ∀ conn l f, s.links conn = some l → f ∈ l.requests.waiting → s.Harmless f

theorem orderly_start : start.Orderly where
  inStep := @inStep_of_reachable _ (fun _ _ => True) (.start rfl)
  sound := Coordinator.sound_start
  dated := by
    refine ⟨fun id r found => ?_, fun sample member => ?_, .inl rfl⟩
    · cases found
    · exact absurd member List.not_mem_nil
  ticks := by
    intro conn c work found
    cases found
  onTheWay := by
    intro conn l f found
    cases found

/-- The frame of an event comes from the link. -/
theorem frame_of_event (sensible : s.Sensible a) {here : Nat} {m : Frame}
    (enabled : s.event a = some (.frame here m)) :
    ∃ l, s.links here = some l ∧ m ∈ l.requests.waiting := by
  cases a with
  | deliver there =>
      have arrives := enabled
      unfold Distributed.event at enabled
      obtain ⟨f, first, _⟩ := Option.bind_eq_some_iff.mp enabled
      obtain ⟨l, found, first⟩ := Option.bind_eq_some_iff.mp first
      obtain ⟨f', first', is⟩ := next_of_deliver found arrives
      unfold arrival at is
      split at is
      · cases is
      · cases is
        exact ⟨l, found, List.mem_of_mem_head? first'⟩
  | outside event =>
      unfold Distributed.event at enabled
      dsimp only at enabled
      split at enabled
      case isTrue => cases enabled
      case isFalse =>
        obtain rfl := Option.some.inj enabled
        cases (sensible.outside _ rfl).1
  | hangUp there =>
      unfold Distributed.event at enabled
      obtain ⟨l, _, enabled⟩ := Option.bind_eq_some_iff.mp enabled
      split at enabled <;> cases enabled
  | proceed there => cases enabled
  | spawn there worker boot node => cases enabled
  | command there cmd => cases enabled
  | hear there => cases enabled
  | kill there => cases enabled

/-- Every event in an orderly system is gentle. -/
theorem gentle_of_orderly (orderly : s.Orderly) (sensible : s.Sensible a) {event : Event}
    (enabled : s.event a = some event) : s.coordinator.Gentle event := by
  cases event with
  | frame here m =>
      intro work accepts
      obtain ⟨l, found, waits⟩ := frame_of_event sensible enabled
      exact (orderly.onTheWay here l m found waits _ work accepts).1
  | proceed here =>
      intro c po found busy _ back last
      have time := orderly.dated.samples back (List.mem_of_getLast? last)
      have ticks : Timestamp.ofInt64 po.timestampNs = WorkerCtx.tick :=
        orderly.ticks here c _ found busy
      rw [time, ticks]
  | installBudget id parent hmax soft | setPolicy cap =>
      exact (sensible.outside _ (outside_of_control enabled rfl)).2
  | connect | disconnect | rollEpoch => trivial

/-- What is sane stays so in a step. -/
theorem sane_after {work : Pending} (sane : work.Sane s.coordinator.shared.gov) (a : Action) :
    work.Sane (s.after a).coordinator.shared.gov := by
  cases enabled : s.event a with
  | none =>
      rw [coordinator_after none enabled]
      exact sane
  | some event =>
      rw [coordinator_after (some event) enabled]
      exact Coordinator.sane_after sane event

theorem Harmless.after {f : Frame} (harmless : s.Harmless f) (a : Action) :
    (s.after a).Harmless f := by
  intro cs work accepts
  obtain ⟨sane, ticks⟩ := harmless cs work accepts
  exact ⟨sane_after sane a, ticks⟩

/-- A registration gives nothing to do behind the fence. -/
theorem harmless_of_register {f : Frame} (type : f.type = .register) : s.Harmless f := by
  intro cs work accepts
  cases accepts with
  | observe is | plan is | decide is => cases type.symm.trans is
  | @act action ba is => cases action <;> cases type.symm.trans is

/-- The steps of an orderly coordinator. -/
theorem coordinator_orderly_after (orderly : s.Orderly) (sensible : s.Sensible a) :
    (s.after a).coordinator.Sound ∧
      ((s.after a).coordinator.shared.gov.Dated fun t => t = WorkerCtx.tick) ∧
      ∀ conn c work, (s.after a).coordinator.connections conn = some c → c.work = some work →
        work.Ticks := by
  cases enabled : s.event a with
  | none =>
      rw [coordinator_after none enabled]
      exact ⟨orderly.sound, orderly.dated, orderly.ticks⟩
  | some event =>
      have gentle := gentle_of_orderly orderly sensible enabled
      rw [coordinator_after (some event) enabled]
      refine ⟨Coordinator.sound_after orderly.sound gentle, ?_, ?_⟩
      · refine Coordinator.dated_after orderly.dated fun work working => ?_
        obtain ⟨_, conn, reg, _, busy⟩ := Coordinator.works_eq_some working
        exact orderly.ticks conn _ work busy rfl
      · intro conn c work found busy
        cases Coordinator.arises_of_after found busy with
        | same before busy => exact orderly.ticks conn _ work before busy
        | welcome decoded greets =>
            subst greets
            trivial
        | accepted before accepts =>
            obtain ⟨l, there, waits⟩ := frame_of_event sensible enabled
            exact (orderly.onTheWay conn l _ there waits _ work accepts).2
        | planned before reserves =>
            subst reserves
            trivial

theorem orderly_after (orderly : s.Orderly) (sensible : s.Sensible a) : (s.after a).Orderly := by
  obtain ⟨sound, dated, ticks⟩ := coordinator_orderly_after orderly sensible
  refine ⟨inStep_after orderly.inStep a, sound, dated, ticks, ?_⟩
  intro conn l' f found' waits
  cases found : s.links conn with
  | none =>
      obtain ⟨worker, boot, node, f', rfl, _, framed, rfl, _⟩ := spawned_of_after found found'
      obtain rfl := List.mem_singleton.mp waits
      exact harmless_of_register (WorkerCtx.decodeRegister_registerFrame framed).1
  | some l =>
      obtain ⟨l'', here, moved⟩ := moves found a
      obtain rfl := Option.some.inj (here.symm.trans found')
      obtain ⟨cmd, rfl, rfl, _⟩ | carried := Link.issues_or_carried moved
      · cases (orderly.inStep conn l found).1.issues cmd with
        | nothing ctx requests =>
            rw [requests] at waits
            exact (orderly.onTheWay conn l f found waits).after _
        | sends message framed ctx waiting =>
            rw [waiting, List.mem_singleton] at waits
            subst waits
            have harmless : s.Harmless f := fun cs work accepts =>
              WorkerCtx.sane_of_accepts (sensible.commands conn cmd rfl) message framed accepts
            exact harmless.after _
      · exact (orderly.onTheWay conn l f found (carried.waiting waits)).after a

theorem orderly_of_reachable (reached : (runs Sensible).Reachable s) : s.Orderly := by
  refine reached.invariant Orderly ?_ ?_
  · rintro s rfl
    exact orderly_start
  · rintro s a s' orderly ⟨sensible, rfl⟩
    exact orderly_after orderly sensible

/-- A system of sensible workers stays up. In every run, with any number of workers that
start, register, ask and end in any order, the coordinator process goes on. -/
theorem coordinator_stays_up (reached : (runs Sensible).Reachable s) :
    s.coordinator.running = true := (orderly_of_reachable reached).sound.running

theorem sensible_of_quiet (outside : ∀ event, a ≠ .outside event)
    (commands : ∀ conn cmd, a ≠ .command conn cmd) : s.Sensible a where
  commands := fun conn cmd is => absurd is (commands conn cmd)
  outside := fun event is => absurd is (outside event)

theorem sensible_of_command {cmd : WorkerCommand}
    (sensible : cmd.Sensible s.coordinator.shared.gov) : s.Sensible (.command conn cmd) where
  commands := by
    rintro conn cmd ⟨⟩
    exact sensible
  outside := fun event is => by cases is

theorem along_serving : Along after Sensible start serving := by
  have quiet : ∀ (s : Distributed) (a : Action), (∀ event, a ≠ .outside event) →
      (∀ conn cmd, a ≠ .command conn cmd) → s.Sensible a := fun _ _ => sensible_of_quiet
  refine ⟨⟨by simp, ?_⟩, quiet _ _ (by simp) (by simp), quiet _ _ (by simp) (by simp),
    quiet _ _ (by simp) (by simp), quiet _ _ (by simp) (by simp),
    sensible_of_command ⟨by decide, by decide⟩, quiet _ _ (by simp) (by simp),
    quiet _ _ (by simp) (by simp), quiet _ _ (by simp) (by simp),
    sensible_of_command (show 0 ≤ (5 : Int32).toInt by decide), quiet _ _ (by simp) (by simp),
    quiet _ _ (by simp) (by simp), quiet _ _ (by simp) (by simp), quiet _ _ (by simp) (by simp),
    sensible_of_command (Option.isSome_iff_exists.mp (by decide +kernel)),
    quiet _ _ (by simp) (by simp), quiet _ _ (by simp) (by simp), quiet _ _ (by simp) (by simp),
    trivial⟩
  rintro event ⟨⟩
  exact ⟨rfl, by norm_num, by norm_num⟩

theorem serving_reachable : (runs Sensible).Reachable (run serving) :=
  TransitionSystem.Reachable.foldl (.start rfl) along_serving

theorem coordinator_stays_up_serving : (run serving).coordinator.running = true :=
  coordinator_stays_up serving_reachable

/-- Every sensible worker is served: the steps of its connection bring it its answer. -/
theorem sensible_worker_answered (reached : (runs Sensible).Reachable s)
    (found : s.links conn = some l) (waits : l.Waits) {actions : List Action}
    (sensible : Along after Sensible s actions)
    (due : [.deliver conn, .proceed conn, .proceed conn, .hear conn].Sublist actions)
    (alive : .kill conn ∉ actions) :
    ∃ l', (actions.foldl after s).links conn = some l' ∧
      l.replies.received.length < l'.replies.received.length := by
  have running := (orderly_of_reachable (reached.foldl sensible)).sound.running
  exact served_of_duties (inStep_of_reachable reached) found waits (l.remaining_le _)
    (show (duties conn 4).Sublist actions from due) alive running

theorem sensible_worker_answered_asking : ∃ l l', (run asking).links 1 = some l ∧
    (answering.foldl after (run asking)).links 1 = some l' ∧
    l.replies.received.length < l'.replies.received.length := by
  have asked : ((run asking).links 1).map Link.phase = some (.awaiting (.reserve 1 5)) := by
    decide +kernel
  obtain ⟨l, found, phase⟩ := Option.map_eq_some_iff.mp asked
  have quiet : ∀ (s : Distributed) (a : Action), (∀ event, a ≠ .outside event) →
      (∀ conn cmd, a ≠ .command conn cmd) → s.Sensible a := fun _ _ => sensible_of_quiet
  have along : Along after Sensible start asking :=
    ⟨quiet _ _ (by simp) (by simp), quiet _ _ (by simp) (by simp), quiet _ _ (by simp) (by simp),
      quiet _ _ (by simp) (by simp),
      sensible_of_command (show 0 ≤ (5 : Int32).toInt by decide), trivial⟩
  have reached : (runs Sensible).Reachable (run asking) :=
    TransitionSystem.Reachable.foldl (.start rfl) along
  have sensible : Along after Sensible (run asking) answering := by
    refine ⟨quiet _ _ (by simp) (by simp), ⟨by simp, ?_⟩, quiet _ _ (by simp) (by simp),
      quiet _ _ (by simp) (by simp), quiet _ _ (by simp) (by simp), quiet _ _ (by simp) (by simp),
      trivial⟩
    rintro event ⟨⟩
    exact ⟨rfl, by norm_num, by norm_num⟩
  have due : [.deliver 1, .proceed 1, .proceed 1, .hear 1].Sublist answering :=
    .cons_cons _ (.cons _ (.cons_cons _ (.cons _ (.cons_cons _ (.cons_cons _ .slnil)))))
  obtain ⟨l', found', heard⟩ := sensible_worker_answered reached found
    (Link.waits_of_phase phase) sensible due (by simp [answering])
  exact ⟨l, l', found, found', heard⟩

end Distributed

end PowerGovernor
