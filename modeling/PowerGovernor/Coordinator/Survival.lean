import PowerGovernor.Coordinator.Isolation
import PowerGovernor.Coordinator.TimeLimits
import PowerGovernor.Coordinator.Turns

/-!
Coordinators that do not end.

Owns the times that a Governor keeps and which calls keep them in a range, the messages
that harm no coordinator, and the theorem that a coordinator goes on as long as it gets
no other ones.
-/

set_option autoImplicit false

namespace PowerGovernor

/-! ## Times -/

/-- The times of the reservations, of the samples and of the last observation. -/
structure Governor.Dated (P : Timestamp → Prop) (g : Governor) : Prop where
  created : ∀ id r, g.reservations.find? id = some r → P r.created
  samples : ∀ sample ∈ g.live.powerWindow.samples, P sample.t
  observed : g.live.lastObserved.isZero = true ∨ P g.live.lastObserved

/-- The time of the message, if the Governor keeps it. -/
def Pending.Dated (P : Timestamp → Prop) : Pending → Prop
  | .observe po => P (.ofInt64 po.timestampNs)
  | .plan rr => P (.ofInt64 rr.timestampNs)
  | _ => True

namespace PowerWindow

theorem record_subset (w : PowerWindow) (t : Timestamp) (p : Watts) {sample : PowerSample}
    (member : sample ∈ (w.record t p).1.samples) : sample ∈ w.samples ∨ sample.t = t := by
  by_cases late : ∀ back ∈ w.samples.getLast?, back.t.ns ≤ t.ns
  · rw [record_of_late p late] at member
    have before := (trimLoop_suffix w.capacity t (w.samples ++ [⟨t, p⟩])).subset member
    rcases List.mem_append.mp before with old | new
    · exact .inl old
    · exact .inr (congrArg PowerSample.t (List.mem_singleton.mp new))
  · rw [record_of_early p late] at member
    exact .inl member

end PowerWindow

namespace Governor

variable {P : Timestamp → Prop} {g : Governor}

/-- The device after a call keeps the times, and those of an observation. -/
theorem Dated.live_after (dated : g.Dated P) {work : Pending} {call : GovernorCall}
    (makes : work.Makes call) (timed : work.Dated P) :
    (∀ sample ∈ (call.after g).live.powerWindow.samples, P sample.t) ∧
      ((call.after g).live.lastObserved.isZero = true ∨ P (call.after g).live.lastObserved) := by
  have kept : ∀ ds : DeviceState, ds.powerWindow = g.live.powerWindow →
      ds.lastObserved = g.live.lastObserved → (∀ sample ∈ ds.powerWindow.samples, P sample.t) ∧
        (ds.lastObserved.isZero = true ∨ P ds.lastObserved) := by
    intro ds window last
    rw [window, last]
    exact ⟨dated.samples, dated.observed⟩
  have step := call.deviceStep g
  generalize (call.after g).live = ds at step ⊢
  cases step with
  | invalidated invalidates => cases makes <;> exact invalidates.elim
  | kept leaves other burst meter => exact kept _ rfl rfl
  | observed sample now =>
      cases makes with
      | @observe po _ sampled =>
          have time : P (.ofInt64 po.timestampNs) := timed
          have heated : ∀ (ds : DeviceState) now, (ds.heat sample now).powerWindow =
              ds.powerWindow ∧ (ds.heat sample now).lastObserved = ds.lastObserved := by
            intro ds now
            unfold DeviceState.heat
            cases sample.temperature <;> exact ⟨rfl, rfl⟩
          rw [DeviceState.exec_ingest]
          cases sample.power with
          | none => exact kept _ (heated _ _).1 (heated _ _).2
          | some power =>
              have recorded : ∀ ds : DeviceState,
                  ds.powerWindow = (g.live.powerWindow.record (.ofInt64 po.timestampNs) power).1 →
                  ds.lastObserved = .ofInt64 po.timestampNs →
                  (∀ sample ∈ ds.powerWindow.samples, P sample.t) ∧
                    (ds.lastObserved.isZero = true ∨ P ds.lastObserved) := by
                intro ds window last
                rw [window, last]
                refine ⟨fun sample member => ?_, .inr time⟩
                rcases g.live.powerWindow.record_subset _ power member with old | new
                · exact dated.samples sample old
                · rw [new]
                  exact time
              dsimp only
              cases (g.live.powerWindow.record (.ofInt64 po.timestampNs) power).2 with
              | error fault => exact recorded _ rfl rfl
              | ok _ => exact recorded _ (heated _ _).1 (heated _ _).2

theorem planned_or_known (g : Governor) (workload : WorkloadId) (scope : PowerDomainId)
    (budget : BudgetId) (power : Watts) (energy : Joules) (now : Timestamp) (validity : Duration)
    {id : ReservationId} {r : Reservation} (found : (g.planReservation workload .throughput scope
      budget power energy .first .first now validity).1.reservations.find? id = some r) :
    g.reservations.find? id = some r ∨ r.created = now := by
  unfold Governor.planReservation ReservationManager.plan at found
  dsimp only at found
  cases taken : g.reservations.map.contains g.ids.allocateReservation.1 with
  | true =>
      rw [taken] at found
      exact .inl found
  | false =>
      have fresh := Option.isNone_iff_eq_none.mp (Option.isSome_eq_false_iff.mp taken)
      rw [taken, if_neg Bool.false_ne_true] at found
      replace found := (Keyed.find?_emplace fresh id).symm.trans found
      split at found
      · obtain rfl := Option.some.inj found
        exact .inr rfl
      · exact .inl found

/-- Every reservation was there before the call, or is the one that it plans. -/
theorem Dated.created_after (dated : g.Dated P) {work : Pending} {call : GovernorCall}
    (makes : work.Makes call) (timed : work.Dated P) {id : ReservationId} {r : Reservation}
    (found : (call.after g).reservations.find? id = some r) : P r.created := by
  have rewritten : ∀ lifecycleCall, call.lifecycle g = some lifecycleCall →
      lifecycleCall.plans = false → P r.created := by
    intro lifecycleCall is known
    have books : (call.after g).reservations = (lifecycleCall.after g.books).reservations :=
      congrArg Books.reservations (GovernorCall.books_after is)
    rw [books] at found
    obtain ⟨before, here, _, terms⟩ :=
      (ReservationCall.rewritten_after known).1.backward found
    have kept : r.asPlanned.created = before.asPlanned.created := congrArg Reservation.created terms
    have same : r.created = before.created := kept
    rw [same]
    exact dated.created id before here
  cases makes with
  | @observe po sample sampled =>
      obtain ⟨generation, left⟩ :=
        Governor.observeBackend_leaves sample (.ofInt64 po.timestampNs) g
      have same := congrArg Governor.reservations left
      exact dated.created id r (same ▸ found)
  | @decide dr power powered =>
      obtain ⟨burst, engine, ids, _, left⟩ := Governor.decideFor_leaves dr.budget dr.workload
        .throughput power Joules.zero 1 Timestamp.zero g
      have same := congrArg Governor.reservations left
      exact dated.created id r (same ▸ found)
  | reserve => exact rewritten _ rfl rfl
  | activate => exact rewritten _ rfl rfl
  | release => exact rewritten _ rfl rfl
  | @plan rr power energy validity powered energized valid =>
      rcases planned_or_known g rr.workload rr.scope rr.budget power energy
        (.ofInt64 rr.timestampNs) validity found with known | new
      · exact dated.created id r known
      · rw [new]
        exact timed

/-- A section keeps the times in a range that the time of its message is in. -/
theorem Dated.afterCall (dated : g.Dated P) {work : Pending} (timed : work.Dated P) :
    (g.afterCall work.governorCall).Dated P := by
  unfold Governor.afterCall
  cases made : work.governorCall with
  | none => exact dated
  | some call =>
      have makes := Pending.makes_of_governorCall made
      obtain ⟨samples, observed⟩ := dated.live_after makes timed
      exact ⟨fun id r found => dated.created_after makes timed found, samples, observed⟩

end Governor

/-! ## Messages that harm no coordinator -/

/-- The elapsed times between such a time and time zero fit in a `Duration`. -/
def Timestamp.Regular (t : Timestamp) : Prop := 0 ≤ t.ns ∧ t.ns ≤ kMaxNs

theorem Timestamp.Regular.elapsedFits {now t : Timestamp} (here : now.ns ≤ kMaxNs)
    (regular : t.Regular) : now.ElapsedFits t := by
  unfold ElapsedFits
  have positive := regular.1
  omega

/-- The amounts and readings of the message are in range, its time is regular, and the
reservation it acts on is known. -/
def Pending.Sane (g : Governor) : Pending → Prop
  | .welcome _ => True
  | .observe po => po.Physical ∧ (Timestamp.ofInt64 po.timestampNs).Regular
  | .plan rr => rr.Physical ∧ (Timestamp.ofInt64 rr.timestampNs).Regular
  | .reserve rr _ => (Timestamp.ofInt64 rr.timestampNs).Regular
  | .act _ ba => ∃ r, g.reservations.find? ba.reservation = some r
  | .decide dr => 0 ≤ dr.requestedMw.toInt

/-- The section comes in time: it plans nothing later than it reserves, and it is no
observation of a power from before the last one. -/
def Pending.Timely (g : Governor) : Pending → Prop
  | .observe po => po.hasPower = true → ∀ back ∈ g.live.powerWindow.samples.getLast?,
      back.t.ns ≤ (Timestamp.ofInt64 po.timestampNs).ns
  | .reserve rr planned => g.CreatedAt planned (.ofInt64 rr.timestampNs)
  | _ => True

namespace Pending

variable {cs : CoordShared} {work : Pending}

theorem Sane.dated (sane : work.Sane cs.gov) : work.Dated Timestamp.Regular := by
  cases work with
  | observe po => exact sane.2
  | plan rr => exact sane.2
  | welcome | reserve | act | decide => trivial

/-- Such a section throws nothing. -/
theorem harmless_of_sane (dated : cs.gov.Dated Timestamp.Regular) (sane : work.Sane cs.gov)
    (timely : work.Timely cs.gov) : cs.Harmless work := by
  cases work with
  | welcome worker => trivial
  | observe po =>
      refine ⟨sane.1, fun has => ⟨timely has, fun _ front member => ?_⟩⟩
      exact (dated.samples front (List.mem_of_mem_head? member)).elapsedFits sane.2.2
  | plan rr => exact sane.1
  | reserve rr planned =>
      obtain ⟨r, found, created⟩ := timely
      refine ⟨r, found, fun _ => .inr ?_⟩
      rw [created]
      exact Timestamp.Regular.elapsedFits sane.2 sane
  | act action ba =>
      obtain ⟨r, found⟩ := sane
      have fits : r.ExpiryFits Timestamp.zero :=
        .inr ((dated.created _ r found).elapsedFits (by decide))
      cases action with
      | activate => exact ⟨r, found, fun _ => fits⟩
      | release => exact ⟨r, found⟩
  | decide dr =>
      refine ⟨sane, ?_⟩
      intro ds present
      have live : cs.gov.live = ds := by
        unfold Governor.live
        rw [Option.mem_def.mp present]
        rfl
      obtain ⟨_, samples, observed⟩ := dated
      rw [live] at samples observed
      refine ⟨?_, observed.imp id fun regular => regular.elapsedFits (by decide)⟩
      intro front first back last
      exact (samples front (List.mem_of_mem_head? first)).elapsedFits
        (samples back (List.mem_of_getLast? last)).2

/-- What a message leaves to do can begin when it can be done. -/
theorem run_returns (serving : cs.gov.Serving) (harmless : cs.Harmless work) :
    work.run.Returns cs := by
  have completes := (complete_returns_iff serving work).mpr harmless
  rw [complete_eq] at completes
  obtain ⟨progress, after, ran, _⟩ := Stateful.returns_bind_iff.mp completes
  exact ⟨progress, congrArg Prod.fst ran⟩

end Pending

namespace Coordinator

variable {s : Coordinator} {event : Event}

/-! ## Runs -/

/-- The step takes up a sane message only, runs no section too late, and installs no
negative amount. -/
def Gentle (s : Coordinator) : Event → Prop
  | .frame _ m => ∀ work, s.shared.Accepts m work → work.Sane s.shared.gov
  | .proceed conn => ∀ c po, s.connections conn = some c → c.work = some (.observe po) →
      (Pending.observe po).Timely s.shared.gov
  | .installBudget _ _ hmax soft => 0 ≤ hmax ∧ 0 ≤ soft
  | .setPolicy cap => 0 ≤ cap
  | _ => True

/-- The coordinator runs, its times are regular and its handlers work on sane messages. -/
structure Sound (s : Coordinator) : Prop where
  running : s.running = true
  serving : s.shared.gov.Serving
  dated : s.shared.gov.Dated Timestamp.Regular
  plans : s.PlansCreated
  sane : ∀ conn c work, s.connections conn = some c → c.work = some work →
    work.Sane s.shared.gov

theorem sound_start : start.Sound where
  running := rfl
  serving := serving_invariant.start
  dated := by
    refine ⟨fun id r found => ?_, fun sample member => ?_, .inl rfl⟩
    · cases found
    · exact absurd member List.not_mem_nil
  plans := by
    intro conn c rr id found
    cases found
  sane := by
    intro conn c work found
    cases found

/-- A command with amounts in range returns. -/
theorem running_of_control (running : s.running = true) (gentle : s.Gentle event)
    (control : event.conn? = none) : (s.after event).running = true := by
  have returned : ∀ command : Stateful Fault CoordShared Unit, command.Returns s.shared →
      (s.control command).running = true := by
    rintro command ⟨_, returned⟩
    show ((command.exec s.shared).1).isOk = true
    rw [returned]
    rfl
  have admits : ∀ v : ℚ, 0 ≤ v → ∃ amount : Watts, Quantity.construct v = .ok amount :=
    fun v positive => Quantity.construct_returns_iff.mpr positive
  unfold after
  rw [if_pos running]
  cases event with
  | installBudget id parent hmax soft =>
      obtain ⟨hardMax, hard⟩ := admits hmax gentle.1
      obtain ⟨softTarget, soft⟩ := admits soft gentle.2
      refine returned (CoordShared.installBudget id parent hmax _) ?_
      unfold CoordShared.installBudget
      refine Stateful.returns_ofExcept_bind_iff.mpr ⟨hardMax, hard, ?_⟩
      exact Stateful.returns_ofExcept_bind_iff.mpr ⟨softTarget, soft, (), rfl⟩
  | setPolicy cap =>
      obtain ⟨amount, capped⟩ := admits cap gentle
      refine returned (CoordShared.setPolicy cap) ?_
      unfold CoordShared.setPolicy
      refine Stateful.returns_bind_iff.mpr ⟨s.shared, s.shared, rfl, ?_⟩
      refine Stateful.returns_bind_iff.mpr ⟨(), _, rfl, ?_⟩
      exact Stateful.returns_ofExcept_bind_iff.mpr ⟨amount, capped, (), rfl⟩
  | rollEpoch => exact running
  | connect conn first => cases control
  | frame conn m => cases control
  | proceed conn => cases control
  | disconnect conn => cases control

/-- The sections of sane messages return. -/
theorem running_of_section (sound : s.Sound) (gentle : s.Gentle event)
    (handler : event.conn? ≠ none) : (s.after event).running = true := by
  unfold after
  rw [if_pos sound.running]
  cases event with
  | connect conn first =>
      unfold take
      dsimp only
      repeat' split
      all_goals exact sound.running
  | frame conn m =>
      unfold take
      dsimp only
      split
      · exact sound.running
      · exact sound.running
  | proceed conn =>
      unfold take
      dsimp only
      split
      · rename_i reg work busy
        have timely : work.Timely s.shared.gov := by
          cases work with
          | observe po => exact gentle _ po busy rfl
          | reserve rr planned => exact sound.plans conn _ rr planned busy rfl
          | welcome | plan | act | decide => trivial
        have harmless := Pending.harmless_of_sane sound.dated (sound.sane conn _ work busy rfl)
          timely
        obtain ⟨progress, returned⟩ := Pending.run_returns sound.serving harmless
        generalize work.run.exec s.shared = ended at returned ⊢
        obtain ⟨result, shared⟩ := ended
        obtain rfl : result = .ok progress := returned
        exact sound.running
      · exact sound.running
  | disconnect conn =>
      unfold take
      dsimp only
      split <;> exact sound.running
  | installBudget id parent hmax soft => exact absurd rfl handler
  | setPolicy cap => exact absurd rfl handler
  | rollEpoch => exact absurd rfl handler

theorem dated_of_holdings {P : Timestamp → Prop} {g g' : Governor}
    (same : g'.holdings = g.holdings) (dated : g.Dated P) : g'.Dated P := by
  obtain ⟨reservations, _, device, _⟩ : g'.reservations = g.reservations ∧
      g'.resIndex = g.resIndex ∧ g'.device = g.device ∧ g'.engine = g.engine := by
    simpa [Governor.holdings] using same
  have live : g'.live = g.live := Governor.live_of_same device
  exact ⟨reservations ▸ dated.created, live ▸ dated.samples, live ▸ dated.observed⟩

theorem dated_after {P : Timestamp → Prop} (dated : s.shared.gov.Dated P)
    (timed : ∀ work, s.works event = some work → work.Dated P) :
    (s.after event).shared.gov.Dated P := by
  refine dated_of_holdings (holdings_after s event) ?_
  cases working : s.works event with
  | none => exact dated
  | some work => exact dated.afterCall (timed work working)

/-- What was sane stays sane: no reservation is lost. -/
theorem sane_after {work : Pending} (sane : work.Sane s.shared.gov) (event : Event) :
    work.Sane (s.after event).shared.gov := by
  cases work with
  | act action ba =>
      obtain ⟨r, found⟩ := sane
      obtain ⟨r', found', _⟩ := createdAt_after ⟨r, found, rfl⟩ event
      exact ⟨r', found'⟩
  | welcome | observe | plan | reserve | decide => exact sane

theorem sound_after (sound : s.Sound) (gentle : s.Gentle event) : (s.after event).Sound where
  running := by
    by_cases control : event.conn? = none
    · exact running_of_control sound.running gentle control
    · exact running_of_section sound gentle control
  serving := serving_invariant.after sound.serving event
  dated := by
    refine dated_after sound.dated fun work working => ?_
    obtain ⟨_, conn, reg, _, busy⟩ := works_eq_some working
    exact (sound.sane conn _ work busy rfl).dated
  plans := plansCreated_after sound.plans event
  sane := by
    intro conn c work found busy
    cases arises_of_after found busy with
    | same before busy => exact sane_after (sound.sane conn _ work before busy) event
    | welcome decoded greets =>
        subst greets
        trivial
    | accepted before accepts => exact sane_after (gentle work accepts) _
    | planned before reserves =>
        subst reserves
        exact (sound.sane conn _ _ before rfl).2

theorem sound_of_reachable (reached : (runs Gentle).Reachable s) : s.Sound := by
  refine reached.invariant Sound ?_ ?_
  · rintro s rfl
    exact sound_start
  · rintro s event s' sound ⟨gentle, rfl⟩
    exact sound_after sound gentle

end Coordinator

end PowerGovernor
