import PowerGovernor.Coordinator.TimeLimits

/-!
The devices of a coordinator.

Owns the devices of a Governor by accelerator, what decisions derive from each, and the
exact condition under which the observations of a run leave the devices of other
accelerators alone. A POWER_OBSERVATION names an accelerator; the handler drops the
name, and every sample is filed under the default one.
-/

set_option autoImplicit false

namespace PowerGovernor

/-! ## Devices by accelerator -/

namespace Governor

/-- `default_accel_`. -/
def defaultAccel : AcceleratorId := ⟨1⟩

/-- `devices_`, in which only the default accelerator is ever entered. -/
def devices (g : Governor) (a : AcceleratorId) : Option DeviceState :=
  if a = defaultAccel then g.device else none

/-- The freshness and the thermal state that a decision derives from a device. -/
def outlook (g : Governor) (a : AcceleratorId) (now : Timestamp) :
    Except Fault FreshnessState × ThermalState :=
  match g.devices a with
  | none => (.ok .expired, .unknown)
  | some ds => (freshnessOf g.policy ds.lastObserved now, ds.thermal.state)

/-- The device of an accelerator is the same, and so is what is derived from it. -/
structure SameDevice (before after : Governor) (a : AcceleratorId) : Prop where
  device : after.devices a = before.devices a
  outlook : ∀ now, after.outlook a now = before.outlook a now

theorem SameDevice.refl (g : Governor) (a : AcceleratorId) : SameDevice g g a :=
  ⟨rfl, fun _ => rfl⟩

/-- No other accelerator ever has a device. -/
theorem SameDevice.of_other {a : AcceleratorId} (other : a ≠ defaultAccel)
    (before after : Governor) : SameDevice before after a := by
  have absent : ∀ g : Governor, g.devices a = none := fun g => if_neg other
  refine ⟨(absent after).trans (absent before).symm, fun now => ?_⟩
  unfold Governor.outlook
  rw [absent after, absent before]

/-- An observation is filed under the default accelerator, whose device it changes. -/
theorem device_observeBackend_ne (sample : BackendSample) (now : Timestamp) (g : Governor) :
    ((observeBackend sample now).exec g).2.device ≠ g.device := by
  obtain ⟨_, left⟩ := observeBackend_leaves sample now g
  rw [left]
  intro same
  have live : g.live = ((DeviceState.ingest sample now).exec g.live).2 := by
    nth_rewrite 1 [Governor.live]
    rw [← show some ((DeviceState.ingest sample now).exec g.live).2 = g.device from same]
    rfl
  have counted := DeviceState.obsGen_ingest sample now g.live
  rw [← live] at counted
  exact Generation.next_ne _ counted.symm

end Governor

namespace Coordinator

variable {s : Coordinator} {event : Event}

/-- A step at which a handler takes up a frame leaves the Governor alone. -/
theorem gov_after_taken {conn : Nat} {m : Frame} (taken : s.takesUp event = some (conn, m)) :
    (s.after event).shared.gov = s.shared.gov := by
  unfold takesUp at taken
  split at taken
  case isFalse stopped => cases taken
  case isTrue running =>
    unfold after take
    rw [if_pos running]
    cases event with
    | connect other first =>
        dsimp only
        repeat' split
        all_goals rfl
    | frame other m =>
        dsimp only
        split
        · exact CoordShared.view_receive CoordShared.gov fun _ _ _ => rfl
        · rfl
    | _ => cases taken

/-- A section does to the Governor what its call does. -/
theorem gov_after_works {work : Pending} (working : s.works event = some work) :
    (s.after event).shared.gov = s.shared.gov.afterCall work.governorCall := by
  obtain ⟨running, conn, reg, rfl, found⟩ := works_eq_some working
  rw [after_proceed running found]
  have ran := Pending.shared_run work s.shared
  generalize work.run.exec s.shared = ended at ran ⊢
  obtain ⟨result, shared⟩ := ended
  obtain rfl : shared = _ := ran
  cases result <;> rfl

/-- The step handles the observation: a handler accepts it, or runs its section. -/
inductive Handles (s : Coordinator) (event : Event) (po : PowerObsMsg) : Prop where
  | accepts {conn : Nat} {m : Frame} (taken : s.takesUp event = some (conn, m))
      (accepts : s.shared.Accepts m (.observe po))
  | applies (working : s.works event = some (.observe po))

/-- An observation that the step handles changes no device but that of the accelerator
it names. -/
def IsolatesDevices (s : Coordinator) (event : Event) : Prop :=
  ∀ po, s.Handles event po → ∀ a, a ≠ po.accel →
    Governor.SameDevice s.shared.gov (s.after event).shared.gov a

/-- An observation whose section is run names the default accelerator, or has a
quantity that does not convert. -/
def NamesDefault (s : Coordinator) (event : Event) : Prop :=
  ∀ po, s.works event = some (.observe po) →
    po.accel = Governor.defaultAccel ∨ ∃ fault, po.sample = .error fault

theorem isolatesDevices_iff (s : Coordinator) (event : Event) :
    s.IsolatesDevices event ↔ s.NamesDefault event := by
  constructor
  · intro isolates po working
    by_contra neither
    obtain ⟨other, converts⟩ := not_or.mp neither
    cases sampled : po.sample with
    | error fault => exact converts ⟨fault, sampled⟩
    | ok sample =>
        have kept := (isolates po (.applies working) Governor.defaultAccel (Ne.symm other)).device
        have made : (Pending.observe po).governorCall =
            some (.observeBackend sample (.ofInt64 po.timestampNs)) := by
          unfold Pending.governorCall
          dsimp only
          rw [sampled]
          rfl
        rw [gov_after_works working, made] at kept
        unfold Governor.devices at kept
        rw [if_pos rfl, if_pos rfl] at kept
        exact Governor.device_observeBackend_ne sample _ s.shared.gov kept
  · rintro names po (⟨taken, _⟩ | working) a different
    · rw [gov_after_taken taken]
      exact .refl _ a
    · rcases names po working with named | ⟨fault, unconverted⟩
      · rw [named] at different
        exact .of_other different _ _
      · have silent : (Pending.observe po).governorCall = none := by
          unfold Pending.governorCall
          dsimp only
          rw [unconverted]
          rfl
        rw [gov_after_works working, silent]
        exact .refl _ a

/-- Along every run the devices of different accelerators stay apart exactly when every
observation that reaches the Governor names the default one. -/
theorem devices_isolated_iff (events : List Event) :
    Along after IsolatesDevices start events ↔ Along after NamesDefault start events :=
  along_congr isolatesDevices_iff start events

/-- Worker 1 reports the power of accelerator 2. -/
def otherMsg : PowerObsMsg := { Timed.readingMsg with accel := ⟨2⟩ }

def otherReporting : List Event := registering ++
  [.frame 1 ⟨.powerObservation, (encodePowerObs otherMsg).toOption.getD []⟩]

/-- It becomes the latest sample of accelerator 1. -/
theorem devices_mixed : ¬ ∀ events, Along after IsolatesDevices start events := by
  intro isolated
  obtain ⟨_, _, _, isolates, _⟩ := isolated (otherReporting ++ [.proceed 1])
  have names := (isolatesDevices_iff _ _).mp isolates
  have working : (otherReporting.foldl after start).works (.proceed 1) =
      some (.observe otherMsg) := by decide +kernel
  rcases names otherMsg working with named | ⟨fault, unconverted⟩
  · revert named
    decide
  · have converts : otherMsg.sample.isOk = true := by decide +kernel
    rw [unconverted] at converts
    cases converts

end Coordinator

end PowerGovernor
