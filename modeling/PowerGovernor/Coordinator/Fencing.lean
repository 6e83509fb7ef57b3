import PowerGovernor.Coordinator.Runs
import PowerGovernor.Reservation.Identity

/-!
What the fences of the coordinator guarantee.

Owns the stamp of a message in flight and when it is still current at the effect. A
fence is checked in the first section only, so the guarantee holds in the runs that a
step condition describes.
-/

set_option autoImplicit false

namespace PowerGovernor

/-- The epoch and the boot of a message that changes the state of the Governor. -/
def Pending.stamp : Pending → Option (CoordinatorEpoch × WorkerBootId)
  | .observe po => some (po.epoch, po.boot)
  | .plan rr | .reserve rr _ => some (rr.epoch, rr.boot)
  | .act _ ba => some (ba.epoch, ba.boot)
  | .welcome _ | .decide _ => none

/-- A message is accepted under a current stamp. -/
theorem CoordShared.Accepts.current {cs : CoordShared} {m : Frame} {work : Pending}
    (accepted : cs.Accepts m work) {stamp : CoordinatorEpoch × WorkerBootId}
    (stamped : work.stamp = some stamp) : cs.Current stamp := by
  cases accepted with
  | observe type decoded passed =>
      obtain rfl := Option.some.inj stamped
      exact current_of_fenceObs passed
  | plan type decoded passed =>
      obtain rfl := Option.some.inj stamped
      exact fenceEpochBoot_eq_ok.mp passed
  | act type decoded passed =>
      obtain rfl := Option.some.inj stamped
      exact fenceEpochBoot_eq_ok.mp passed
  | decide type decoded passed => cases stamped

namespace Coordinator

variable {s : Coordinator} {event : Event}

theorem current_of_fencing {left right : CoordShared} (same : left.fencing = right.fencing)
    {stamp : CoordinatorEpoch × WorkerBootId} (current : right.Current stamp) :
    left.Current stamp := by
  obtain ⟨sameEpoch, sameWorkers⟩ := Prod.mk.inj same
  unfold CoordShared.Current CoordShared.Booted at *
  rw [sameEpoch, sameWorkers]
  exact current

theorem bootOf_of_fencing {left right : CoordShared} (same : left.fencing = right.fencing)
    (w : WorkerId) : left.bootOf w = right.bootOf w := by
  unfold CoordShared.bootOf
  rw [(Prod.mk.inj same).2]

/-! ## The fence at the effect -/

/-- A handler has this section in front of it. -/
def InFlight (s : Coordinator) (work : Pending) : Prop :=
  ∃ conn c, s.connections conn = some c ∧ c.work = some work

/-- Whenever a section is about to change the Governor, the epoch of its message is
the coordinator's and its boot is registered. -/
def FencedAtEffect (s : Coordinator) : Prop :=
  ∀ work stamp, s.InFlight work → work.stamp = some stamp →
    (work.run.exec s.shared).2.gov ≠ s.shared.gov → s.shared.Current stamp

/-- The step overtakes no message between its fence and its effect: the epoch rolls
to the one it carries, and a REGISTER leaves its boot registered. -/
def OvertakesNone (s : Coordinator) (event : Event) : Prop :=
  ∀ work stamp, s.InFlight work → work.stamp = some stamp →
    (event = .rollEpoch → stamp.1 = s.shared.epoch.next) ∧
      ∀ reg, s.Registers event reg → (s.shared.register reg).Booted stamp.2

/-- Every message in flight carries a current stamp. -/
def Stamped (s : Coordinator) : Prop :=
  ∀ work stamp, s.InFlight work → work.stamp = some stamp → s.shared.Current stamp

/-- What was current in front of the step is current after it. -/
theorem current_after (kept : OvertakesNone s event) {work : Pending}
    {stamp : CoordinatorEpoch × WorkerBootId} (inFlight : s.InFlight work)
    (stamped : work.stamp = some stamp) (current : s.shared.Current stamp) :
    (s.after event).shared.Current stamp := by
  obtain ⟨rolls, registers⟩ := kept work stamp inFlight stamped
  rcases fencing_after s event with same | ⟨reg, registered, written⟩ | ⟨rolled, written⟩
  · exact current_of_fencing same current
  · exact current_of_fencing written ⟨current.1, registers reg registered⟩
  · obtain ⟨epoch, workers⟩ := Prod.mk.inj written
    refine ⟨(rolls rolled).trans epoch.symm, ?_⟩
    have booted := current.2
    unfold CoordShared.Booted at booted ⊢
    rw [workers]
    exact booted

theorem stamped_after (stamped : s.Stamped) (kept : OvertakesNone s event) :
    (s.after event).Stamped := by
  rintro work stamp ⟨conn, c, found, busy⟩ carries
  cases arises_of_after found busy with
  | same found busy =>
      have inFlight : s.InFlight work := ⟨conn, c, found, busy⟩
      exact current_after kept inFlight carries (stamped work stamp inFlight carries)
  | welcome decoded greets =>
      subst greets
      cases carries
  | accepted found accepts =>
      have current := accepts.current carries
      rcases fencing_after s (.frame conn _) with same | ⟨reg, registered, _⟩ | ⟨rolled, _⟩
      · exact current_of_fencing same current
      · obtain ⟨_, _, different, _⟩ := registered
        cases different
      · cases rolled
  | planned before reserves =>
      -- The reserve carries the stamp of its plan.
      subst reserves
      have inFlight : s.InFlight (.plan _) := ⟨conn, _, before, rfl⟩
      exact current_after kept inFlight carries (stamped _ stamp inFlight carries)

/-- In a run whose steps overtake no message in flight, every effect on the Governor
happens under the coordinator's epoch and a registered boot. -/
theorem fenced_at_effect {s : Coordinator} (reached : (runs OvertakesNone).Reachable s) :
    s.FencedAtEffect := by
  have stamped : s.Stamped := by
    refine reached.invariant Stamped ?_ ?_
    · rintro s rfl work stamp ⟨conn, c, found, _⟩
      cases found
    · rintro s event s' stamped ⟨kept, rfl⟩
      exact stamped_after stamped kept
  intro work stamp inFlight carries _
  exact stamped work stamp inFlight carries

/-- A step that is neither a first frame nor `roll_epoch` overtakes nothing. -/
theorem overtakesNone_of_quiet (connects : ∀ conn first, event ≠ .connect conn first)
    (rolls : event ≠ .rollEpoch) : OvertakesNone s event := by
  intro work stamp _ _
  refine ⟨fun rolled => absurd rolled rolls, ?_⟩
  rintro reg ⟨conn, first, same, _⟩
  exact absurd same (connects conn first)

theorem along_planning : Along after OvertakesNone start planning := by
  refine ⟨?_, overtakesNone_of_quiet nofun nofun, overtakesNone_of_quiet nofun nofun,
    overtakesNone_of_quiet nofun nofun, trivial⟩
  rintro work stamp ⟨conn, c, found, _⟩
  cases found

theorem fenced_at_effect_planning : (planning.foldl after start).FencedAtEffect :=
  fenced_at_effect (.foldl (.start rfl) along_planning)

/-- `roll_epoch` between the fence and the effect: a RESERVE of epoch 1 is planned
in epoch 2. -/
theorem stale_effect : ¬ ∀ s, (runs fun _ _ => True).Reachable s → s.FencedAtEffect := by
  intro fenced
  let events := planning ++ [Event.rollEpoch]
  have reached : (runs fun _ _ => True).Reachable (events.foldl after start) :=
    .foldl (.start rfl) (along_true _ _)
  have found : (events.foldl after start).connections 1 =
      some ⟨⟨⟨1⟩, ⟨10⟩, ⟨1⟩, []⟩, some (.plan (reserveMsg 10))⟩ := by decide +kernel
  have plans : ((Pending.plan (reserveMsg 10)).run.exec
        (events.foldl after start).shared).2.gov.reservations.ids ≠
      (events.foldl after start).shared.gov.reservations.ids := by decide +kernel
  have rolled : (events.foldl after start).shared.epoch ≠ .first := by decide +kernel
  generalize events.foldl after start = s at *
  have current : s.shared.Current (.first, ⟨10⟩) := by
    apply fenced s reached (.plan (reserveMsg 10)) _ ⟨1, _, found, rfl⟩ rfl
    intro same
    exact plans (congrArg (fun g => g.reservations.ids) same)
  exact rolled current.1.symm

end Coordinator

end PowerGovernor
