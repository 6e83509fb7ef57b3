import PowerGovernor.Governor.Revalidation
import PowerGovernor.PowerWindow.Doubles

/-!
Decisions on the doubles of their callers.

Owns the results of `decide_for` that may not be finite: the average over the window and
the energy of the request, whose duration may be infinite or NaN. Both are taken before
anything is written, and a decision with finite ones is that of exact arithmetic.
-/

set_option autoImplicit false

namespace PowerGovernor

open Binary64 (Overflows)

/-! ## Durations -/

namespace Double

/-- `std::max(d, 0.0)`, which returns its first argument if that is NaN. -/
def atLeastZero : Double → Double
  | .finite v => .finite (max v 0)
  | .infinite negative => if negative then .finite 0 else .infinite false
  | .nan => .nan

/-- The value of a finite double. -/
def value : Double → ℚ
  | .finite v => v
  | .infinite _ | .nan => 0

end Double

/-- `Joules(requested.value() * std::max(requested_duration_s, 0.0))`. -/
def Watts.energyOver (requested : Watts) (duration : Double) : Except Fault ℚ :=
  validateUnit .joules (Double.mul (.finite requested.value) duration.atLeastZero)

/-- The duration is no NaN and not infinite, unless it counts as zero, and the energy is in
the range of a double. -/
def Watts.EnergyFinite (requested : Watts) : Double → Prop
  | .finite v => ¬ Overflows (requested.value * max v 0)
  | .infinite negative => negative = true
  | .nan => False

theorem Watts.energyOver_returns_iff (requested : Watts) (duration : Double) :
    (∃ v, requested.energyOver duration = .ok v) ↔ requested.EnergyFinite duration := by
  have product : ∀ factor : ℚ, 0 ≤ factor →
      ((∃ v, validateUnit .joules (.rounded (requested.value * factor)) = .ok v) ↔
        ¬ Overflows (requested.value * factor)) := by
    intro factor positive
    have nonneg := mul_nonneg requested.nonneg positive
    constructor
    · rintro ⟨v, taken⟩ overflows
      have finite := isFinite_of_validateUnit taken
      rw [Double.rounded_of_overflows overflows] at finite
      cases finite
    · intro fits
      rw [Double.rounded_of_fits fits]
      exact ⟨_, PowerWindow.validate_of_nonneg (Binary64.round_nonneg nonneg) (.inr rfl)⟩
  cases duration with
  | finite v => exact product (max v 0) (le_max_right v 0)
  | infinite negative =>
      cases negative with
      | true =>
          have small : ¬ Overflows (requested.value * 0) :=
            Binary64.not_overflows_of_le (n := 0) (by simp) (by simp) (by norm_num)
          exact iff_of_true ((product 0 le_rfl).mpr small) rfl
      | false =>
          refine iff_of_false ?_ Bool.false_ne_true
          rintro ⟨v, taken⟩
          cases (Double.isFinite_mul (isFinite_of_validateUnit taken)).2
  | nan =>
      refine iff_of_false ?_ id
      rintro ⟨v, taken⟩
      cases taken

/-! ## Decisions -/

/-- What `fill` computes that may not be finite. `average_power` ends the process then; the
constructors of the average and of the energy throw to the caller. -/
def DeviceState.finiteFill (ds : DeviceState) (requested : Watts) (duration : Double) :
    Except Fault Unit := do
  let _ ← validateUnit .watts (← ds.powerWindow.averageInDoubles)
  let _ ← requested.energyOver duration
  return ()

theorem DeviceState.finiteFill_returns_iff {ds : DeviceState} (ordered : ds.powerWindow.Ordered)
    (requested : Watts) (duration : Double) :
    ds.finiteFill requested duration = .ok () ↔
      ds.powerWindow.Spans ∧ ds.powerWindow.FiniteAverage ∧ requested.EnergyFinite duration := by
  rw [← and_assoc, ← PowerWindow.averageInDoubles_finite_iff ordered,
    ← requested.energyOver_returns_iff duration]
  constructor
  · intro returned
    obtain ⟨average, averaged, returned⟩ := bind_eq_ok.mp returned
    obtain ⟨v, taken, returned⟩ := bind_eq_ok.mp returned
    obtain ⟨energy, finite, _⟩ := bind_eq_ok.mp returned
    exact ⟨⟨average, v, averaged, taken⟩, energy, finite⟩
  · rintro ⟨⟨average, v, averaged, taken⟩, energy, finite⟩
    unfold finiteFill
    rw [averaged]
    dsimp only [bind, Except.bind]
    rw [taken]
    dsimp only
    rw [finite]
    rfl

/-- The arguments of `decide_for`. -/
structure DecisionCall where
  budget : BudgetId
  workload : WorkloadId
  cls : WorkloadPowerClass
  requested : Watts
  requestedEnergy : Joules
  duration : Double
  now : Timestamp

namespace DecisionCall

/-- The same call with the value of its duration. -/
def exact (call : DecisionCall) : GovernorCall :=
  .decideFor call.budget call.workload call.cls call.requested call.requestedEnergy
    call.duration.value call.now

/-- Without a device neither the window nor the duration is read. -/
def finiteFill (call : DecisionCall) (g : Governor) : Except Fault Unit :=
  g.device.elim (.ok ()) fun ds => ds.finiteFill call.requested call.duration

/-- `decide_for`. -/
def decideFor (call : DecisionCall) : Stateful Fault Governor Decision := do
  let g ← get
  Stateful.ofExcept (call.finiteFill g)
  Governor.decideFor call.budget call.workload call.cls call.requested call.requestedEnergy
    call.duration.value call.now

/-- A decision that throws on the way changes nothing; any other is the exact one. -/
theorem decideFor_cases (call : DecisionCall) (g : Governor) :
    (∃ fault, call.finiteFill g = .error fault ∧ call.decideFor.exec g = (.error fault, g)) ∨
      call.finiteFill g = .ok () ∧
        call.decideFor.exec g = (Governor.decideFor call.budget call.workload call.cls
          call.requested call.requestedEnergy call.duration.value call.now).exec g := by
  unfold decideFor
  rw [Stateful.exec_bind_of_ok (Stateful.exec_get g), Stateful.exec_bind, Stateful.exec_ofExcept]
  cases call.finiteFill g with
  | error fault => exact .inl ⟨fault, rfl, rfl⟩
  | ok _ => exact .inr ⟨rfl, rfl⟩

/-- The decision asks for revalidation. -/
def Revalidates (call : DecisionCall) (g : Governor) : Prop :=
  ∃ d g', call.decideFor.exec g = (.ok d, g') ∧ d.verdict = .revalidationRequired

/-- Without an observation a decision asks for revalidation exactly when a device, if there
is one, averages its window to a finite double and the energy of the request is finite. -/
theorem revalidates_iff {g : Governor} (stock : g.live.Stock)
    (ordered : g.live.powerWindow.Ordered) (never : g.live.lastObserved.isZero = true)
    (call : DecisionCall) :
    call.Revalidates g ↔ ∀ ds ∈ g.device, ds.powerWindow.Spans ∧ ds.powerWindow.FiniteAverage ∧
      call.requested.EnergyFinite call.duration := by
  have exact := Governor.revalidates_iff stock ordered never call.budget call.workload call.cls
    call.requested call.requestedEnergy call.duration.value call.now
  have checks : call.finiteFill g = .ok () ↔ ∀ ds ∈ g.device,
      ds.powerWindow.Spans ∧ ds.powerWindow.FiniteAverage ∧
        call.requested.EnergyFinite call.duration := by
    unfold finiteFill
    cases present : g.device with
    | none => exact iff_of_true rfl fun _ member => nomatch member
    | some ds =>
        have live : g.live = ds := congrArg (·.getD .blank) present
        rw [live] at ordered
        show ds.finiteFill call.requested call.duration = .ok () ↔ _
        rw [DeviceState.finiteFill_returns_iff ordered]
        simp
  have spans : (∀ ds ∈ g.device, ds.powerWindow.Spans ∧ ds.powerWindow.FiniteAverage ∧
      call.requested.EnergyFinite call.duration) → g.live.powerWindow.Spans := by
    intro all
    cases present : g.device with
    | none =>
        rw [Governor.live_of_none present]
        exact fun _ member => nomatch member
    | some ds =>
        have live : g.live = ds := congrArg (·.getD .blank) present
        exact live ▸ (all ds present).1
  rcases call.decideFor_cases g with ⟨fault, failed, thrown⟩ | ⟨passed, same⟩
  · refine iff_of_false ?_ fun all => ?_
    · rintro ⟨d, g', decided, _⟩
      rw [thrown] at decided
      cases decided
    · rw [checks.mpr all] at failed
      cases failed
  · have all := checks.mp passed
    refine iff_of_true ?_ all
    obtain ⟨d, g', decided, asks⟩ := exact.mpr (spans all)
    exact ⟨d, g', same.trans decided, asks⟩

/-! ## Alike Governors -/

section Alike

variable {left right : Governor}

/-- A device without samples only looks at the energy of the request. -/
theorem finiteFill_of_empty {ds : DeviceState} (empty : ds.powerWindow.samples = [])
    {call : DecisionCall} (finite : call.requested.EnergyFinite call.duration) :
    ds.finiteFill call.requested call.duration = .ok () := by
  have ordered : ds.powerWindow.Ordered := by
    unfold PowerWindow.Ordered
    rw [empty]
    exact List.Pairwise.nil
  refine (DeviceState.finiteFill_returns_iff ordered _ _).mpr ⟨?_, ⟨?_, ?_⟩, finite⟩
  · unfold PowerWindow.Spans
    rw [empty]
    exact fun _ member => nomatch member
  · rw [empty]
    trivial
  · rw [empty]
    exact fun _ member => nomatch member

/-- Alike Governors check a decision alike if both have a device or neither has one, and
any two do if the energy of the request is finite. -/
theorem finiteFill_eq_of_alike (alike : left.Alike right) {call : DecisionCall}
    (agree : left.device.isSome = right.device.isSome ∨
      call.requested.EnergyFinite call.duration) :
    call.finiteFill left = call.finiteFill right := by
  have window := alike.device.powerWindow
  unfold finiteFill
  cases leftDevice : left.device with
  | none =>
      cases rightDevice : right.device with
      | none => rfl
      | some ds =>
          have finite := agree.resolve_left (by simp [leftDevice, rightDevice])
          have live : right.live = ds := congrArg (·.getD .blank) rightDevice
          rw [live, Governor.live_of_none leftDevice] at window
          exact (finiteFill_of_empty (congrArg PowerWindow.samples window.symm) finite).symm
  | some ds =>
      have live : left.live = ds := congrArg (·.getD .blank) leftDevice
      rw [live] at window
      cases rightDevice : right.device with
      | none =>
          have finite := agree.resolve_left (by simp [leftDevice, rightDevice])
          rw [Governor.live_of_none rightDevice] at window
          exact finiteFill_of_empty (congrArg PowerWindow.samples window) finite
      | some ds' =>
          have live' : right.live = ds' := congrArg (·.getD .blank) rightDevice
          rw [live'] at window
          show ds.finiteFill _ _ = ds'.finiteFill _ _
          unfold DeviceState.finiteFill
          rw [window]

/-- Alike Governors that check a decision alike answer it alike and stay alike. -/
theorem alike_decideFor (alike : left.Alike right) {call : DecisionCall}
    (agree : left.device.isSome = right.device.isSome ∨
      call.requested.EnergyFinite call.duration) :
    (call.decideFor.exec left).1.map Decision.answer =
        (call.decideFor.exec right).1.map Decision.answer ∧
      (call.decideFor.exec left).2.Alike (call.decideFor.exec right).2 := by
  have checked := finiteFill_eq_of_alike alike agree
  have exact := Governor.alike_decideFor alike call.budget call.workload call.cls call.requested
    call.requestedEnergy call.duration.value call.now
  rcases call.decideFor_cases left with ⟨fault, failed, thrown⟩ | ⟨passed, same⟩
  · rcases call.decideFor_cases right with ⟨fault', failed', thrown'⟩ | ⟨passed', _⟩
    · obtain rfl : fault = fault' := Except.error.inj (failed.symm.trans (checked.trans failed'))
      rw [thrown, thrown']
      exact ⟨rfl, alike⟩
    · cases failed.symm.trans (checked.trans passed')
  · rcases call.decideFor_cases right with ⟨fault', failed', _⟩ | ⟨_, same'⟩
    · cases passed.symm.trans (checked.trans failed')
    · rw [same, same']
      exact exact

/-- A decision makes no device where none is, and removes none. -/
theorem device_decideFor {g : Governor} (disabled : g.live.burst.limits.enabled = false)
    (call : DecisionCall) : (call.decideFor.exec g).2.device = g.device := by
  rcases call.decideFor_cases g with ⟨fault, _, thrown⟩ | ⟨_, same⟩
  · rw [thrown]
  · rw [same, Governor.exec_decideFor_of_disabled disabled]
    exact (g.commit_keeps _).2.2

end Alike

end DecisionCall

end PowerGovernor
