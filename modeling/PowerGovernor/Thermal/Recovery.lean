import PowerGovernor.Library.Transition
import PowerGovernor.Thermal.Hysteresis

/-!
The recovery from the constrained thermal state.

Owns what must hold from a constrained state on, the invariant of the state until the
recovery has begun and until it has ended, and that the recovery is respected exactly
along the samples that find the state remembered. A missing sample replaces it by
UNKNOWN, so nothing of the constraint is left after one.
-/

set_option autoImplicit false

namespace PowerGovernor

namespace ThermalHistory

variable {h : ThermalHistory}

/-- A present sample below the start of the recovery was seen. -/
def Cooled (h : ThermalHistory) : Prop :=
  ∃ temp, some temp ∈ h.seen ∧ temp.value < h.governor.thresholds.recoveryStart

/-- A present sample at or below `warm_max` was seen. -/
def Warmed (h : ThermalHistory) : Prop :=
  ∃ temp, some temp ∈ h.seen ∧ temp.value ≤ h.governor.thresholds.warmMax.value

/-- From the constrained state on, no sample in the recovery band gives a normal state
before a cooler one was seen, and NORMAL is reported only once a sample at or below
`warm_max` was. -/
structure RespectsRecovery (h : ThermalHistory) (s : ThermalSample) : Prop where
  band : ∀ temp, s.temp = some temp → h.governor.thresholds.recoveryStart ≤ temp.value →
    ¬ h.Cooled → (h.observe s).governor.state ∉ [ThermalState.cool, .normal, .warm, .hot]
  normal : (h.observe s).governor.state = .normal → (h.observe s).Warmed

/-- No missing sample has erased the state too early: in the recovery band the state is still
the constrained one, unless the sample is at or above every threshold; and a sample above
`warm_max` that classifies as NORMAL finds the constrained or the recovering state. -/
structure RemembersConstraint (h : ThermalHistory) (s : ThermalSample) : Prop where
  band : ∀ temp, s.temp = some temp → h.governor.thresholds.recoveryStart ≤ temp.value →
    ¬ h.Cooled → h.governor.state = .thermallyConstrained ∨ h.governor.thresholds.Tops temp
  normal : ∀ temp, s.temp = some temp → h.governor.thresholds.warmMax.value < temp.value →
    ¬ h.Warmed → h.governor.thresholds.coolMax.value ≤ temp.value →
      temp.value < h.governor.thresholds.normalMax.value →
        h.governor.state = .thermallyConstrained ∨ h.governor.state = .recovering

/-- What holds of the state until the recovery has begun, and until it has ended. -/
structure Recovering (h : ThermalHistory) : Prop where
  band : ¬ h.Cooled → h.governor.state = .thermallyConstrained ∨ h.governor.state = .unknown
  normal : ¬ h.Warmed → h.governor.state ≠ .normal

theorem cooled_observe {s : ThermalSample} : (h.observe s).Cooled ↔ h.Cooled ∨
    ∃ temp, s.temp = some temp ∧ temp.value < h.governor.thresholds.recoveryStart := by
  unfold Cooled
  rw [h.thresholds_observe s]
  show (∃ temp, some temp ∈ s.temp :: h.seen ∧ _) ↔ _
  simp only [List.mem_cons, or_and_right, exists_or, eq_comm (a := some _)]
  exact or_comm

theorem warmed_observe {s : ThermalSample} : (h.observe s).Warmed ↔ h.Warmed ∨
    ∃ temp, s.temp = some temp ∧ temp.value ≤ h.governor.thresholds.warmMax.value := by
  unfold Warmed
  rw [h.thresholds_observe s]
  show (∃ temp, some temp ∈ s.temp :: h.seen ∧ _) ↔ _
  simp only [List.mem_cons, or_and_right, exists_or, eq_comm (a := some _)]
  exact or_comm

namespace Recovering

variable {s : ThermalSample}

/-- Before the recovery has begun, a sample in the recovery band gives a normal state
exactly when the constrained state was forgotten. -/
theorem band_iff (recovering : h.Recovering) {temp : Celsius} (present : s.temp = some temp)
    (above : h.governor.thresholds.recoveryStart ≤ temp.value) (notCooled : ¬ h.Cooled) :
    (h.observe s).governor.state ∉ [ThermalState.cool, .normal, .warm, .hot] ↔
      h.governor.state = .thermallyConstrained ∨ h.governor.thresholds.Tops temp := by
  have remembered := recovering.band notCooled
  have resolved := h.governor.observe_resolves s.temp s.now
  show (h.governor.observe s.temp s.now).state ∉ _ ↔ _
  rw [present] at resolved ⊢
  generalize (h.governor.observe (some temp) s.now).state = state at resolved ⊢
  generalize (h.governor.observe (some temp) s.now).needConfirm = count at resolved
  cases resolved with
  | stillHot _ held => simp [held]
  | confirmed tops _ _ => simp [tops]
  | counted tops free _ => simp [tops, remembered.resolve_left free]
  | leaving _ _ below => exact absurd below (not_lt.mpr above)
  | heldBack _ held _ => simp [held]
  | recovered _ recovers _ => simp [recovers] at remembered
  | stillRecovering _ recovers _ => simp [recovers] at remembered
  | classified cooler free _ =>
      simp [cooler, free, ThermalGovernor.classifyRaw_of_cooler cooler]

/-- Before the recovery has ended, a sample above `warm_max` reports NORMAL exactly when it
classifies so and the state was forgotten. -/
theorem normal_iff (recovering : h.Recovering) {temp : Celsius} (present : s.temp = some temp)
    (above : h.governor.thresholds.warmMax.value < temp.value) (notWarmed : ¬ h.Warmed) :
    (h.observe s).governor.state ≠ .normal ↔
      (h.governor.thresholds.coolMax.value ≤ temp.value →
        temp.value < h.governor.thresholds.normalMax.value →
          h.governor.state = .thermallyConstrained ∨ h.governor.state = .recovering) := by
  have notNormal := recovering.normal notWarmed
  have resolved := h.governor.observe_resolves s.temp s.now
  show (h.governor.observe s.temp s.now).state ≠ _ ↔ _
  rw [present] at resolved ⊢
  generalize (h.governor.observe (some temp) s.now).state = state at resolved ⊢
  generalize (h.governor.observe (some temp) s.now).needConfirm = count at resolved
  cases resolved with
  | stillHot _ held => simp [held]
  | confirmed tops _ _ => simp [tops.normal.not_gt]
  | counted tops _ _ => simp [notNormal, tops.normal.not_gt]
  | leaving _ held _ => simp [held]
  | heldBack _ held _ => simp [held]
  | recovered _ _ warm => exact absurd warm (not_le.mpr above)
  | stillRecovering _ recovers _ => simp [recovers]
  | classified _ free steady =>
      simp [free, steady, ThermalGovernor.classifyRaw_normal_iff]

/-- A missing sample is reported as UNKNOWN. -/
theorem unknown_of_missing (missing : s.temp = none) :
    (h.observe s).governor.state = .unknown := by
  show (h.governor.observe s.temp s.now).state = _
  rw [missing]
  rfl

/-- One sample respects the recovery exactly when nothing was forgotten before it. -/
theorem respects_iff (recovering : h.Recovering) (s : ThermalSample) :
    h.RespectsRecovery s ↔ h.RemembersConstraint s := by
  constructor
  · intro respects
    constructor
    · intro temp present above notCooled
      exact (recovering.band_iff present above notCooled).mp
        (respects.band temp present above notCooled)
    · intro temp present above notWarmed
      refine (recovering.normal_iff present above notWarmed).mp fun normal => ?_
      rcases warmed_observe.mp (respects.normal normal) with warmed | ⟨other, same, warm⟩
      · exact notWarmed warmed
      · obtain rfl := Option.some.inj (present.symm.trans same)
        exact absurd warm (not_le.mpr above)
  · intro remembers
    constructor
    · intro temp present above notCooled
      exact (recovering.band_iff present above notCooled).mpr
        (remembers.band temp present above notCooled)
    · intro normal
      rw [warmed_observe]
      by_contra others
      obtain ⟨notWarmed, cold⟩ := not_or.mp others
      cases present : s.temp with
      | none => cases (unknown_of_missing present).symm.trans normal
      | some temp =>
          have above := not_le.mp fun warm => cold ⟨temp, present, warm⟩
          exact (recovering.normal_iff present above notWarmed).mpr
            (remembers.normal temp present above notWarmed) normal

/-- Where nothing is forgotten, the state stays remembered. -/
theorem observe (recovering : h.Recovering) (remembers : h.RemembersConstraint s) :
    (h.observe s).Recovering := by
  have respects := (recovering.respects_iff s).mpr remembers
  constructor
  · intro notCooled
    rw [cooled_observe, not_or] at notCooled
    obtain ⟨before, above⟩ := notCooled
    have remembered := recovering.band before
    have resolved := h.governor.observe_resolves s.temp s.now
    show (h.governor.observe s.temp s.now).state = _ ∨
      (h.governor.observe s.temp s.now).state = _
    obtain ⟨sample, now⟩ := s
    dsimp only at resolved above ⊢
    generalize (h.governor.observe sample now).state = state at resolved ⊢
    generalize (h.governor.observe sample now).needConfirm = count at resolved
    cases resolved with
    | missing => exact .inr rfl
    | stillHot _ _ => exact .inl rfl
    | confirmed _ _ _ => exact .inl rfl
    | counted _ _ _ => exact remembered
    | @leaving temp _ _ below => exact absurd ⟨temp, rfl, below⟩ above
    | heldBack _ _ _ => exact .inl rfl
    | recovered _ recovers _ => simp [recovers] at remembered
    | stillRecovering _ recovers _ => simp [recovers] at remembered
    | @classified temp cooler free _ =>
        have inBand := not_lt.mp fun below => above ⟨temp, rfl, below⟩
        exact ((remembers.band temp rfl inBand before).elim free cooler).elim
  · exact fun notWarmed normal => notWarmed (respects.normal normal)

end Recovering

/-- From any constrained state reached, the recovery is respected along a sequence of samples
exactly when nothing is forgotten along it. -/
theorem leaves_constrained_iff (t : ThermalThresholds) (before after : List ThermalSample)
    (constrained : (before.foldl observe (fresh t)).governor.state = .thermallyConstrained) :
    Along observe RespectsRecovery ⟨(before.foldl observe (fresh t)).governor, []⟩ after ↔
      Along observe RemembersConstraint ⟨(before.foldl observe (fresh t)).governor, []⟩ after := by
  refine along_congr_of_invariant Recovering (fun h s holds => holds.respects_iff s)
    (fun h s holds respects => holds.observe ((holds.respects_iff s).mp respects)) ?_ after
  exact ⟨fun _ => .inl constrained, fun _ => constrained.trans_ne (by decide)⟩

/-- Two hot samples constrain the device; the recovery is then respected where nothing is
forgotten. -/
theorem leaves_constrained_iff_hot :
    (Along observe RespectsRecovery ⟨([hotSample, hotSample].foldl observe
        (fresh .standard)).governor, []⟩ [hotSample] ↔
      Along observe RemembersConstraint ⟨([hotSample, hotSample].foldl observe
        (fresh .standard)).governor, []⟩ [hotSample]) :=
  leaves_constrained_iff .standard [hotSample, hotSample] [hotSample] (by decide +kernel)

/-- A device at 82 degrees: below `hot_max`, within the recovery band. -/
def bandSample : ThermalSample := ⟨some ⟨82, by decide +kernel⟩, Timestamp.zero⟩

/-- A missing sample erases the constrained state: the next sample in the recovery band is
reported HOT, although none below it was seen. -/
theorem constraint_forgotten :
    ([hotSample, hotSample].foldl observe (fresh .standard)).governor.state =
        .thermallyConstrained ∧
      ¬ Along observe RespectsRecovery ⟨([hotSample, hotSample].foldl observe
        (fresh .standard)).governor, []⟩ [missingSample, bandSample] := by
  refine ⟨by decide +kernel, fun along => ?_⟩
  obtain ⟨_, respects, _⟩ := along
  refine respects.band ⟨82, by decide +kernel⟩ rfl (by decide +kernel) ?_ (by decide +kernel)
  rintro ⟨temp, member, _⟩
  cases List.mem_singleton.mp member

end ThermalHistory

end PowerGovernor
