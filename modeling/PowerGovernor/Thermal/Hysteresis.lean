import PowerGovernor.Thermal

/-!
The thermal hysteresis over sequences of samples.

Owns what one sample does to the state and the confirmation count, the samples seen
beside the state they lead to, and when the constrained state is entered. A missing
sample leaves the count alone, so it does not break a confirmation.
-/

set_option autoImplicit false

namespace PowerGovernor

namespace ThermalThresholds

/-- At or above every threshold: what `classify_raw` calls THERMALLY_CONSTRAINED. -/
structure Tops (t : ThermalThresholds) (temp : Celsius) : Prop where
  cool : t.coolMax.value ≤ temp.value
  normal : t.normalMax.value ≤ temp.value
  warm : t.warmMax.value ≤ temp.value
  hot : t.hotMax.value ≤ temp.value

instance (t : ThermalThresholds) (temp : Celsius) : Decidable (t.Tops temp) :=
  decidable_of_iff (t.coolMax.value ≤ temp.value ∧ t.normalMax.value ≤ temp.value ∧
      t.warmMax.value ≤ temp.value ∧ t.hotMax.value ≤ temp.value)
    ⟨fun ⟨cool, normal, warm, hot⟩ => ⟨cool, normal, warm, hot⟩,
      fun ⟨cool, normal, warm, hot⟩ => ⟨cool, normal, warm, hot⟩⟩

/-- Below this temperature the recovery begins. -/
def recoveryStart (t : ThermalThresholds) : ℚ := t.hotMax.value - t.recoveryMargin.value

/-- The number of consecutive hot samples to confirm. -/
def confirmations (t : ThermalThresholds) : Nat := t.constrainedConfirmCount.toNat

end ThermalThresholds

/-! ## One sample -/

namespace ThermalGovernor

variable {th : ThermalGovernor}

theorem classifyRaw_constrained_iff {temp : Celsius} :
    th.classifyRaw temp.value = .thermallyConstrained ↔ th.thresholds.Tops temp := by
  unfold classifyRaw
  constructor
  · intro raw
    split_ifs at raw with cool normal warm hot
    exact ⟨not_lt.mp cool, not_lt.mp normal, not_lt.mp warm, not_lt.mp hot⟩
  · intro tops
    rw [if_neg tops.cool.not_gt, if_neg tops.normal.not_gt, if_neg tops.warm.not_gt,
      if_neg tops.hot.not_gt]

theorem classifyRaw_normal_iff {temp : Celsius} :
    th.classifyRaw temp.value = .normal ↔ th.thresholds.coolMax.value ≤ temp.value ∧
      temp.value < th.thresholds.normalMax.value := by
  unfold classifyRaw
  split_ifs with cool normal warm hot <;> simp_all

/-- Below some threshold a sample is not classified as constrained. -/
theorem classifyRaw_of_cooler {temp : Celsius} (cooler : ¬ th.thresholds.Tops temp) :
    th.classifyRaw temp.value ∈ [ThermalState.cool, .normal, .warm, .hot] := by
  have raw := mt classifyRaw_constrained_iff.mp cooler
  unfold classifyRaw at raw ⊢
  split_ifs at raw ⊢ <;> simp_all

/-- Everything a sample can do to the state and the confirmation count. -/
inductive Resolves (th : ThermalGovernor) : Option Celsius → ThermalState → Int → Prop where
  | missing : Resolves th none .unknown th.needConfirm
  | stillHot {temp : Celsius} (tops : th.thresholds.Tops temp)
      (held : th.state = .thermallyConstrained) : Resolves th (some temp) .thermallyConstrained 0
  | confirmed {temp : Celsius} (tops : th.thresholds.Tops temp)
      (free : th.state ≠ .thermallyConstrained)
      (enough : th.thresholds.constrainedConfirmCount ≤ th.needConfirm + 1) :
      Resolves th (some temp) .thermallyConstrained 0
  | counted {temp : Celsius} (tops : th.thresholds.Tops temp)
      (free : th.state ≠ .thermallyConstrained)
      (short : th.needConfirm + 1 < th.thresholds.constrainedConfirmCount) :
      Resolves th (some temp) th.state (th.needConfirm + 1)
  | leaving {temp : Celsius} (cooler : ¬ th.thresholds.Tops temp)
      (held : th.state = .thermallyConstrained)
      (below : temp.value < th.thresholds.recoveryStart) : Resolves th (some temp) .recovering 0
  | heldBack {temp : Celsius} (cooler : ¬ th.thresholds.Tops temp)
      (held : th.state = .thermallyConstrained)
      (above : th.thresholds.recoveryStart ≤ temp.value) :
      Resolves th (some temp) .thermallyConstrained 0
  | recovered {temp : Celsius} (cooler : ¬ th.thresholds.Tops temp)
      (recovering : th.state = .recovering) (warm : temp.value ≤ th.thresholds.warmMax.value) :
      Resolves th (some temp) .normal 0
  | stillRecovering {temp : Celsius} (cooler : ¬ th.thresholds.Tops temp)
      (recovering : th.state = .recovering) (hot : th.thresholds.warmMax.value < temp.value) :
      Resolves th (some temp) .recovering 0
  | classified {temp : Celsius} (cooler : ¬ th.thresholds.Tops temp)
      (free : th.state ≠ .thermallyConstrained) (steady : th.state ≠ .recovering) :
      Resolves th (some temp) (th.classifyRaw temp.value) 0

theorem thresholds_observe (th : ThermalGovernor) (temp : Option Celsius) (now : Timestamp) :
    (th.observe temp now).thresholds = th.thresholds := by
  cases temp with
  | none => rfl
  | some temp => rw [observe_some]

theorem observe_resolves (th : ThermalGovernor) (temp : Option Celsius) (now : Timestamp) :
    th.Resolves temp (th.observe temp now).state (th.observe temp now).needConfirm := by
  cases temp with
  | none => exact .missing
  | some temp =>
      rw [observe_some]
      unfold advance
      dsimp only
      split_ifs with raw free enough held below recovering warm
      · exact .confirmed (classifyRaw_constrained_iff.mp raw) free enough
      · exact .counted (classifyRaw_constrained_iff.mp raw) free (not_le.mp enough)
      · have held := not_not.mp free
        rw [held]
        exact .stillHot (classifyRaw_constrained_iff.mp raw) held
      · exact .leaving (mt classifyRaw_constrained_iff.mpr raw) held below
      · rw [held]
        exact .heldBack (mt classifyRaw_constrained_iff.mpr raw) held (not_lt.mp below)
      · exact .recovered (mt classifyRaw_constrained_iff.mpr raw) recovering warm
      · rw [recovering]
        exact .stillRecovering (mt classifyRaw_constrained_iff.mpr raw) recovering (not_le.mp warm)
      · exact .classified (mt classifyRaw_constrained_iff.mpr raw) held recovering

end ThermalGovernor

/-! ## Samples and what they lead to -/

/-- One call of `observe`. -/
structure ThermalSample where
  temp : Option Celsius
  now : Timestamp

/-- A thermal governor beside the temperatures it was fed, the newest first. -/
structure ThermalHistory where
  governor : ThermalGovernor
  seen : List (Option Celsius)

namespace ThermalHistory

def fresh (t : ThermalThresholds) : ThermalHistory := ⟨.construct t, []⟩

def observe (h : ThermalHistory) (s : ThermalSample) : ThermalHistory :=
  ⟨h.governor.observe s.temp s.now, s.temp :: h.seen⟩

@[simp] theorem thresholds_observe (h : ThermalHistory) (s : ThermalSample) :
    (h.observe s).governor.thresholds = h.governor.thresholds :=
  h.governor.thresholds_observe s.temp s.now

/-- An invariant of the observations of one governor holds after every sequence of them. -/
theorem foldl_invariant (Inv : ThermalHistory → Prop)
    (kept : ∀ h s, Inv h → Inv (h.observe s)) {h : ThermalHistory} (holds : Inv h)
    (samples : List ThermalSample) : Inv (samples.foldl observe h) := by
  induction samples generalizing h with
  | nil => exact holds
  | cons s rest inductionHypothesis => exact inductionHypothesis (kept h s holds)

theorem thresholds_foldl (h : ThermalHistory) (samples : List ThermalSample) :
    (samples.foldl observe h).governor.thresholds = h.governor.thresholds :=
  foldl_invariant (fun other => other.governor.thresholds = h.governor.thresholds)
    (fun other s same => (other.thresholds_observe s).trans same) rfl samples

/-! ## Entering the constrained state -/

/-- The last samples, as many as are to confirm. -/
def last (h : ThermalHistory) : List (Option Celsius) :=
  h.seen.take h.governor.thresholds.confirmations

/-- The last samples, as many as are to confirm, were all present and at or above
`hot_max`. -/
structure LastHot (h : ThermalHistory) : Prop where
  enough : h.governor.thresholds.confirmations ≤ h.seen.length
  hot : ∀ sample ∈ h.last, ∃ temp, sample = some temp ∧
    h.governor.thresholds.hotMax.value ≤ temp.value

/-- In a state other than THERMALLY_CONSTRAINED a sample moves it there exactly when it
ends that many consecutive hot samples. -/
def EntersOnConfirmation (h : ThermalHistory) (s : ThermalSample) : Prop :=
  h.governor.state ≠ .thermallyConstrained →
    ((h.observe s).governor.state = .thermallyConstrained ↔ (h.observe s).LastHot)

/-- When a sample completes the count, none of the last samples is missing; and when the
last samples are all at or above `hot_max`, they are at or above the other thresholds
too. -/
structure CountsConsecutive (h : ThermalHistory) (s : ThermalSample) : Prop where
  unbroken : ∀ temp, s.temp = some temp → h.governor.thresholds.Tops temp →
    h.governor.thresholds.constrainedConfirmCount ≤ h.governor.needConfirm + 1 →
      none ∉ (h.observe s).last
  tops : (h.observe s).LastHot → ∀ temp, some temp ∈ (h.observe s).last →
    h.governor.thresholds.Tops temp

end ThermalHistory

/-- The count is the number of hot samples since one that was not, missing samples aside;
outside the constrained state it covers at least the consecutive ones. -/
structure ThermalGovernor.Counted (th : ThermalGovernor) (seen : List (Option Celsius))
    (state : ThermalState) (count : Int) : Prop where
  counted : ∃ recent older, seen = recent ++ older ∧
    (∀ temp, some temp ∈ recent → th.thresholds.Tops temp) ∧
      count = (recent.filter Option.isSome).length
  covers : state ≠ .thermallyConstrained → ∀ recent older, seen = recent ++ older →
    (∀ sample ∈ recent, ∃ temp, sample = some temp ∧ th.thresholds.Tops temp) →
      (recent.length : Int) ≤ count

namespace ThermalGovernor.Counted

variable {th : ThermalGovernor} {seen : List (Option Celsius)} {state : ThermalState}
  {temp : Celsius} {count : Int}

/-- A count that starts anew after a cooler sample, or in the constrained state. -/
theorem reset (ends : state = .thermallyConstrained ∨ ¬ th.thresholds.Tops temp) :
    th.Counted (some temp :: seen) state 0 where
  counted := ⟨[], some temp :: seen, rfl, by simp, rfl⟩
  covers := by
    intro free recent older split tops
    have cooler := ends.resolve_left free
    cases recent with
    | nil => exact Int.le_refl 0
    | cons sample rest =>
        obtain ⟨other, rfl, topped⟩ := tops sample List.mem_cons_self
        obtain rfl : temp = other := by simpa using (List.cons.inj split).1
        exact absurd topped cooler

/-- Every sample keeps the count. -/
theorem resolve (counted : th.Counted seen th.state th.needConfirm) {sample : Option Celsius}
    (resolved : th.Resolves sample state count) : th.Counted (sample :: seen) state count := by
  obtain ⟨⟨recent, older, split, tops, number⟩, covers⟩ := counted
  cases resolved with
  | missing =>
      refine ⟨⟨none :: recent, older, by rw [split]; rfl, ?_, by simpa using number⟩, ?_⟩
      · simpa using tops
      · intro _ recent' older' split' present
        cases recent' with
        | nil => exact number ▸ Int.natCast_nonneg _
        | cons sample rest =>
            obtain ⟨temp, rfl, _⟩ := present sample List.mem_cons_self
            cases (List.cons.inj split').1
  | @counted temp topped free _ =>
      refine ⟨⟨some temp :: recent, older, by rw [split]; rfl, ?_, by simp [number]⟩, ?_⟩
      · simpa [topped] using tops
      · intro _ recent' older' split' present
        cases recent' with
        | nil =>
            rw [number]
            exact Int.natCast_nonneg _
        | cons sample rest =>
            have others := covers free rest older' (List.cons.inj split').2 fun other member =>
              present other (List.mem_cons_of_mem sample member)
            rw [List.length_cons]
            omega
  | stillHot _ _ => exact reset (.inl rfl)
  | confirmed _ _ _ => exact reset (.inl rfl)
  | heldBack _ _ _ => exact reset (.inl rfl)
  | leaving cooler _ _ => exact reset (.inr cooler)
  | recovered cooler _ _ => exact reset (.inr cooler)
  | stillRecovering cooler _ _ => exact reset (.inr cooler)
  | classified cooler _ _ => exact reset (.inr cooler)

end ThermalGovernor.Counted

namespace ThermalHistory

variable {h : ThermalHistory}

def Counted (h : ThermalHistory) : Prop :=
  h.governor.Counted h.seen h.governor.state h.governor.needConfirm

theorem counted_fresh (t : ThermalThresholds) : (fresh t).Counted where
  counted := ⟨[], [], rfl, by simp, rfl⟩
  covers := by
    intro _ recent older split _
    obtain ⟨rfl, _⟩ := List.append_eq_nil_iff.mp split.symm
    exact Int.le_refl 0

theorem Counted.observe (counted : h.Counted) (s : ThermalSample) : (h.observe s).Counted := by
  obtain ⟨counts, covers⟩ :=
    ThermalGovernor.Counted.resolve counted (h.governor.observe_resolves s.temp s.now)
  rw [← h.thresholds_observe s] at counts covers
  exact ⟨counts, covers⟩

/-- Outside the constrained state a sample moves it there exactly when it is at or above
every threshold and completes the count. -/
theorem entered_iff (free : h.governor.state ≠ .thermallyConstrained) {s : ThermalSample} :
    (h.observe s).governor.state = .thermallyConstrained ↔
      ∃ temp, s.temp = some temp ∧ h.governor.thresholds.Tops temp ∧
        h.governor.thresholds.constrainedConfirmCount ≤ h.governor.needConfirm + 1 := by
  have resolved := h.governor.observe_resolves s.temp s.now
  show (h.governor.observe s.temp s.now).state = _ ↔ _
  generalize s.temp = sample at resolved ⊢
  generalize (h.governor.observe sample s.now).state = state at resolved ⊢
  generalize (h.governor.observe sample s.now).needConfirm = count at resolved
  cases resolved with
  | missing => simp
  | stillHot _ held => exact absurd held free
  | confirmed tops _ enough => simp [tops, enough]
  | counted _ _ short => simp [free, short]
  | leaving _ held _ => exact absurd held free
  | heldBack _ held _ => exact absurd held free
  | recovered cooler _ _ => simp [cooler]
  | stillRecovering cooler _ _ => simp [cooler]
  | classified cooler _ _ =>
      simp [cooler, mt ThermalGovernor.classifyRaw_constrained_iff.mp cooler]

/-- Once the count is complete, as many samples were seen, and the present ones of the last
were at or above every threshold. -/
theorem Counted.tops_of_complete (counted : h.Counted) {s : ThermalSample} {temp : Celsius}
    (present : s.temp = some temp) (tops : h.governor.thresholds.Tops temp)
    (complete : h.governor.thresholds.constrainedConfirmCount ≤ h.governor.needConfirm + 1) :
    (h.observe s).governor.thresholds.confirmations ≤ (h.observe s).seen.length ∧
      ∀ other, some other ∈ (h.observe s).last → h.governor.thresholds.Tops other := by
  obtain ⟨recent, older, split, counts, number⟩ := counted.counted
  have some_le := List.length_filter_le Option.isSome recent
  have enough : h.governor.thresholds.confirmations ≤ recent.length + 1 := by
    unfold ThermalThresholds.confirmations
    omega
  have shape : (h.observe s).seen = (some temp :: recent) ++ older := by
    show s.temp :: h.seen = _
    rw [present, split]
    rfl
  unfold last
  rw [h.thresholds_observe s, shape]
  constructor
  · simp only [List.length_append, List.length_cons]
    omega
  · intro other member
    rw [List.take_append_of_le_length (by simpa using enough)] at member
    rcases List.mem_cons.mp (List.mem_of_mem_take member) with same | earlier
    · rwa [Option.some.inj same]
    · exact counts other earlier

/-- Consecutive samples at or above every threshold complete the count. -/
theorem Counted.complete_of_tops (counted : h.Counted)
    (free : h.governor.state ≠ .thermallyConstrained) {s : ThermalSample}
    (confirm : 1 ≤ h.governor.thresholds.constrainedConfirmCount)
    (enough : h.governor.thresholds.confirmations ≤ (h.observe s).seen.length)
    (tops : ∀ sample ∈ (h.observe s).last, ∃ temp, sample = some temp ∧
      h.governor.thresholds.Tops temp) :
    ∃ temp, s.temp = some temp ∧ h.governor.thresholds.Tops temp ∧
      h.governor.thresholds.constrainedConfirmCount ≤ h.governor.needConfirm + 1 := by
  obtain ⟨before, confirmations⟩ : ∃ before, h.governor.thresholds.confirmations = before + 1 :=
    ⟨h.governor.thresholds.confirmations - 1, by unfold ThermalThresholds.confirmations; omega⟩
  have last : (h.observe s).last = s.temp :: h.seen.take before := by
    unfold ThermalHistory.last
    rw [h.thresholds_observe s, confirmations]
    rfl
  rw [last] at tops
  obtain ⟨temp, present, topped⟩ := tops s.temp List.mem_cons_self
  have consecutive := counted.covers free (h.seen.take before) (h.seen.drop before)
    (List.take_append_drop before h.seen).symm fun sample member =>
      tops sample (List.mem_cons_of_mem s.temp member)
  have length : (h.observe s).seen.length = h.seen.length + 1 := rfl
  rw [List.length_take_of_le (by omega)] at consecutive
  refine ⟨temp, present, topped, ?_⟩
  unfold ThermalThresholds.confirmations at confirmations
  omega

/-- The constrained state is entered as the confirmation count says exactly where the count
is one of consecutive hot samples. -/
theorem enters_constrained_iff (t : ThermalThresholds) (confirm : 1 ≤ t.constrainedConfirmCount)
    (samples : List ThermalSample) (s : ThermalSample) :
    (samples.foldl observe (fresh t)).EntersOnConfirmation s ↔
      ((samples.foldl observe (fresh t)).governor.state ≠ .thermallyConstrained →
        (samples.foldl observe (fresh t)).CountsConsecutive s) := by
  have thresholds := thresholds_foldl (fresh t) samples
  have counted := foldl_invariant Counted (fun h s counts => counts.observe s) (counted_fresh t)
    samples
  generalize samples.foldl observe (fresh t) = h at thresholds counted ⊢
  refine forall_congr' fun free => ?_
  rw [entered_iff free]
  constructor
  · intro enters
    constructor
    · intro temp present tops complete missing
      obtain ⟨_, absent, _⟩ := (enters.mp ⟨temp, present, tops, complete⟩).hot none missing
      cases absent
    · intro lastHot other member
      obtain ⟨temp, present, tops, complete⟩ := enters.mpr lastHot
      exact (counted.tops_of_complete present tops complete).2 other member
  · intro consecutive
    constructor
    · rintro ⟨temp, present, tops, complete⟩
      obtain ⟨enough, topped⟩ := counted.tops_of_complete present tops complete
      refine ⟨enough, fun sample member => ?_⟩
      cases sample with
      | none => exact absurd member (consecutive.unbroken temp present tops complete)
      | some other =>
          refine ⟨other, rfl, ?_⟩
          rw [h.thresholds_observe s]
          exact (topped other member).hot
    · intro lastHot
      have enough := lastHot.enough
      rw [h.thresholds_observe s] at enough
      refine counted.complete_of_tops free (thresholds ▸ confirm) enough fun sample member => ?_
      obtain ⟨temp, rfl, _⟩ := lastHot.hot sample member
      exact ⟨temp, rfl, consecutive.tops lastHot temp member⟩

/-- A device at 90 degrees. -/
def hotSample : ThermalSample := ⟨some ⟨90, by decide +kernel⟩, Timestamp.zero⟩

/-- A sample without a temperature. -/
def missingSample : ThermalSample := ⟨none, Timestamp.zero⟩

/-- One hot sample, then a missing one. -/
def gapped : ThermalHistory := [hotSample, missingSample].foldl observe (fresh .standard)

theorem enters_constrained_iff_gapped : gapped.EntersOnConfirmation hotSample ↔
    (gapped.governor.state ≠ .thermallyConstrained → gapped.CountsConsecutive hotSample) :=
  enters_constrained_iff .standard (by decide +kernel) [hotSample, missingSample] hotSample

/-- The default thresholds ask for two consecutive hot samples, and enter the constrained
state on two hot samples with a missing one between them. -/
theorem gapped_confirmation : ThermalThresholds.standard.constrainedConfirmCount = 2 ∧
    ¬ gapped.EntersOnConfirmation hotSample := by
  refine ⟨rfl, fun enters => ?_⟩
  have entered : (gapped.observe hotSample).governor.state = .thermallyConstrained := by
    decide +kernel
  obtain ⟨_, absent, _⟩ := ((enters (by decide +kernel)).mp entered).hot none (by decide +kernel)
  cases absent

end ThermalHistory

end PowerGovernor
