import Mathlib.Data.Finset.Max
import Mathlib.Tactic.Ring
import PowerGovernor.PowerWindow

/-!
The average of a power window.

Owns the runs of accepted records, what such a run retains, and the bounds of the
trapezoidal sum: `average_power` lies between the least and the greatest power retained and
accounts for the integrated energy over the span.
-/

set_option autoImplicit false

namespace PowerGovernor

namespace PowerWindow

variable {w w' : PowerWindow}

/-- Records the samples one after the other, as long as each is accepted. -/
def recordAll : PowerWindow → List PowerSample → Except Fault PowerWindow
  | w, [] => .ok w
  | w, s :: rest =>
    match w.record s.t s.p with
    | (w', .ok _) => w'.recordAll rest
    | (_, .error fault) => .error fault

/-! ## What a run retains -/

/-- The retained samples are the newest of the recorded ones, in order, and at most two or
none older than the capacity. -/
structure Retains (capacity : Duration) (recorded : List PowerSample) (w : PowerWindow) :
    Prop where
  newest : w.samples <:+ recorded
  ordered : w.Ordered
  near : w.samples.length ≤ 2 ∨ ∀ back ∈ w.samples.getLast?, ∀ s ∈ w.samples,
    back.t.ns - s.t.ns ≤ capacity.ns

theorem Retains.record {recorded : List PowerSample} (retains : Retains w.capacity recorded w)
    {s : PowerSample} (accepted : w.record s.t s.p = (w', .ok ())) :
    w'.capacity = w.capacity ∧ Retains w.capacity (recorded ++ [s]) w' := by
  have late : ∀ back ∈ w.samples.getLast?, back.t.ns ≤ s.t.ns :=
    ((record_returns_iff retains.ordered).mp (congrArg Prod.snd accepted)).1
  have kept := retains.ordered.record s.t s.p
  rw [accepted] at kept
  rw [record_of_late s.p late] at accepted
  obtain ⟨rfl, ended⟩ := Prod.mk.inj accepted
  refine ⟨rfl, ?_, kept, ?_⟩
  · obtain ⟨dropped, same⟩ := retains.newest
    have grown : w.samples ++ [s] <:+ recorded ++ [s] :=
      ⟨dropped, by rw [← List.append_assoc, same]⟩
    exact (trimLoop_suffix w.capacity s.t _).trans grown
  · refine (near_of_trimLoop (retains.ordered.append late) ended).imp_right ?_
    intro young back last other member
    rw [getLast?_trimLoop, List.getLast?_concat] at last
    obtain rfl := Option.some.inj last
    exact young other member

theorem Retains.recordAll {capacity : Duration} {recorded more : List PowerSample}
    (same : w.capacity = capacity) (retains : Retains capacity recorded w)
    (accepted : w.recordAll more = .ok w') : Retains capacity (recorded ++ more) w' := by
  induction more generalizing w recorded with
  | nil =>
      obtain rfl := Except.ok.inj accepted
      rw [List.append_nil]
      exact retains
  | cons s rest inductionHypothesis =>
      subst same
      unfold PowerWindow.recordAll at accepted
      cases stepped : w.record s.t s.p with
      | mk next ended =>
          rw [stepped] at accepted
          cases ended with
          | error fault => cases accepted
          | ok _ =>
              obtain ⟨capacity, kept⟩ := retains.record stepped
              have whole := inductionHypothesis capacity kept accepted
              rw [List.append_assoc] at whole
              exact whole

/-! ## The trapezoidal sum -/

/-- The seconds between two samples. -/
def secondsBetween (first last : PowerSample) : ℚ := (last.t.ns - first.t.ns : Int) / 1000000000

/-- Between two samples the energy lies between the bounds' own. -/
theorem trapezoid_bounds {low high front second seconds : ℚ} (nonneg : 0 ≤ seconds)
    (first : low ≤ front ∧ front ≤ high) (last : low ≤ second ∧ second ≤ high) :
    low * seconds ≤ 1 / 2 * (front + second) * seconds ∧
      1 / 2 * (front + second) * seconds ≤ high * seconds := by
  constructor
  · exact mul_le_mul_of_nonneg_right (by linarith) nonneg
  · exact mul_le_mul_of_nonneg_right (by linarith) nonneg

/-- Where every power lies between two bounds, the energy lies between theirs over the span. -/
theorem integrate_bounds {samples : List PowerSample} {first last : PowerSample}
    {low high energy : ℚ}
    (fits : samples.Pairwise fun a b => a.t.ns ≤ b.t.ns ∧ b.t.ElapsedFits a.t)
    (bounded : ∀ s ∈ samples, low ≤ s.p.value ∧ s.p.value ≤ high)
    (head : samples.head? = some first) (back : samples.getLast? = some last)
    (summed : integrate samples = .ok energy) :
    low * secondsBetween first last ≤ energy ∧ energy ≤ high * secondsBetween first last := by
  fun_induction integrate samples generalizing first energy with
  | case1 front second rest inductionHypothesis =>
      obtain rfl := Option.some.inj head
      obtain ⟨heads, tail⟩ := List.pairwise_cons.mp fits
      obtain ⟨le, near⟩ := heads second List.mem_cons_self
      obtain ⟨elapsed, returned, ns⟩ := Timestamp.elapsedSince_of_fits le near
      obtain ⟨taken, sameElapsed, summed⟩ := bind_eq_ok.mp summed
      obtain rfl := Except.ok.inj (returned.symm.trans sameElapsed)
      obtain ⟨acc, accumulated, total⟩ := bind_eq_ok.mp summed
      obtain rfl := Except.ok.inj total
      obtain ⟨below, above⟩ := inductionHypothesis tail
        (fun s member => bounded s (List.mem_cons_of_mem front member)) rfl
        (by rwa [List.getLast?_cons_cons] at back) accumulated
      have seconds : 0 ≤ elapsed.secondsF :=
        div_nonneg (Int.cast_nonneg elapsed.nonneg) (by norm_num)
      have split : secondsBetween front last = elapsed.secondsF + secondsBetween second last := by
        unfold secondsBetween Duration.secondsF
        rw [ns]
        push_cast
        ring
      obtain ⟨least, most⟩ := trapezoid_bounds seconds (bounded front List.mem_cons_self)
        (bounded second (List.mem_cons_of_mem front List.mem_cons_self))
      rw [split]
      constructor
      · linarith
      · linarith
  | case2 samples short =>
      obtain rfl := Except.ok.inj summed
      cases samples with
      | nil => cases head
      | cons front rest =>
          cases rest with
          | cons second rest => exact absurd rfl (short front second rest)
          | nil =>
              obtain rfl := Option.some.inj head
              obtain rfl : front = last := by simpa using back
              have none : secondsBetween front front = 0 := by
                unfold secondsBetween
                rw [sub_self, Int.cast_zero, zero_div]
              rw [none, mul_zero, mul_zero]
              exact ⟨le_refl 0, le_refl 0⟩

/-! ## The average -/

theorem integratedEnergyUs_eq {energy : ℚ} (summed : integrate w.samples = .ok energy)
    (nonneg : 0 ≤ energy) : w.integratedEnergyUs = .ok ⟨energy, nonneg⟩ := by
  unfold integratedEnergyUs
  rw [noexcept_eq_ok, summed]
  exact Quantity.construct_eq_ok.mpr rfl

/-- The average over retained samples lies where their powers do, and is the energy over the
span. -/
theorem average_within (ordered : w.Ordered) (spans : w.Spans) {low high : ℚ}
    (nonempty : w.samples ≠ [])
    (bounded : ∀ s ∈ w.samples, low ≤ s.p.value ∧ s.p.value ≤ high) :
    ∃ average span, ∃ energy : Joules, w.averagePower = .ok average ∧ w.spanSeconds = .ok span ∧
      w.integratedEnergyUs = .ok energy ∧ (low ≤ average ∧ average ≤ high) ∧
      (0 < span → average * span = energy.value) := by
  have fits := pairwise_fits ordered spans
  obtain ⟨energy, summed, nonneg⟩ := integrate_of_fits fits
  have joules := integratedEnergyUs_eq summed nonneg
  unfold Spans at spans
  cases shape : w.samples with
  | nil => exact absurd shape nonempty
  | cons front rest =>
      rw [shape] at fits summed spans bounded
      cases rest with
      | nil =>
          refine ⟨front.p.value, 0, _, ?_, ?_, joules, bounded front List.mem_cons_self, ?_⟩
          · unfold averagePower
            rw [shape]
            rfl
          · unfold spanSeconds
            rw [shape]
          · exact fun positive => absurd positive (lt_irrefl 0)
      | cons second rest =>
          obtain ⟨back, last⟩ : ∃ back, (front :: second :: rest).getLast? = some back :=
            ⟨_, List.getLast?_eq_some_getLast (List.cons_ne_nil front (second :: rest))⟩
          obtain ⟨elapsed, returned⟩ := Timestamp.elapsedSince_returns_iff.mpr
            (spans front rfl back last)
          obtain ⟨span, average⟩ := averagePower_eq shape last summed nonneg returned
          obtain ⟨below, above⟩ := integrate_bounds fits bounded rfl last summed
          have seconds : secondsBetween front back = elapsed.secondsF := by
            have order := le_last (fits.imp And.left) last (List.mem_cons_self (a := front))
            unfold secondsBetween Duration.secondsF
            rw [Timestamp.elapsedSince_eq_ok.mp returned, max_eq_right (by omega)]
          rw [seconds] at below above
          refine ⟨_, _, _, average, span, joules, ?_, ?_⟩
          · split
            · exact bounded _ (List.mem_of_getLast? last)
            · rename_i positive
              have positive := not_le.mp positive
              exact ⟨(le_div_iff₀ positive).mpr below, (div_le_iff₀ positive).mpr above⟩
          · intro positive
            rw [if_neg (not_le.mpr positive)]
            exact div_mul_cancel₀ energy (ne_of_gt positive)

/-- The average lies between the least and the greatest power retained, and accounts for the
integrated energy over the span. -/
def AverageIsTrue (w : PowerWindow) : Prop :=
  ∃ low ∈ w.samples, ∃ high ∈ w.samples,
    (∀ s ∈ w.samples, low.p.value ≤ s.p.value ∧ s.p.value ≤ high.p.value) ∧
      ∃ average span, ∃ energy : Joules, w.averagePower = .ok average ∧ w.spanSeconds = .ok span ∧
        w.integratedEnergyUs = .ok energy ∧
        (low.p.value ≤ average ∧ average ≤ high.p.value) ∧
        (0 < span → average * span = energy.value)

/-- In every run of accepted records at times that a `Duration` reaches from the epoch, the
window retains the newest samples, and its average is a true one. -/
theorem windowed_average_is_true (capacity : Duration) (recorded : List PowerSample)
    (near : ∀ s ∈ recorded, 0 ≤ s.t.ns ∧ s.t.ns ≤ kMaxNs)
    (accepted : (construct capacity).recordAll recorded = .ok w) :
    Retains capacity recorded w ∧ (w.samples ≠ [] → w.AverageIsTrue) := by
  have fresh : Retains capacity [] (construct capacity) :=
    ⟨List.suffix_rfl, List.Pairwise.nil, .inl (Nat.zero_le 2)⟩
  have retains := fresh.recordAll rfl accepted
  refine ⟨retains, fun nonempty => ?_⟩
  have spans : w.Spans := by
    intro front first back last
    have early := near front (retains.newest.subset (List.mem_of_mem_head? first))
    have late := near back (retains.newest.subset (List.mem_of_getLast? last))
    unfold Timestamp.ElapsedFits
    omega
  have some : w.samples.toFinset.Nonempty := List.toFinset_nonempty_iff _ |>.mpr nonempty
  obtain ⟨low, lowMember, least⟩ := w.samples.toFinset.exists_min_image (·.p.value) some
  obtain ⟨high, highMember, greatest⟩ := w.samples.toFinset.exists_max_image (·.p.value) some
  have bounded : ∀ s ∈ w.samples, low.p.value ≤ s.p.value ∧ s.p.value ≤ high.p.value :=
    fun s member => ⟨least s (List.mem_toFinset.mpr member),
      greatest s (List.mem_toFinset.mpr member)⟩
  exact ⟨low, List.mem_toFinset.mp lowMember, high, List.mem_toFinset.mp highMember, bounded,
    average_within retains.ordered spans nonempty bounded⟩

/-- A sample of so many watts after so many seconds. -/
def sampleAt (seconds : Fin 10) (watts : Nat) : PowerSample :=
  ⟨⟨seconds * 1000000000, by omega, by omega⟩, ⟨watts, Nat.cast_nonneg watts⟩⟩

/-- Of four samples one second apart a window of a second retains the last two. -/
theorem windowed_average_is_true_trimmed :
    (⟨⟨1000000000, by decide, by decide⟩, [sampleAt 3 10, sampleAt 4 30],
      ⟨30, by decide +kernel⟩⟩ : PowerWindow).AverageIsTrue := by
  refine (windowed_average_is_true ⟨1000000000, by decide, by decide⟩
    [sampleAt 1 20, sampleAt 2 20, sampleAt 3 10, sampleAt 4 30] ?_ ?_).2 ?_
  · decide
  · decide +kernel
  · decide

end PowerWindow

end PowerGovernor
