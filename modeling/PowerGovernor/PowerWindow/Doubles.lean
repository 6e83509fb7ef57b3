import PowerGovernor.PowerWindow
import PowerGovernor.Units.Arithmetic

/-!
The average of a power window in doubles.

Owns the sum and the product of doubles with their infinities and NaN, the trapezoidal
sum and the average as the code computes them, and the exact condition under which the
average is finite. Two readings may add up to an infinity, and so may the energy.
-/

set_option autoImplicit false

namespace PowerGovernor

open Binary64 (Overflows)

/-! ## Results that may be infinite -/

namespace Double

/-- The double that a finite exact result is rounded to. -/
def rounded (q : ℚ) : Double :=
  if Overflows q then .infinite (decide (q < 0)) else .finite (Binary64.round q)

def add : Double → Double → Double
  | .finite a, .finite b => rounded (a + b)
  | .infinite negative, .infinite negative' =>
    if negative = negative' then .infinite negative else .nan
  | .infinite negative, .finite _ | .finite _, .infinite negative => .infinite negative
  | .nan, _ | _, .nan => .nan

def mul : Double → Double → Double
  | .finite a, .finite b => rounded (a * b)
  | .infinite negative, .infinite negative' => .infinite (negative != negative')
  | .infinite negative, .finite v | .finite v, .infinite negative =>
    if v = 0 then .nan else .infinite (negative != decide (v < 0))
  | .nan, _ | _, .nan => .nan

def isFinite : Double → Bool
  | .finite _ => true
  | .infinite _ | .nan => false

variable {x y : Double} {q : ℚ}

theorem rounded_of_fits (fits : ¬ Overflows q) : rounded q = .finite (Binary64.round q) :=
  if_neg fits

theorem rounded_of_overflows (overflows : Overflows q) : (rounded q).isFinite = false := by
  rw [rounded, if_pos overflows]
  rfl

/-- A sum is finite only if both parts are. -/
theorem isFinite_add (finite : (x.add y).isFinite = true) :
    x.isFinite = true ∧ y.isFinite = true := by
  cases x <;> cases y
  case finite.finite => exact ⟨rfl, rfl⟩
  case infinite.infinite =>
      unfold add at finite
      dsimp only at finite
      split_ifs at finite <;> cases finite
  all_goals cases finite

theorem isFinite_mul (finite : (x.mul y).isFinite = true) :
    x.isFinite = true ∧ y.isFinite = true := by
  cases x <;> cases y
  case finite.finite => exact ⟨rfl, rfl⟩
  case finite.infinite | infinite.finite =>
      unfold mul at finite
      dsimp only at finite
      split_ifs at finite <;> cases finite
  all_goals cases finite

end Double

/-- A unit takes no infinity and no NaN. -/
theorem isFinite_of_validateUnit {unit : UnitTag} {x : Double} {v : ℚ}
    (taken : validateUnit unit x = .ok v) : x.isFinite = true := by
  cases x with
  | finite v => rfl
  | infinite negative => cases taken
  | nan => cases taken

/-! ## The trapezoidal sum -/

/-- `seconds_f`: the conversion and the division round. -/
def Duration.secondsDouble (d : Duration) : ℚ :=
  Binary64.round (Binary64.round d.ns / 1000000000)

namespace PowerSample

/-- The mean of two readings, which add up to a finite double. -/
def meanTo (first second : PowerSample) : ℚ :=
  Binary64.round (1 / 2 * Binary64.round (first.p.value + second.p.value))

theorem meanTo_nonneg (first second : PowerSample) : 0 ≤ first.meanTo second := by
  have power : 0 ≤ first.p.value + second.p.value := add_nonneg first.p.nonneg second.p.nonneg
  exact Binary64.round_nonneg (mul_nonneg (by norm_num) (Binary64.round_nonneg power))

end PowerSample

namespace PowerWindow

variable {w : PowerWindow}

/-- The trapezoidal sum of `integrated_energy_us`, from the sum so far. -/
def integrateInDoubles : Double → List PowerSample → Except Fault Double
  | acc, first :: second :: rest => do
    let elapsed ← second.t.elapsedSince first.t
    let p := Double.mul (.finite (1 / 2)) (.add (.finite first.p.value) (.finite second.p.value))
    integrateInDoubles (acc.add (p.mul (.finite elapsed.secondsDouble))) (second :: rest)
  | acc, _ => .ok acc

/-- `average_power`, which is `noexcept`. -/
def averageInDoubles (w : PowerWindow) : Except Fault Double := noexcept do
  match w.samples, w.samples.getLast? with
  | front :: _ :: _, some back =>
    let e ← validateUnit .joules (← integrateInDoubles (.finite 0) w.samples)
    let elapsed ← back.t.elapsedSince front.t
    if elapsed.secondsDouble ≤ 0 then return .finite back.p.value
    return .rounded (e / elapsed.secondsDouble)
  | front :: _, _ => return .finite front.p.value
  | [], _ => return .finite 0

/-- The time between two samples in seconds. -/
def seconds (first second : PowerSample) : ℚ :=
  Binary64.round (Binary64.round (second.t.ns - first.t.ns : ℤ) / 1000000000)

/-- The sum where no step overflows. -/
def sums : ℚ → List PowerSample → ℚ
  | acc, first :: second :: rest =>
    sums (Binary64.round (acc + Binary64.round (first.meanTo second * seconds first second)))
      (second :: rest)
  | acc, _ => acc

/-- No two readings, no energy between them and no partial sum overflows. -/
def SumsFinitely : ℚ → List PowerSample → Prop
  | acc, first :: second :: rest =>
    ¬ Overflows (first.p.value + second.p.value) ∧
    ¬ Overflows (first.meanTo second * seconds first second) ∧
    ¬ Overflows (acc + Binary64.round (first.meanTo second * seconds first second)) ∧
      SumsFinitely
        (Binary64.round (acc + Binary64.round (first.meanTo second * seconds first second)))
        (second :: rest)
  | _, _ => True

/-- Neither the energy of the readings overflows nor its quotient by the time they span. -/
def FiniteAverage (w : PowerWindow) : Prop :=
  SumsFinitely 0 w.samples ∧ ∀ front ∈ w.samples.head?, ∀ back ∈ w.samples.getLast?,
    0 < seconds front back → ¬ Overflows (sums 0 w.samples / seconds front back)

section Sums

variable {samples : List PowerSample}

/-- Half of a finite double is finite. -/
theorem not_overflows_half {q : ℚ} (nonneg : 0 ≤ q) (fits : ¬ Overflows q) :
    ¬ Overflows (1 / 2 * Binary64.round q) := by
  have whole := Binary64.round_nonneg nonneg
  have less : Binary64.round (1 / 2 * Binary64.round q) ≤ Binary64.round q :=
    Binary64.round_le (Binary64.isDouble_round q) (by linarith)
  have half : 0 ≤ Binary64.round (1 / 2 * Binary64.round q) :=
    Binary64.round_nonneg (by linarith)
  unfold Overflows at fits ⊢
  rw [abs_of_nonneg whole, not_lt] at fits
  rw [abs_of_nonneg half, not_lt]
  exact less.trans fits

/-- A sum that is not finite stays so. -/
theorem integrateInDoubles_of_fits
    (fits : samples.Pairwise fun a b => a.t.ns ≤ b.t.ns ∧ b.t.ElapsedFits a.t) (acc : Double) :
    ∃ e, integrateInDoubles acc samples = .ok e ∧ (e.isFinite = true → acc.isFinite = true) := by
  fun_induction integrateInDoubles acc samples with
  | case1 acc first second rest inductionHypothesis =>
      obtain ⟨heads, tail⟩ := List.pairwise_cons.mp fits
      obtain ⟨le, near⟩ := heads second List.mem_cons_self
      obtain ⟨elapsed, returned, _⟩ := Timestamp.elapsedSince_of_fits le near
      obtain ⟨e, summed, finite⟩ := inductionHypothesis elapsed tail
      rw [returned]
      exact ⟨e, summed, fun whole => (Double.isFinite_add (finite whole)).1⟩
  | case2 => exact ⟨_, rfl, id⟩

/-- A term of the sum is finite exactly where neither the readings nor their energy
overflow. -/
theorem term_cases (first second : PowerSample) (dt : ℚ) :
    let term := ((Double.finite (1 / 2)).mul
      (.add (.finite first.p.value) (.finite second.p.value))).mul (.finite dt)
    (¬ Overflows (first.p.value + second.p.value) ∧ ¬ Overflows (first.meanTo second * dt) ∧
        term = .finite (Binary64.round (first.meanTo second * dt))) ∨
      ((Overflows (first.p.value + second.p.value) ∨ Overflows (first.meanTo second * dt)) ∧
        term.isFinite = false) := by
  intro term
  have power : 0 ≤ first.p.value + second.p.value := add_nonneg first.p.nonneg second.p.nonneg
  by_cases readings : Overflows (first.p.value + second.p.value)
  · refine .inr ⟨.inl readings, Bool.eq_false_iff.mpr fun finite => ?_⟩
    have both := Double.isFinite_mul (Double.isFinite_mul finite).1
    rw [show (Double.add (.finite first.p.value) (.finite second.p.value)).isFinite = false from
      Double.rounded_of_overflows readings] at both
    cases both.2
  have mean : term = .rounded (first.meanTo second * dt) := by
    show Double.mul (Double.mul _ (Double.rounded (first.p.value + second.p.value))) _ = _
    rw [Double.rounded_of_fits readings]
    show Double.mul (Double.rounded (1 / 2 * _)) _ = _
    rw [Double.rounded_of_fits (not_overflows_half power readings)]
    rfl
  by_cases energy : Overflows (first.meanTo second * dt)
  · exact .inr ⟨.inr energy, mean ▸ Double.rounded_of_overflows energy⟩
  · exact .inl ⟨readings, energy, mean ▸ Double.rounded_of_fits energy⟩

/-- Over samples whose elapsed times fit the sum is finite exactly where no step of it
overflows. -/
theorem integrateInDoubles_cases
    (fits : samples.Pairwise fun a b => a.t.ns ≤ b.t.ns ∧ b.t.ElapsedFits a.t) (acc : ℚ) :
    ∃ e, integrateInDoubles (.finite acc) samples = .ok e ∧
      (SumsFinitely acc samples ∧ e = .finite (sums acc samples) ∨
        ¬ SumsFinitely acc samples ∧ e.isFinite = false) := by
  fun_induction sums acc samples with
  | case1 acc first second rest inductionHypothesis =>
      obtain ⟨heads, tail⟩ := List.pairwise_cons.mp fits
      obtain ⟨le, near⟩ := heads second List.mem_cons_self
      obtain ⟨elapsed, returned, value⟩ := Timestamp.elapsedSince_of_fits le near
      have dt : elapsed.secondsDouble = seconds first second := by
        unfold Duration.secondsDouble seconds
        rw [value]
      unfold integrateInDoubles SumsFinitely
      rw [returned]
      dsimp only [bind, Except.bind]
      rw [dt]
      rcases term_cases first second (seconds first second) with
        ⟨readings, energy, term⟩ | ⟨overflows, infinite⟩
      · rw [term]
        by_cases partialSum :
            Overflows (acc + Binary64.round (first.meanTo second * seconds first second))
        · obtain ⟨e, summed, finite⟩ := integrateInDoubles_of_fits tail
            (Double.add (.finite acc)
              (.finite (Binary64.round (first.meanTo second * seconds first second))))
          refine ⟨e, summed, .inr ⟨fun all => all.2.2.1 partialSum, ?_⟩⟩
          exact Bool.eq_false_iff.mpr fun whole =>
            Bool.eq_false_iff.mp (Double.rounded_of_overflows partialSum) (finite whole)
        · have added : Double.add (.finite acc)
              (.finite (Binary64.round (first.meanTo second * seconds first second))) =
                .finite _ := Double.rounded_of_fits partialSum
          rw [added]
          obtain ⟨e, summed, cases⟩ := inductionHypothesis tail
          refine ⟨e, summed, cases.imp (fun done => ?_) fun failed => ?_⟩
          · exact ⟨⟨readings, energy, partialSum, done.1⟩, done.2⟩
          · exact ⟨fun all => failed.1 all.2.2.2, failed.2⟩
      · obtain ⟨e, summed, finite⟩ := integrateInDoubles_of_fits tail (Double.add (.finite acc) _)
        refine ⟨e, summed, .inr ⟨fun all => overflows.elim all.1 all.2.1, ?_⟩⟩
        exact Bool.eq_false_iff.mpr fun whole =>
          Bool.eq_false_iff.mp infinite (Double.isFinite_add (finite whole)).2
  | case2 samples acc short =>
      rcases samples with _ | ⟨first, _ | ⟨second, rest⟩⟩
      · exact ⟨_, rfl, .inl ⟨trivial, rfl⟩⟩
      · exact ⟨_, rfl, .inl ⟨trivial, rfl⟩⟩
      · exact (short first second rest rfl).elim

theorem seconds_nonneg {first second : PowerSample} (le : first.t.ns ≤ second.t.ns) :
    0 ≤ seconds first second := by
  have ns : (0 : ℚ) ≤ (second.t.ns - first.t.ns : ℤ) := Int.cast_nonneg (by omega)
  exact Binary64.round_nonneg (div_nonneg (Binary64.round_nonneg ns) (by norm_num))

theorem seconds_self (first : PowerSample) : seconds first first = 0 := by
  simp [seconds]

theorem sums_nonneg (ordered : samples.Pairwise fun a b => a.t.ns ≤ b.t.ns) {acc : ℚ}
    (nonneg : 0 ≤ acc) : 0 ≤ sums acc samples := by
  fun_induction sums acc samples with
  | case1 acc first second rest inductionHypothesis =>
      obtain ⟨heads, tail⟩ := List.pairwise_cons.mp ordered
      have dt := seconds_nonneg (heads second List.mem_cons_self)
      have energy := Binary64.round_nonneg (mul_nonneg (first.meanTo_nonneg second) dt)
      exact inductionHypothesis tail (Binary64.round_nonneg (add_nonneg nonneg energy))
  | case2 => exact nonneg

end Sums

/-! ## The average -/

/-- An average in doubles is only taken over a window that spans no more than a
`Duration`. -/
theorem spans_of_averageInDoubles {average : Double} (returned : w.averageInDoubles = .ok average) :
    w.Spans := by
  unfold averageInDoubles at returned
  have returned := noexcept_eq_ok.mp returned
  unfold Spans
  cases shape : w.samples with
  | nil => exact fun _ member => nomatch member
  | cons front rest =>
      rintro _ ⟨⟩ back last
      cases rest with
      | nil =>
          obtain rfl : front = back := by simpa using last
          unfold Timestamp.ElapsedFits
          rw [sub_self]
          decide
      | cons second rest =>
          rw [shape] at returned
          have last : (front :: second :: rest).getLast? = some back := last
          rw [last] at returned
          obtain ⟨_, _, returned⟩ := bind_eq_ok.mp returned
          obtain ⟨_, _, returned⟩ := bind_eq_ok.mp returned
          obtain ⟨elapsed, fits, _⟩ := bind_eq_ok.mp returned
          exact Timestamp.elapsedSince_returns_iff.mp ⟨elapsed, fits⟩

/-- Over two samples or more the energy is validated and divided by the span. -/
theorem averageInDoubles_eq (ordered : w.Ordered) (spans : w.Spans)
    {front second back : PowerSample} {rest : List PowerSample}
    (shape : w.samples = front :: second :: rest)
    (last : w.samples.getLast? = some back) {e : Double}
    (summed : integrateInDoubles (.finite 0) w.samples = .ok e) :
    w.averageInDoubles = noexcept (validateUnit .joules e >>= fun energy =>
      if seconds front back ≤ 0 then .ok (.finite back.p.value)
      else .ok (.rounded (energy / seconds front back))) := by
  have order : front.t.ns ≤ back.t.ns :=
    le_last ordered last (shape ▸ List.mem_cons_self)
  obtain ⟨elapsed, returned, value⟩ := Timestamp.elapsedSince_of_fits order
    (spans front (by rw [shape]; rfl) back last)
  have span : elapsed.secondsDouble = seconds front back := by
    unfold Duration.secondsDouble seconds
    rw [value]
  unfold averageInDoubles
  rw [summed, last, shape]
  dsimp only [bind, Except.bind]
  rw [returned]
  dsimp only
  rw [span]
  rfl

/-- A value that is not negative is a reading or an energy. -/
theorem validate_of_nonneg {unit : UnitTag} {v : ℚ} (nonneg : 0 ≤ v)
    (signed : unit = .watts ∨ unit = .joules) : validateUnit unit (.finite v) = .ok v := by
  rw [validateUnit_finite]
  rcases signed with rfl | rfl
  · exact if_pos nonneg
  · exact if_pos nonneg

/-- Over two samples or more it is finite exactly when no step overflows. -/
theorem average_finite_iff (ordered : w.Ordered) (spans : w.Spans)
    {front second back : PowerSample} {rest : List PowerSample}
    (shape : w.samples = front :: second :: rest) (last : w.samples.getLast? = some back) :
    (∃ average v, w.averageInDoubles = .ok average ∧ validateUnit .watts average = .ok v) ↔
      SumsFinitely 0 w.samples ∧
        (0 < seconds front back → ¬ Overflows (sums 0 w.samples / seconds front back)) := by
  obtain ⟨e, summed, outcome⟩ := integrateInDoubles_cases (pairwise_fits ordered spans) 0
  rw [averageInDoubles_eq ordered spans shape last summed]
  rcases outcome with ⟨finite, rfl⟩ | ⟨infinite, unbounded⟩
  · have nonneg := sums_nonneg ordered le_rfl
    rw [validate_of_nonneg nonneg (.inr rfl), and_iff_right finite]
    dsimp only [bind, Except.bind]
    by_cases instant : seconds front back ≤ 0
    · rw [if_pos instant]
      refine iff_of_true ⟨_, _, rfl, validate_of_nonneg back.p.nonneg (.inl rfl)⟩ ?_
      exact fun positive => absurd instant (not_le.mpr positive)
    · rw [if_neg instant]
      have positive := not_le.mp instant
      constructor
      · rintro ⟨average, v, averaged, taken⟩ _ overflows
        obtain rfl := Except.ok.inj averaged
        have whole := isFinite_of_validateUnit taken
        rw [Double.rounded_of_overflows overflows] at whole
        cases whole
      · intro fits
        rw [Double.rounded_of_fits (fits positive)]
        exact ⟨_, _, rfl, validate_of_nonneg
          (Binary64.round_nonneg (div_nonneg nonneg positive.le)) (.inl rfl)⟩
  · refine iff_of_false ?_ fun all => infinite all.1
    rintro ⟨average, v, averaged, _⟩
    obtain ⟨energy, valid, _⟩ := bind_eq_ok.mp (noexcept_eq_ok.mp averaged)
    exact Bool.eq_false_iff.mp unbounded (isFinite_of_validateUnit valid)

/-- The average is a finite double exactly when the window spans no more than a `Duration`
and neither the energy nor its quotient overflows. -/
theorem averageInDoubles_finite_iff (ordered : w.Ordered) :
    (∃ average v, w.averageInDoubles = .ok average ∧ validateUnit .watts average = .ok v) ↔
      w.Spans ∧ w.FiniteAverage := by
  by_cases spans : w.Spans
  case neg =>
    refine iff_of_false ?_ fun both => spans both.1
    rintro ⟨average, v, averaged, _⟩
    exact spans (spans_of_averageInDoubles averaged)
  rw [and_iff_right spans]
  unfold FiniteAverage
  rcases shape : w.samples with _ | ⟨front, _ | ⟨second, rest⟩⟩
  · unfold averageInDoubles
    rw [shape]
    refine iff_of_true ⟨_, _, rfl, validate_of_nonneg le_rfl (.inl rfl)⟩ ⟨trivial, ?_⟩
    rintro _ ⟨⟩
  · unfold averageInDoubles
    rw [shape]
    refine iff_of_true ⟨_, _, rfl, validate_of_nonneg front.p.nonneg (.inl rfl)⟩ ⟨trivial, ?_⟩
    rintro _ ⟨⟩ _ ⟨⟩ positive
    exact absurd (seconds_self front) positive.ne'
  · obtain ⟨back, last⟩ : ∃ back, w.samples.getLast? = some back := by
      rw [shape]
      exact ⟨_, List.getLast?_eq_some_getLast (List.cons_ne_nil _ _)⟩
    rw [average_finite_iff ordered spans shape last, ← shape, last, shape]
    refine and_congr_right fun _ => ?_
    constructor
    · rintro fits _ ⟨⟩ _ ⟨⟩
      exact fits
    · exact fun fits => fits front rfl back rfl

/-! ## Readings of a moderate size -/

section Bounded

variable {samples : List PowerSample}

theorem seconds_le {first second : PowerSample} (le : first.t.ns ≤ second.t.ns)
    (fits : second.t.ElapsedFits first.t) : seconds first second ≤ 2 ^ 63 := by
  have ns : (0 : ℚ) ≤ (second.t.ns - first.t.ns : ℤ) := Int.cast_nonneg (by omega)
  have bounded : ((second.t.ns - first.t.ns : ℤ) : ℚ) ≤ 2 ^ 63 := by
    unfold Timestamp.ElapsedFits kMaxNs at fits
    exact_mod_cast (by omega : second.t.ns - first.t.ns ≤ 2 ^ 63)
  have rounded := Binary64.round_le_two_pow bounded
  have nonneg := Binary64.round_nonneg ns
  exact Binary64.round_le_two_pow (by linarith)

/-- A span of a nanosecond or more is no shorter in doubles than `2 ^ -30` seconds. -/
theorem le_seconds {first second : PowerSample} (le : first.t.ns ≤ second.t.ns)
    (positive : 0 < seconds first second) : (2 ^ 30)⁻¹ ≤ seconds first second := by
  have later : 1 ≤ second.t.ns - first.t.ns := by
    rcases le.lt_or_eq with less | same
    · omega
    · rw [seconds, same, sub_self, Int.cast_zero, Binary64.round_zero, zero_div,
        Binary64.round_zero] at positive
      exact absurd positive (lt_irrefl 0)
  have ns : (1 : ℚ) ≤ (second.t.ns - first.t.ns : ℤ) := by exact_mod_cast later
  have one : Binary64.IsDouble 1 := ⟨1, 0, by norm_num, by norm_num, by norm_num⟩
  have rounded := Binary64.le_round one ns
  refine Binary64.le_round ⟨1, -30, by norm_num, by norm_num, by norm_num⟩ ?_
  rw [inv_eq_one_div, div_le_div_iff₀ (by norm_num) (by norm_num)]
  linarith

/-- Two readings of at most `2 ^ 100` W have a mean of at most that. -/
theorem meanTo_le {first second : PowerSample} (powers : first.p.value + second.p.value ≤ 2 ^ 101) :
    first.meanTo second ≤ 2 ^ 100 := by
  apply Binary64.round_le_two_pow
  calc 1 / 2 * Binary64.round (first.p.value + second.p.value) ≤ 1 / 2 * 2 ^ 101 :=
        mul_le_mul_of_nonneg_left (Binary64.round_le_two_pow powers) (by norm_num)
    _ = 2 ^ 100 := by ring

/-- Readings of at most `2 ^ 100` W in `2 ^ 50` samples or fewer add up to finite doubles. -/
theorem sumsFinitely_of_bounded
    (fits : samples.Pairwise fun a b => a.t.ns ≤ b.t.ns ∧ b.t.ElapsedFits a.t)
    (small : ∀ s ∈ samples, s.p.value ≤ 2 ^ 100) {k : ℕ} (few : k + samples.length ≤ 2 ^ 50)
    {acc : ℚ} (nonneg : 0 ≤ acc) (bounded : acc ≤ k * 2 ^ 163) :
    SumsFinitely acc samples ∧ sums acc samples ≤ 2 ^ 213 := by
  fun_induction sums acc samples generalizing k with
  | case1 acc first second rest inductionHypothesis =>
      obtain ⟨heads, tail⟩ := List.pairwise_cons.mp fits
      obtain ⟨le, near⟩ := heads second List.mem_cons_self
      have power : 0 ≤ first.p.value + second.p.value := add_nonneg first.p.nonneg second.p.nonneg
      have powers : first.p.value + second.p.value ≤ 2 ^ 101 := by
        have one := small first List.mem_cons_self
        have two := small second (List.mem_cons_of_mem first List.mem_cons_self)
        calc first.p.value + second.p.value ≤ 2 ^ 100 + 2 ^ 100 := add_le_add one two
          _ = 2 ^ 101 := by ring
      have mean := meanTo_le powers
      have dt := seconds_le le near
      have time := seconds_nonneg le
      have energy : first.meanTo second * seconds first second ≤ 2 ^ 163 :=
        calc first.meanTo second * seconds first second ≤ 2 ^ 100 * 2 ^ 63 :=
              mul_le_mul mean dt time (by positivity)
          _ = 2 ^ 163 := by ring
      have energies := mul_nonneg (first.meanTo_nonneg second) time
      have term := Binary64.round_le_two_pow energy
      have terms := Binary64.round_nonneg energies
      have next : acc + Binary64.round (first.meanTo second * seconds first second) ≤
          (k + 1 : ℕ) * 2 ^ 163 := by
        push_cast
        linarith
      rw [List.length_cons, List.length_cons] at few
      have count : k + 1 ≤ 2 ^ 50 := by omega
      obtain ⟨double, total⟩ := Binary64.isDouble_mul_two_pow count 163
      have sum := add_nonneg nonneg terms
      obtain ⟨finite, least⟩ := inductionHypothesis tail
        (fun s member => small s (List.mem_cons_of_mem first member))
        (k := k + 1) (by rw [List.length_cons]; omega)
        (Binary64.round_nonneg sum) (Binary64.round_le double next)
      refine ⟨⟨?_, ?_, ?_, finite⟩, least⟩
      · exact Binary64.not_overflows_of_le power powers (by norm_num)
      · exact Binary64.not_overflows_of_le energies energy (by norm_num)
      · exact Binary64.not_overflows_of_le sum (next.trans total) (by norm_num)
  | case2 samples acc short =>
      refine ⟨?_, ?_⟩
      · rcases samples with _ | ⟨first, _ | ⟨second, rest⟩⟩
        · trivial
        · trivial
        · exact (short first second rest rfl).elim
      · exact bounded.trans (Binary64.isDouble_mul_two_pow (le_of_add_le_left few) 163).2

end Bounded

/-- Only readings beyond `2 ^ 100` W, or more than `2 ^ 50` samples, make the average
infinite. -/
theorem finiteAverage_of_bounded (ordered : w.Ordered) (spans : w.Spans)
    (few : w.samples.length ≤ 2 ^ 50) (small : ∀ s ∈ w.samples, s.p.value ≤ 2 ^ 100) :
    w.FiniteAverage := by
  have start : (0 : ℚ) ≤ (0 : ℕ) * 2 ^ 163 := by norm_num
  obtain ⟨finite, total⟩ := sumsFinitely_of_bounded (pairwise_fits ordered spans) small
    (k := 0) (by omega) le_rfl start
  refine ⟨finite, fun front first back last positive => ?_⟩
  have nonneg := sums_nonneg ordered le_rfl
  have span := le_seconds (le_last ordered last (List.mem_of_mem_head? first)) positive
  have quotient : sums 0 w.samples / seconds front back ≤ 2 ^ 243 :=
    calc sums 0 w.samples / seconds front back ≤ 2 ^ 213 / (2 ^ 30)⁻¹ :=
          div_le_div₀ (by positivity) total (by positivity) span
      _ = 2 ^ 243 := by rw [div_inv_eq_mul]; ring
  exact Binary64.not_overflows_of_le (div_nonneg nonneg positive.le) quotient (by norm_num)

end PowerWindow

end PowerGovernor
