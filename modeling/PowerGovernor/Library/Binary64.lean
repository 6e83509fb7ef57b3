import Mathlib.Algebra.Order.Floor.Ring
import Mathlib.Data.Int.Log
import Mathlib.Data.Rat.Floor
import Mathlib.Tactic.FieldSimp
import Mathlib.Tactic.Linarith

/-!
Rounding of exact rationals to binary64.

Owns the nearest integer with ties to even, the rounding of a rational to the nearest
double, the values that are doubles, and the laws of the rounding: it keeps doubles, order
and sign, and maps a sum of doubles on a common grid to itself.

Does not own infinities: a result past the largest finite value is told by `Overflows`.
-/

set_option autoImplicit false

namespace Binary64

/-! ## The nearest integer -/

/-- The integer next to `q`; the even one of two that are equally close. -/
def nearestEven (q : ℚ) : ℤ :=
  if Int.fract q < 1 / 2 ∨ Int.fract q = 1 / 2 ∧ ⌊q⌋ % 2 = 0 then ⌊q⌋ else ⌊q⌋ + 1

@[simp] theorem nearestEven_intCast (n : ℤ) : nearestEven n = n := by
  simp [nearestEven]

theorem floor_le_nearestEven (q : ℚ) : ⌊q⌋ ≤ nearestEven q := by
  unfold nearestEven
  split <;> omega

theorem nearestEven_le_floor_succ (q : ℚ) : nearestEven q ≤ ⌊q⌋ + 1 := by
  unfold nearestEven
  split <;> omega

theorem nearestEven_mono {p q : ℚ} (le : p ≤ q) : nearestEven p ≤ nearestEven q := by
  rcases (Int.floor_le_floor le).lt_or_eq with below | same
  · calc nearestEven p ≤ ⌊p⌋ + 1 := nearestEven_le_floor_succ p
      _ ≤ ⌊q⌋ := below
      _ ≤ nearestEven q := floor_le_nearestEven q
  · have fract : Int.fract p ≤ Int.fract q := by
      unfold Int.fract
      rw [same]
      linarith
    unfold nearestEven
    rw [same]
    split
    case isTrue => split <;> omega
    case isFalse up =>
      rw [if_neg]
      rintro (down | ⟨half, even⟩)
      · exact up (.inl (fract.trans_lt down))
      · rcases (half ▸ fract).lt_or_eq with down | tie
        · exact up (.inl down)
        · exact up (.inr ⟨tie, even⟩)

theorem nearestEven_neg (q : ℚ) : nearestEven (-q) = -nearestEven q := by
  by_cases whole : Int.fract q = 0
  · obtain ⟨n, rfl⟩ : ∃ n : ℤ, (n : ℚ) = q := ⟨⌊q⌋, Int.self_sub_fract q ▸ by rw [whole]; simp⟩
    rw [← Int.cast_neg, nearestEven_intCast, nearestEven_intCast]
  · have fract : Int.fract (-q) = 1 - Int.fract q := Int.fract_neg whole
    have floor : ⌊-q⌋ = -⌊q⌋ - 1 := by
      have parts := Int.floor_add_fract (-q)
      have own := Int.floor_add_fract q
      have cast : ((⌊-q⌋ : ℤ) : ℚ) = ((-⌊q⌋ - 1 : ℤ) : ℚ) := by
        push_cast
        linarith
      exact_mod_cast cast
    unfold nearestEven
    rw [fract, floor]
    rcases lt_trichotomy (Int.fract q) (1 / 2) with down | tie | up
    · rw [if_neg, if_pos (.inl down)]
      · ring
      · rintro (other | ⟨other, _⟩) <;> linarith
    · by_cases even : ⌊q⌋ % 2 = 0
      · rw [if_neg, if_pos (.inr ⟨tie, even⟩)]
        · ring
        · rintro (other | ⟨_, odd⟩)
          · linarith
          · omega
      · rw [if_pos, if_neg]
        · ring
        · rintro (other | ⟨_, other⟩)
          · linarith
          · exact even other
        · exact .inr ⟨by linarith, by omega⟩
    · rw [if_pos, if_neg]
      · ring
      · rintro (other | ⟨other, _⟩) <;> linarith
      · exact .inl (by linarith)

/-! ## Rounding -/

/-- The exponent of the last place of a double next to `q`. -/
def lastPlace (q : ℚ) : ℤ := max (Int.log 2 |q| - 52) (-1074)

/-- The double nearest to `q`, without a bound on the exponent. -/
def round (q : ℚ) : ℚ := nearestEven (q / 2 ^ lastPlace q) * 2 ^ lastPlace q

/-- The largest finite double. -/
def largest : ℚ := (2 ^ 53 - 1) * 2 ^ 971

/-- The result `q` is rounded to an infinity. -/
def Overflows (q : ℚ) : Prop := largest < |round q|

instance (q : ℚ) : Decidable (Overflows q) := inferInstanceAs (Decidable (largest < |round q|))

/-- `q` is a finite double, up to the bound on the exponent. -/
def IsDouble (q : ℚ) : Prop := ∃ m e : ℤ, |m| < 2 ^ 53 ∧ -1074 ≤ e ∧ q = m * 2 ^ e

private theorem place_pos (e : ℤ) : (0 : ℚ) < 2 ^ e := zpow_pos (by norm_num) e

@[simp] theorem round_zero : round 0 = 0 := by simp [round, nearestEven]

theorem lastPlace_neg (q : ℚ) : lastPlace (-q) = lastPlace q := by
  rw [lastPlace, abs_neg, lastPlace]

theorem round_neg (q : ℚ) : round (-q) = -round q := by
  rw [round, lastPlace_neg, neg_div, nearestEven_neg, Int.cast_neg, neg_mul, round]

/-- A multiple of the last place bounds the rounding as it bounds the value. -/
theorem round_le_of_le {q bound : ℚ} (n : ℤ) (multiple : bound = n * 2 ^ lastPlace q)
    (le : q ≤ bound) : round q ≤ bound := by
  have scaled : q / 2 ^ lastPlace q ≤ (n : ℚ) := by
    rw [div_le_iff₀ (place_pos _), ← multiple]
    exact le
  have nearest := nearestEven_mono scaled
  rw [nearestEven_intCast] at nearest
  rw [round, multiple]
  exact mul_le_mul_of_nonneg_right (Int.cast_le.mpr nearest) (place_pos _).le

theorem le_round_of_le {q bound : ℚ} (n : ℤ) (multiple : bound = n * 2 ^ lastPlace q)
    (le : bound ≤ q) : bound ≤ round q := by
  have flipped : -bound = ((-n : ℤ) : ℚ) * 2 ^ lastPlace (-q) := by
    rw [lastPlace_neg, multiple]
    push_cast
    ring
  have negated := round_le_of_le (-n) flipped (neg_le_neg le)
  rw [round_neg] at negated
  exact neg_le_neg_iff.mp negated

theorem multiple_of_le {a b : ℤ} (le : a ≤ b) (m : ℤ) :
    ((m * 2 ^ (b - a).toNat : ℤ) : ℚ) * 2 ^ a = m * 2 ^ b := by
  have exponent : b = ((b - a).toNat : ℤ) + a := by omega
  push_cast
  rw [mul_assoc]
  congr 1
  conv_rhs => rw [exponent, zpow_add₀ (by norm_num), zpow_natCast]

/-- The last place of a double divides it. -/
theorem IsDouble.multiple {q : ℚ} (double : IsDouble q) : ∃ n : ℤ, q = n * 2 ^ lastPlace q := by
  obtain ⟨m, e, small, least, same⟩ := double
  rcases eq_or_ne q 0 with zero | nonzero
  · exact ⟨0, by simp [zero]⟩
  · have positive : 0 < |q| := abs_pos.mpr nonzero
    have below : |q| < 2 ^ (e + 53) := by
      have cast : |(m : ℚ)| < 2 ^ 53 := by exact_mod_cast small
      rw [same, abs_mul, abs_of_pos (place_pos e), add_comm, zpow_add₀ (by norm_num)]
      exact mul_lt_mul_of_pos_right (by exact_mod_cast cast) (place_pos e)
    have log := (Int.lt_zpow_iff_log_lt (R := ℚ) (b := 2) (by norm_num) positive).mp
      (by exact_mod_cast below)
    have place : lastPlace q ≤ e := max_le (by omega) least
    exact ⟨_, same.trans (multiple_of_le place m).symm⟩

/-- A double is its own rounding. -/
theorem round_eq_self {q : ℚ} (double : IsDouble q) : round q = q := by
  obtain ⟨n, multiple⟩ := double.multiple
  exact le_antisymm (round_le_of_le n multiple le_rfl) (le_round_of_le n multiple le_rfl)

theorem round_nonneg {q : ℚ} (nonneg : 0 ≤ q) : 0 ≤ round q :=
  le_round_of_le 0 (by simp) nonneg

private theorem round_mono_of_pos {p q : ℚ} (positive : 0 < p) (le : p ≤ q) :
    round p ≤ round q := by
  have positive' := positive.trans_le le
  have logs : Int.log 2 |p| ≤ Int.log 2 |q| := by
    rw [abs_of_pos positive, abs_of_pos positive']
    exact Int.log_mono_right positive le
  rcases (max_le_max_right (-1074) (sub_le_sub_right logs 52)).lt_or_eq with below | same
  · -- A power of two lies between them, and it is a multiple of both last places.
    let k := Int.log 2 |q|
    have place : lastPlace q = k - 52 := by
      unfold lastPlace at *
      omega
    have inner : lastPlace p < k - 52 := by
      unfold lastPlace at *
      omega
    have upper : p < 2 ^ k := by
      have bound := Int.lt_zpow_succ_log_self (b := 2) (by norm_num) |p|
      rw [abs_of_pos positive] at bound
      have exponent : Int.log 2 |p| + 1 ≤ k := by
        unfold lastPlace at *
        omega
      rw [abs_of_pos positive] at exponent
      calc p < 2 ^ (Int.log 2 p + 1) := by exact_mod_cast bound
        _ ≤ 2 ^ k := zpow_le_zpow_right₀ (by norm_num) exponent
    have lower : 2 ^ k ≤ q := by
      have bound := Int.zpow_log_le_self (b := 2) (r := |q|) (by norm_num)
        (abs_pos.mpr positive'.ne')
      rw [abs_of_pos positive'] at bound
      change (2 : ℚ) ^ Int.log 2 |q| ≤ q
      rw [abs_of_pos positive']
      exact_mod_cast bound
    have multiples : ∀ e ≤ k, ∃ n : ℤ, (2 : ℚ) ^ k = n * 2 ^ e := by
      intro e least
      exact ⟨_, by rw [multiple_of_le least 1]; simp⟩
    obtain ⟨n, first⟩ := multiples (lastPlace p) (by omega)
    obtain ⟨m, second⟩ := multiples (lastPlace q) (by omega)
    exact (round_le_of_le n first upper.le).trans (le_round_of_le m second lower)
  · have places : lastPlace p = lastPlace q := same
    rw [round, round, places]
    exact mul_le_mul_of_nonneg_right (Int.cast_le.mpr (nearestEven_mono
      ((div_le_div_iff_of_pos_right (place_pos _)).mpr le))) (place_pos _).le

theorem round_mono {p q : ℚ} (le : p ≤ q) : round p ≤ round q := by
  rcases lt_trichotomy 0 p with positive | rfl | negative
  · exact round_mono_of_pos positive le
  · rw [round_zero]
    exact round_nonneg le
  · rcases le_or_gt 0 q with nonneg | below
    · have flipped := round_nonneg (neg_nonneg.mpr negative.le)
      rw [round_neg] at flipped
      exact (neg_nonneg.mp flipped).trans (round_nonneg nonneg)
    · have flipped := round_mono_of_pos (neg_pos.mpr below) (neg_le_neg le)
      rw [round_neg, round_neg] at flipped
      exact neg_le_neg_iff.mp flipped

/-- A double bounds the rounding as it bounds the value. -/
theorem round_le {q bound : ℚ} (double : IsDouble bound) (le : q ≤ bound) : round q ≤ bound :=
  (round_mono le).trans_eq (round_eq_self double)

theorem le_round {q bound : ℚ} (double : IsDouble bound) (le : bound ≤ q) : bound ≤ round q :=
  (round_eq_self double).symm.trans_le (round_mono le)

/-- What was rounded is a double. -/
theorem isDouble_round (q : ℚ) : IsDouble (round q) := by
  have least : -1074 ≤ lastPlace q := le_max_right _ _
  have size : |q| ≤ 2 ^ 53 * 2 ^ lastPlace q := by
    have bound := Int.lt_zpow_succ_log_self (b := 2) (by norm_num) |q|
    have exponent : Int.log 2 |q| + 1 ≤ 53 + lastPlace q := by
      have left := le_max_left (Int.log 2 |q| - 52) (-1074)
      unfold lastPlace
      omega
    calc |q| ≤ 2 ^ (Int.log 2 |q| + 1) := by exact_mod_cast bound.le
      _ ≤ 2 ^ (53 + lastPlace q) := zpow_le_zpow_right₀ (by norm_num) exponent
      _ = 2 ^ 53 * 2 ^ lastPlace q := by rw [zpow_add₀ (by norm_num)]; norm_cast
  obtain ⟨lower, upper⟩ := abs_le.mp size
  have above : nearestEven (q / 2 ^ lastPlace q) ≤ 2 ^ 53 := by
    have scaled : q / 2 ^ lastPlace q ≤ ((2 ^ 53 : ℤ) : ℚ) := by
      rw [div_le_iff₀ (place_pos _)]
      push_cast
      exact upper
    exact (nearestEven_mono scaled).trans_eq (nearestEven_intCast _)
  have below : -2 ^ 53 ≤ nearestEven (q / 2 ^ lastPlace q) := by
    have scaled : ((-2 ^ 53 : ℤ) : ℚ) ≤ q / 2 ^ lastPlace q := by
      rw [le_div_iff₀ (place_pos _)]
      push_cast
      linarith
    exact (nearestEven_intCast _).symm.trans_le (nearestEven_mono scaled)
  have next : (2 : ℚ) ^ (lastPlace q + 1) = 2 * 2 ^ lastPlace q := by
    rw [zpow_add_one₀ (by norm_num), mul_comm]
  -- The largest integer belongs to the next last place.
  rcases above.lt_or_eq with less | greatest
  · rcases below.lt_or_eq with more | lowest
    · exact ⟨_, lastPlace q, abs_lt.mpr ⟨more, less⟩, least, rfl⟩
    · refine ⟨-2 ^ 52, lastPlace q + 1, by norm_num, by omega, ?_⟩
      rw [round, ← lowest, next]
      push_cast
      ring
  · refine ⟨2 ^ 52, lastPlace q + 1, by norm_num, by omega, ?_⟩
    rw [round, greatest, next]
    push_cast
    ring

theorem round_round (q : ℚ) : round (round q) = round q := round_eq_self (isDouble_round q)

/-! ## The error of a rounding -/

theorem abs_nearestEven_sub_le (q : ℚ) : |(nearestEven q : ℚ) - q| ≤ 1 / 2 := by
  have parts := Int.floor_add_fract q
  have nonneg := Int.fract_nonneg q
  have below := (Int.fract_lt_one q).le
  rw [abs_le]
  unfold nearestEven
  split
  case isTrue down =>
    have half : Int.fract q ≤ 1 / 2 := by
      rcases down with less | ⟨tie, _⟩
      · exact less.le
      · exact tie.le
    constructor <;> linarith
  case isFalse up =>
    have half : 1 / 2 ≤ Int.fract q := not_lt.mp fun less => up (.inl less)
    push_cast
    constructor <;> linarith

/-- A rounding is off by at most half of the last place. -/
theorem abs_round_sub_le (q : ℚ) : |round q - q| ≤ 2 ^ (lastPlace q - 1) := by
  have scaled := abs_nearestEven_sub_le (q / 2 ^ lastPlace q)
  have place := place_pos (lastPlace q)
  have whole : round q - q =
      ((nearestEven (q / 2 ^ lastPlace q) : ℚ) - q / 2 ^ lastPlace q) * 2 ^ lastPlace q := by
    rw [sub_mul, div_mul_cancel₀ q place.ne']
    rfl
  calc |round q - q|
      = |(nearestEven (q / 2 ^ lastPlace q) : ℚ) - q / 2 ^ lastPlace q| * 2 ^ lastPlace q := by
        rw [whole, abs_mul, abs_of_pos place]
    _ ≤ 1 / 2 * 2 ^ lastPlace q := mul_le_mul_of_nonneg_right scaled place.le
    _ = 2 ^ (lastPlace q - 1) := by
        rw [zpow_sub_one₀ (by norm_num)]
        ring

/-- Of two multiples of a place the greater one is a step further. -/
theorem place_step {a b : ℚ} {n m e : ℤ} (left : a = n * 2 ^ e) (right : b = m * 2 ^ e)
    (less : a < b) : a + 2 ^ e ≤ b := by
  have ordered : n + 1 ≤ m := by
    rw [left, right] at less
    exact_mod_cast lt_of_mul_lt_mul_right less (place_pos e).le
  have steps : (n : ℚ) + 1 ≤ m := by exact_mod_cast ordered
  rw [left, right]
  calc (n : ℚ) * 2 ^ e + 2 ^ e = (n + 1) * 2 ^ e := by ring
    _ ≤ m * 2 ^ e := mul_le_mul_of_nonneg_right steps (place_pos e).le

/-- The relative error is at most `2 ^ -53`, except below the least normal double. -/
theorem round_le_add {q : ℚ} (nonneg : 0 ≤ q) : round q ≤ q + q / 2 ^ 53 + 2 ^ (-1075 : ℤ) := by
  have tiny := place_pos (-1075)
  rcases nonneg.eq_or_lt with zero | positive
  · rw [← zero, round_zero]
    linarith
  have error := (abs_le.mp (abs_round_sub_le q)).2
  have share : 0 ≤ q / 2 ^ 53 := by positivity
  rcases max_choice (Int.log 2 |q| - 52) (-1074) with normal | subnormal
  · have size := Int.zpow_log_le_self (b := 2) (by norm_num) (abs_pos.mpr positive.ne')
    have scaled : (2 : ℚ) ^ Int.log 2 |q| ≤ q := by
      rw [abs_of_pos positive] at size ⊢
      exact_mod_cast size
    have place : (2 : ℚ) ^ (lastPlace q - 1) = 2 ^ Int.log 2 |q| / 2 ^ 53 := by
      rw [lastPlace, normal, show Int.log 2 |q| - 52 - 1 = Int.log 2 |q| - 53 by ring,
        zpow_sub₀ (by norm_num)]
      norm_cast
    have relative : (2 : ℚ) ^ (lastPlace q - 1) ≤ q / 2 ^ 53 := by
      rw [place]
      exact div_le_div_of_nonneg_right scaled (by positivity)
    linarith
  · rw [lastPlace, subnormal, show (-1074 : ℤ) - 1 = -1075 by norm_num] at error
    linarith

/-- More than half of the last place is not absorbed. -/
theorem lt_round_add {a t : ℚ} (double : IsDouble a) (more : 2 ^ (lastPlace (a + t) - 1) < t) :
    a < round (a + t) := by
  have positive : 0 < t := (place_pos _).trans more
  have error := (abs_le.mp (abs_round_sub_le (a + t))).1
  have bound := le_round double (show a ≤ a + t by linarith)
  refine lt_of_le_of_ne bound fun same => ?_
  rw [← same] at error
  linarith

theorem lastPlace_mono {p q : ℚ} (positive : 0 < p) (le : p ≤ q) : lastPlace p ≤ lastPlace q := by
  unfold lastPlace
  rw [abs_of_pos positive, abs_of_pos (positive.trans_le le)]
  have log := Int.log_mono_right (b := 2) positive le
  omega

/-- Less than a last place crosses no power of two. -/
theorem lastPlace_add {a t : ℚ} (double : IsDouble a) (positive : 0 < a) (nonneg : 0 ≤ t)
    (less : t < 2 ^ lastPlace a) : lastPlace (a + t) = lastPlace a := by
  have above : a ≤ a + t := by linarith
  have places := lastPlace_mono positive above
  obtain ⟨n, multiple⟩ := double.multiple
  by_contra different
  have logs : Int.log 2 a < Int.log 2 (a + t) ∧ lastPlace a ≤ Int.log 2 (a + t) := by
    unfold lastPlace at places different ⊢
    rw [abs_of_pos positive, abs_of_pos (positive.trans_le above)] at places different
    rw [abs_of_pos positive]
    omega
  obtain ⟨crossed, least⟩ := logs
  have next : a < 2 ^ Int.log 2 (a + t) := by
    have bound := Int.lt_zpow_succ_log_self (b := 2) (by norm_num) a
    calc a < 2 ^ (Int.log 2 a + 1) := by exact_mod_cast bound
      _ ≤ 2 ^ Int.log 2 (a + t) := zpow_le_zpow_right₀ (by norm_num) (by omega)
  have reached : (2 : ℚ) ^ Int.log 2 (a + t) ≤ a + t := by
    have bound := Int.zpow_log_le_self (b := 2) (by norm_num) (positive.trans_le above)
    exact_mod_cast bound
  obtain ⟨d, exponent⟩ := Int.le.dest least
  have power : (2 : ℚ) ^ Int.log 2 (a + t) = ((2 ^ d : ℤ) : ℚ) * 2 ^ lastPlace a := by
    rw [← exponent, add_comm, zpow_add₀ (by norm_num), zpow_natCast]
    push_cast
    rfl
  have step := place_step multiple power next
  linarith

/-- Less than half of the last place is absorbed. -/
theorem round_add_eq_self {a t : ℚ} (double : IsDouble a) (positive : 0 < a) (nonneg : 0 ≤ t)
    (less : t < 2 ^ (lastPlace a - 1)) : round (a + t) = a := by
  have half : (2 : ℚ) ^ lastPlace a = 2 * 2 ^ (lastPlace a - 1) := by
    rw [zpow_sub_one₀ (by norm_num)]
    ring
  have same := lastPlace_add double positive nonneg (by linarith)
  have error := (abs_le.mp (abs_round_sub_le (a + t))).2
  rw [same] at error
  obtain ⟨n, multiple⟩ := double.multiple
  have rounded :
      round (a + t) = (nearestEven ((a + t) / 2 ^ lastPlace a) : ℚ) * 2 ^ lastPlace a := by
    rw [round, same]
  refine le_antisymm (not_lt.mp fun more => ?_) (le_round double (by linarith))
  have step := place_step multiple rounded more
  linarith

/-! ## Exact results -/

/-- A finite result that no rounding changes. -/
def Exact (q : ℚ) : Prop := round q = q ∧ ¬ Overflows q

instance (q : ℚ) : Decidable (Exact q) := inferInstanceAs (Decidable (round q = q ∧ ¬ Overflows q))

theorem two_pow_le_largest : (2 : ℚ) ^ 1023 ≤ largest :=
  calc (2 : ℚ) ^ 1023 = 2 ^ 52 * 2 ^ 971 := pow_add 2 52 971
    _ ≤ largest := mul_le_mul_of_nonneg_right (by norm_num) (pow_nonneg (by norm_num) 971)

/-- A power of two bounds the rounding as it bounds the value. -/
theorem round_le_two_pow {q : ℚ} {n : ℕ} (le : q ≤ 2 ^ n) : round q ≤ 2 ^ n :=
  round_le ⟨1, n, by norm_num, by omega, by simp⟩ le

/-- A small multiple of a power of two is a double. -/
theorem isDouble_mul_two_pow {n : ℕ} (small : n ≤ 2 ^ 50) (e : ℕ) :
    IsDouble ((n : ℚ) * 2 ^ e) ∧ (n : ℚ) * 2 ^ e ≤ 2 ^ (50 + e) := by
  constructor
  · refine ⟨n, e, ?_, by omega, by norm_cast⟩
    rw [abs_of_nonneg (Int.natCast_nonneg _)]
    exact_mod_cast small.trans_lt (by norm_num : 2 ^ 50 < 2 ^ 53)
  · rw [pow_add]
    exact mul_le_mul_of_nonneg_right (by exact_mod_cast small) (pow_nonneg (by norm_num) e)

theorem not_overflows_of_le {q : ℚ} {n : ℕ} (nonneg : 0 ≤ q) (le : q ≤ 2 ^ n)
    (finite : n ≤ 1023) : ¬ Overflows q := by
  unfold Overflows
  rw [abs_of_nonneg (round_nonneg nonneg), not_lt]
  calc round q ≤ 2 ^ n := round_le_two_pow le
    _ ≤ 2 ^ 1023 := pow_le_pow_right₀ (by norm_num) finite
    _ ≤ largest := two_pow_le_largest

theorem IsDouble.exact {q : ℚ} (double : IsDouble q) (bounded : |q| ≤ 2 ^ 1023) : Exact q := by
  have same := round_eq_self double
  refine ⟨same, not_lt.mpr ?_⟩
  rw [same]
  exact bounded.trans two_pow_le_largest

/-! ## Grids -/

/-- One of the first `2 ^ 52` multiples of `2 ^ k`. -/
structure OnGrid (k : ℤ) (q : ℚ) : Prop where
  multiple : ∃ n : ℤ, q = n * 2 ^ k
  nonneg : 0 ≤ q
  below : q < 2 ^ (k + 52)

theorem onGrid_iff {k : ℤ} {q : ℚ} :
    OnGrid k q ↔ Int.fract (q / 2 ^ k) = 0 ∧ 0 ≤ q ∧ q < 2 ^ (k + 52) := by
  have whole : (∃ n : ℤ, q = n * 2 ^ k) ↔ Int.fract (q / 2 ^ k) = 0 := by
    rw [Int.fract_eq_zero_iff]
    refine exists_congr fun n => ?_
    rw [eq_div_iff (place_pos k).ne', eq_comm]
  exact ⟨fun grid => ⟨whole.mp grid.multiple, grid.nonneg, grid.below⟩,
    fun ⟨multiple, nonneg, below⟩ => ⟨whole.mpr multiple, nonneg, below⟩⟩

instance (k : ℤ) (q : ℚ) : Decidable (OnGrid k q) := decidable_of_iff _ onGrid_iff.symm

section Grid

variable {k : ℤ} {a b t : ℚ}

theorem onGrid_zero : OnGrid k 0 := ⟨⟨0, by simp⟩, le_rfl, place_pos _⟩

theorem OnGrid.add (left : OnGrid k a) (right : OnGrid k b) (below : a + b < 2 ^ (k + 52)) :
    OnGrid k (a + b) := by
  obtain ⟨n, first⟩ := left.multiple
  obtain ⟨m, second⟩ := right.multiple
  refine ⟨⟨n + m, ?_⟩, add_nonneg left.nonneg right.nonneg, below⟩
  rw [first, second]
  push_cast
  ring

theorem OnGrid.sub (left : OnGrid k a) (right : OnGrid k b) (le : b ≤ a) : OnGrid k (a - b) := by
  obtain ⟨n, first⟩ := left.multiple
  obtain ⟨m, second⟩ := right.multiple
  have nonneg := right.nonneg
  have below := left.below
  refine ⟨⟨n - m, ?_⟩, sub_nonneg.mpr le, by linarith⟩
  rw [first, second]
  push_cast
  ring

/-- Of two points of a grid the greater one is a step further. -/
theorem OnGrid.step_le (left : OnGrid k a) (right : OnGrid k b) (less : a < b) :
    a + 2 ^ k ≤ b := by
  obtain ⟨n, first⟩ := left.multiple
  obtain ⟨m, second⟩ := right.multiple
  exact place_step first second less

/-- A point of a grid, and the middle between it and the next one, are doubles. -/
theorem OnGrid.isDouble (grid : OnGrid k a) (least : -1073 ≤ k) :
    IsDouble a ∧ IsDouble (a + 2 ^ (k - 1)) := by
  obtain ⟨n, multiple⟩ := grid.multiple
  have nonneg := grid.nonneg
  have below := grid.below
  rw [multiple] at nonneg below
  have bounded : n < 2 ^ 52 := by
    rw [add_comm, zpow_add₀ (by norm_num)] at below
    exact_mod_cast lt_of_mul_lt_mul_right below (place_pos k).le
  have positive : 0 ≤ n := by
    by_contra negative
    have cast : (n : ℚ) < 0 := by exact_mod_cast not_le.mp negative
    exact absurd nonneg (not_le.mpr (mul_neg_of_neg_of_pos cast (place_pos k)))
  have half : (2 : ℚ) ^ k = 2 * 2 ^ (k - 1) := by
    rw [zpow_sub_one₀ (by norm_num)]
    ring
  refine ⟨⟨n, k, ?_, by omega, multiple⟩, ⟨2 * n + 1, k - 1, ?_, by omega, ?_⟩⟩
  · rw [abs_of_nonneg positive]
    omega
  · rw [abs_of_nonneg (by omega)]
    omega
  · rw [multiple, half]
    push_cast
    ring

/-- A difference of points of a grid is a double. -/
theorem isDouble_of_multiple (multiple : ∃ n : ℤ, a = n * 2 ^ k) (below : |a| < 2 ^ (k + 53))
    (least : -1074 ≤ k) : IsDouble a := by
  obtain ⟨n, same⟩ := multiple
  refine ⟨n, k, ?_, least, same⟩
  rw [same, abs_mul, abs_of_pos (place_pos k), add_comm, zpow_add₀ (by norm_num)] at below
  exact_mod_cast lt_of_mul_lt_mul_right below (place_pos k).le

/-- Nothing on a grid of finite doubles is rounded. -/
theorem OnGrid.exact (grid : OnGrid k a) (least : -1073 ≤ k) (finite : k ≤ 971) : Exact a := by
  apply (grid.isDouble least).1.exact
  rw [abs_of_nonneg grid.nonneg]
  calc a ≤ 2 ^ (k + 52) := grid.below.le
    _ ≤ (2 : ℚ) ^ ((1023 : ℕ) : ℤ) := zpow_le_zpow_right₀ (by norm_num) (by omega)
    _ = 2 ^ 1023 := zpow_natCast 2 1023

/-- A tolerance of at most half a step does not decide a comparison on a grid, exactly or
in doubles. -/
theorem OnGrid.add_lt_iff (left : OnGrid k a) (right : OnGrid k b) (nonneg : 0 ≤ t)
    (small : t ≤ 2 ^ (k - 1)) : a + t < b ↔ a < b := by
  refine ⟨fun less => by linarith, fun less => ?_⟩
  have step := left.step_le right less
  have half : (2 : ℚ) ^ k = 2 * 2 ^ (k - 1) := by
    rw [zpow_sub_one₀ (by norm_num)]
    ring
  have positive := place_pos (k - 1)
  linarith

theorem OnGrid.round_add_lt_iff (left : OnGrid k a) (right : OnGrid k b) (least : -1073 ≤ k)
    (nonneg : 0 ≤ t) (small : t ≤ 2 ^ (k - 1)) : round (a + t) < b ↔ a < b := by
  obtain ⟨double, middle⟩ := left.isDouble least
  constructor
  · exact (le_round double (by linarith)).trans_lt
  · intro less
    exact (round_le middle (by linarith)).trans_lt
      ((left.add_lt_iff right (place_pos _).le le_rfl).mpr less)

end Grid

end Binary64
