import Mathlib.Logic.Function.Iterate
import PowerGovernor.Library.Codec

/-!
Feedback shift registers.

Owns the right-shifting register behind a reflected cyclic redundancy check: its
step, the register after a list of bytes, and the burst rule, by which two lists
that differ within as many bits as the register is wide leave different registers.
-/

set_option autoImplicit false

namespace ShiftRegister

variable {w : Nat}

/-- One shift. The feedback is added when a one falls out. -/
def shift (poly x : BitVec w) : BitVec w :=
  if x.getLsbD 0 then (x >>> 1) ^^^ poly else x >>> 1

/-- The register after some bytes, the low bit of each first. -/
def feed (poly r : BitVec w) (bytes : List UInt8) : BitVec w :=
  bytes.foldl (fun r byte => (shift poly)^[8] (r ^^^ BitVec.ofNat w byte.toNat)) r

variable {poly : BitVec w}

/-! ## The step -/

/-- A shift is linear. -/
theorem shift_xor (x y : BitVec w) : shift poly (x ^^^ y) = shift poly x ^^^ shift poly y := by
  unfold shift
  rw [BitVec.getLsbD_xor, BitVec.ushiftRight_xor_distrib]
  cases x.getLsbD 0 <;> cases y.getLsbD 0
  · rfl
  · exact BitVec.xor_assoc _ _ _
  · show (x >>> 1) ^^^ (y >>> 1) ^^^ poly = (x >>> 1) ^^^ poly ^^^ (y >>> 1)
    rw [BitVec.xor_assoc, BitVec.xor_assoc, BitVec.xor_comm poly]
  · show (x >>> 1) ^^^ (y >>> 1) = (x >>> 1) ^^^ poly ^^^ ((y >>> 1) ^^^ poly)
    rw [BitVec.xor_comm (y >>> 1) poly, ← BitVec.xor_assoc, BitVec.xor_assoc _ poly poly,
      BitVec.xor_self, BitVec.xor_zero]

theorem iterate_shift_xor (n : Nat) (x y : BitVec w) :
    (shift poly)^[n] (x ^^^ y) = (shift poly)^[n] x ^^^ (shift poly)^[n] y := by
  induction n generalizing x y with
  | zero => rfl
  | succ n inductionHypothesis =>
      rw [Function.iterate_succ_apply, Function.iterate_succ_apply, Function.iterate_succ_apply,
        shift_xor, inductionHypothesis]

/-- Only zero is shifted to zero when the feedback sets the highest bit. -/
theorem eq_zero_of_shift (high : poly.getLsbD (w - 1) = true) {x : BitVec w}
    (zero : shift poly x = 0) : x = 0 := by
  have wide : 0 < w := by
    by_contra narrow
    rw [BitVec.getLsbD_of_ge poly _ (by omega)] at high
    cases high
  unfold shift at zero
  cases low : x.getLsbD 0 with
  | true =>
      rw [low, if_pos rfl] at zero
      have top := congrArg (fun y => y.getLsbD (w - 1)) zero
      rw [BitVec.getLsbD_xor, BitVec.getLsbD_ushiftRight, high,
        BitVec.getLsbD_of_ge x _ (by omega)] at top
      simp at top
  | false =>
      rw [low, if_neg Bool.false_ne_true] at zero
      apply BitVec.eq_of_getLsbD_eq
      intro i below
      cases i with
      | zero => simpa using low
      | succ i =>
          have bit := congrArg (fun y => y.getLsbD i) zero
          rw [BitVec.getLsbD_ushiftRight, Nat.add_comm] at bit
          simpa using bit

theorem shift_injective (high : poly.getLsbD (w - 1) = true) :
    Function.Injective (shift poly) := by
  intro x y same
  have difference : shift poly (x ^^^ y) = 0 := by
    rw [shift_xor, same]
    exact BitVec.xor_self
  exact BitVec.xor_eq_zero_iff.mp (eq_zero_of_shift high difference)

/-- Shifting undoes a left shift that loses nothing. -/
theorem iterate_shift_shiftLeft {n : Nat} {y : BitVec w} (fits : y.toNat * 2 ^ n < 2 ^ w) :
    (shift poly)^[n] (y <<< n) = y := by
  induction n with
  | zero => exact BitVec.shiftLeft_zero y
  | succ n inductionHypothesis =>
      have double : y.toNat * 2 ^ (n + 1) = 2 * (y.toNat * 2 ^ n) := by rw [Nat.pow_succ]; ring
      have smaller : y.toNat * 2 ^ n < 2 ^ w := by omega
      have once : shift poly (y <<< (n + 1)) = y <<< n := by
        have low : (y <<< (n + 1)).getLsbD 0 = false := by simp
        unfold shift
        rw [low, if_neg Bool.false_ne_true]
        apply BitVec.eq_of_toNat_eq
        rw [BitVec.toNat_ushiftRight, BitVec.toNat_shiftLeft, BitVec.toNat_shiftLeft,
          Nat.shiftLeft_eq, Nat.shiftLeft_eq, Nat.mod_eq_of_lt fits, Nat.mod_eq_of_lt smaller,
          Nat.shiftRight_eq_div_pow, double]
        omega
      rw [Function.iterate_succ_apply, once]
      exact inductionHypothesis smaller

/-! ## Lists of bytes -/

theorem feed_append (r : BitVec w) (left right : List UInt8) :
    feed poly r (left ++ right) = feed poly (feed poly r left) right :=
  List.foldl_append

/-- Different registers stay different over the same bytes. -/
theorem feed_injective (high : poly.getLsbD (w - 1) = true) (bytes : List UInt8) :
    Function.Injective fun r => feed poly r bytes := by
  induction bytes with
  | nil => exact fun _ _ same => same
  | cons byte rest inductionHypothesis =>
      intro r r' same
      have shifted := (shift_injective high).iterate 8 (inductionHypothesis same)
      exact (BitVec.xor_left_inj _).mp shifted

/-- The low byte of a number beside the rest of it. -/
theorem ofNat_byte_add (byte : UInt8) (n : Nat) :
    BitVec.ofNat w (byte.toNat + 256 * n) =
      BitVec.ofNat w byte.toNat ^^^ (BitVec.ofNat w n <<< 8) := by
  apply BitVec.eq_of_getLsbD_eq
  intro i below
  have low : byte.toNat < 2 ^ 8 := byte.toNat_lt
  rw [BitVec.getLsbD_xor, BitVec.getLsbD_shiftLeft, BitVec.getLsbD_ofNat, BitVec.getLsbD_ofNat,
    BitVec.getLsbD_ofNat, Nat.add_comm, show 256 * n = 2 ^ 8 * n from rfl,
    Nat.testBit_two_pow_mul_add n low]
  by_cases first : i < 8
  · simp [first, below]
  · have above : byte.toNat.testBit i = false :=
      Nat.testBit_lt_two_pow (lt_of_lt_of_le low (Nat.pow_le_pow_right (by omega) (by omega)))
    have inside : i - 8 < w := by omega
    simp [first, below, above, inside]

/-- Bytes that fit the register are fed as the number they stand for. -/
theorem feed_eq_iterate {bytes : List UInt8} (fits : 8 * bytes.length ≤ w) (r : BitVec w) :
    feed poly r bytes =
      (shift poly)^[8 * bytes.length] (r ^^^ BitVec.ofNat w (LittleEndian.decode bytes)) := by
  induction bytes generalizing r with
  | nil => exact (BitVec.xor_zero).symm
  | cons byte rest inductionHypothesis =>
      rw [List.length_cons] at fits
      have small : LittleEndian.decode rest < 2 ^ (8 * rest.length) := by
        have below := LittleEndian.decode_lt rest
        rw [show 256 = 2 ^ 8 from rfl, ← Nat.pow_mul] at below
        exact below
      have bound : (BitVec.ofNat w (LittleEndian.decode rest)).toNat * 2 ^ 8 < 2 ^ w := by
        rw [BitVec.toNat_ofNat]
        calc LittleEndian.decode rest % 2 ^ w * 2 ^ 8
            ≤ LittleEndian.decode rest * 2 ^ 8 := Nat.mul_le_mul_right _ (Nat.mod_le _ _)
          _ < 2 ^ (8 * rest.length) * 2 ^ 8 := Nat.mul_lt_mul_of_pos_right small (by omega)
          _ = 2 ^ (8 * rest.length + 8) := (Nat.pow_add _ _ _).symm
          _ ≤ 2 ^ w := Nat.pow_le_pow_right (by omega) (by omega)
      have entered : (shift poly)^[8] (BitVec.ofNat w (LittleEndian.decode rest) <<< 8) =
          BitVec.ofNat w (LittleEndian.decode rest) := iterate_shift_shiftLeft bound
      calc feed poly r (byte :: rest)
          = (shift poly)^[8 * rest.length] ((shift poly)^[8] (r ^^^ BitVec.ofNat w byte.toNat) ^^^
              BitVec.ofNat w (LittleEndian.decode rest)) := inductionHypothesis (by omega) _
        _ = (shift poly)^[8 * rest.length] ((shift poly)^[8] (r ^^^ BitVec.ofNat w byte.toNat ^^^
              (BitVec.ofNat w (LittleEndian.decode rest) <<< 8))) := by
            rw [iterate_shift_xor 8 _ (BitVec.ofNat w (LittleEndian.decode rest) <<< 8), entered]
        _ = (shift poly)^[8 * (rest.length + 1)]
              (r ^^^ BitVec.ofNat w (LittleEndian.decode (byte :: rest))) := by
            rw [← Function.iterate_add_apply, LittleEndian.decode, ofNat_byte_add,
              BitVec.xor_assoc]
            rfl

/-- The burst rule: what differs within the width of the register leaves different
registers. -/
theorem eq_of_feed_eq (high : poly.getLsbD (w - 1) = true) {before burst burst' rest : List UInt8}
    (length : burst.length = burst'.length) (fits : 8 * burst.length ≤ w) {r : BitVec w}
    (same : feed poly r (before ++ burst ++ rest) = feed poly r (before ++ burst' ++ rest)) :
    burst = burst' := by
  rw [feed_append, feed_append, feed_append, feed_append] at same
  have met : feed poly (feed poly r before) burst = feed poly (feed poly r before) burst' :=
    feed_injective high rest same
  have fits' : 8 * burst'.length ≤ w := by omega
  rw [feed_eq_iterate fits, feed_eq_iterate fits', ← length] at met
  have numbers := (BitVec.xor_right_inj _).mp ((shift_injective high).iterate _ met)
  have below : ∀ bytes : List UInt8, bytes.length = burst.length →
      LittleEndian.decode bytes < 2 ^ w := by
    intro bytes long
    have small := LittleEndian.decode_lt bytes
    rw [show 256 = 2 ^ 8 from rfl, ← Nat.pow_mul, long] at small
    exact lt_of_lt_of_le small (Nat.pow_le_pow_right (by omega) fits)
  have decoded := congrArg BitVec.toNat numbers
  rw [BitVec.toNat_ofNat, BitVec.toNat_ofNat, Nat.mod_eq_of_lt (below burst rfl),
    Nat.mod_eq_of_lt (below burst' length.symm)] at decoded
  exact LittleEndian.decode_injective length decoded

end ShiftRegister
