import PowerGovernor.Budget.Manager
import PowerGovernor.Clock
import PowerGovernor.Library.Codec

/-!
The binary writer and reader.

Owns the field encodings of `BinWriter` and `BinReader`, each pair with its
round trip, and the ways a decoding ends early. A `double` is stored as a whole
number of thousandths. The product and the quotient are rounded to doubles, so
what is read back may differ from a value by a thousandth even where it is the
double of a whole number of thousandths: 1.005 is stored as 1004.
-/

set_option autoImplicit false

namespace PowerGovernor

/-- A reader function returned `false`, or a constructor threw. -/
inductive Exit where
  | rejected
  | threw (fault : Fault)
deriving DecidableEq

/-- A decoding over the rest of the buffer. -/
abbrev BinReader := ByteReader Exit

/-- A constructor called while decoding. -/
def BinReader.construct {α : Type} : Except Fault α → BinReader α
  | .ok a => pure a
  | .error fault => throw (.threw fault)

/-- `return false` under a condition. -/
def BinReader.rejectIf (condition : Prop) [Decidable condition] : BinReader Unit :=
  if condition then throw .rejected else pure ()

/-! ## Thousandths -/

/-- `static_cast<std::int64_t>(v * 1000.0)`, truncating. -/
def toMilli (v : ℚ) : Int :=
  (Binary64.round (v * 1000)).num.tdiv (Binary64.round (v * 1000)).den

/-- `static_cast<double>(n) / 1000.0`. -/
def ofMilli (n : Int) : ℚ := Binary64.round (Binary64.round n / 1000)

/-- What is read is a finite double. -/
theorem exact_ofMilli {n : Int} (low : -9223372036854775808 ≤ n) (high : n < 9223372036854775808) :
    Binary64.Exact (ofMilli n) := by
  have power : Binary64.IsDouble (2 ^ 63) := ⟨1, 63, by norm_num, by norm_num, by norm_num⟩
  have minus : Binary64.IsDouble (-2 ^ 63) := ⟨-1, 63, by norm_num, by norm_num, by norm_num⟩
  have top : (n : ℚ) ≤ 2 ^ 63 := by exact_mod_cast high.le
  have bottom : (-2 ^ 63 : ℚ) ≤ n := by exact_mod_cast low
  have above := Binary64.round_le power top
  have below := Binary64.le_round minus bottom
  have upper : ofMilli n ≤ 2 ^ 63 := Binary64.round_le power (by linarith)
  have lower : -2 ^ 63 ≤ ofMilli n := Binary64.le_round minus (by linarith)
  have size : (2 : ℚ) ^ 63 ≤ 2 ^ 1023 := pow_le_pow_right₀ (by norm_num) (by norm_num)
  exact (Binary64.isDouble_round _).exact ((abs_le.mpr ⟨lower, upper⟩).trans size)

/-- The value is read back as it was written. -/
def Storable (v : ℚ) : Prop := ofMilli (toMilli v) = v

instance (v : ℚ) : Decidable (Storable v) := inferInstanceAs (Decidable (ofMilli (toMilli v) = v))

/-- A storable value is that of a whole number of thousandths, but not the other way round. -/
example : ¬ Storable (ofMilli 1005) ∧ toMilli (ofMilli 1005) = 1004 := by decide +kernel

theorem toMilli_nonneg {v : ℚ} (nonneg : 0 ≤ v) : 0 ≤ toMilli v := by
  apply Int.tdiv_nonneg
  · exact Rat.num_nonneg.mpr (Binary64.round_nonneg (mul_nonneg nonneg (by norm_num)))
  · exact Int.natCast_nonneg _

theorem ofMilli_nonneg {n : Int} (nonneg : 0 ≤ n) : 0 ≤ ofMilli n :=
  Binary64.round_nonneg
    (div_nonneg (Binary64.round_nonneg (Int.cast_nonneg nonneg)) (by norm_num))

theorem truncated_nonneg {v : ℚ} (nonneg : 0 ≤ v) : 0 ≤ ofMilli (toMilli v) :=
  ofMilli_nonneg (toMilli_nonneg nonneg)

/-- The amount that is read back after `f64` wrote this one. -/
def Watts.truncated (power : Watts) : Watts :=
  ⟨ofMilli (toMilli power.value), truncated_nonneg power.nonneg⟩

def Joules.truncated (energy : Joules) : Joules :=
  ⟨ofMilli (toMilli energy.value), truncated_nonneg energy.nonneg⟩

@[simp] theorem Watts.truncated_value (power : Watts) :
    power.truncated.value = ofMilli (toMilli power.value) := rfl

@[simp] theorem Joules.truncated_value (energy : Joules) :
    energy.truncated.value = ofMilli (toMilli energy.value) := rfl

theorem Watts.truncated_of_storable {power : Watts} (storable : Storable power.value) :
    power.truncated = power := Quantity.ext storable

theorem Joules.truncated_of_storable {energy : Joules} (storable : Storable energy.value) :
    energy.truncated = energy := Quantity.ext storable

/-! ## Fields -/

namespace BinWriter

def u8 (v : UInt8) : Bytes := [v]

def u32 (v : UInt32) : Bytes := LittleEndian.encode 4 v.toNat

def u64 (v : UInt64) : Bytes := LittleEndian.encode 8 v.toNat

def i32 (v : Int32) : Bytes := u32 v.toUInt32

/-- A 64-bit integer; the values written here are all in range. -/
def i64 (v : Int) : Bytes := u64 (Int64.ofInt v).toUInt64

def bool (b : Bool) : Bytes := u8 (if b then 1 else 0)

def str (s : Bytes) : Except Fault Bytes :=
  if 4294967295 < s.length then .error (.overflowError "pg persist: string too long")
  else .ok (u32 (UInt32.ofNat s.length) ++ s)

/-- A value whose thousandths do not fit the integer is undefined behaviour. -/
def f64 (v : ℚ) : Except Fault Bytes :=
  if -9223372036854775808 ≤ toMilli v ∧ toMilli v < 9223372036854775808 then .ok (i64 (toMilli v))
  else .error .undefined

end BinWriter

namespace BinReader

def u8 : BinReader UInt8 := do return UInt8.ofNat (← ByteReader.word .rejected 1)

def u32 : BinReader UInt32 := do return UInt32.ofNat (← ByteReader.word .rejected 4)

def u64 : BinReader UInt64 := do return UInt64.ofNat (← ByteReader.word .rejected 8)

def i32 : BinReader Int32 := do return (← u32).toInt32

def i64 : BinReader Int64 := do return (← u64).toInt64

def bool : BinReader Bool := do return (← u8) != 0

def str : BinReader Bytes := do
  let len ← u32
  ByteReader.raw .rejected len.toNat

def f64 : BinReader ℚ := do return ofMilli (← i64).toInt

end BinReader

section RoundTrip

open BinWriter (u8 u32 u64 i32 i64 bool str f64)

theorem carries_u8 (v : UInt8) : Carries (u8 v) BinReader.u8 v := by
  have word : Carries (u8 v) (ByteReader.word Exit.rejected 1) v.toNat := by
    have carries := ByteReader.carries_word Exit.rejected 1 v.toNat_lt
    simpa [LittleEndian.encode, BinWriter.u8] using carries
  have read := word.map UInt8.ofNat
  rw [UInt8.ofNat_toNat] at read
  exact read

theorem carries_u32 (v : UInt32) : Carries (u32 v) BinReader.u32 v := by
  have read := (ByteReader.carries_word Exit.rejected 4 v.toNat_lt).map UInt32.ofNat
  rw [UInt32.ofNat_toNat] at read
  exact read

theorem carries_u64 (v : UInt64) : Carries (u64 v) BinReader.u64 v := by
  have read := (ByteReader.carries_word Exit.rejected 8 v.toNat_lt).map UInt64.ofNat
  rw [UInt64.ofNat_toNat] at read
  exact read

theorem carries_i32 (v : Int32) : Carries (i32 v) BinReader.i32 v :=
  (carries_u32 v.toUInt32).map UInt32.toInt32

theorem carries_i64 (v : Int) : Carries (i64 v) BinReader.i64 (Int64.ofInt v) :=
  (carries_u64 (Int64.ofInt v).toUInt64).map UInt64.toInt64

theorem carries_bool (b : Bool) : Carries (bool b) BinReader.bool b := by
  have read := (carries_u8 (if b then 1 else 0)).map fun byte => byte != 0
  cases b <;> exact read

theorem encodes_str (s : Bytes) : Encodes (str s) BinReader.str s := by
  intro bytes encoded
  unfold BinWriter.str at encoded
  split at encoded
  · cases encoded
  · rename_i short
    rw [← Except.ok.inj encoded]
    have length : (UInt32.ofNat s.length).toNat = s.length :=
      UInt32.toNat_ofNat_of_lt' (by simp [UInt32.size]; omega)
    apply (carries_u32 _).bind
    rw [length]
    exact ByteReader.carries_raw _ s

theorem encodes_f64 (v : ℚ) : Encodes (f64 v) BinReader.f64 (ofMilli (toMilli v)) := by
  intro bytes encoded
  unfold BinWriter.f64 at encoded
  split at encoded
  · rename_i fits
    rw [← Except.ok.inj encoded]
    have read := (carries_i64 (toMilli v)).map fun n => ofMilli n.toInt
    rw [Int64.toInt_ofInt_of_le (by omega) (by omega)] at read
    exact read
  · cases encoded

end RoundTrip

end PowerGovernor
