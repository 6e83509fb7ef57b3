import PowerGovernor.Budget.Manager
import PowerGovernor.Library.ShiftRegister

/-!
The CRC-32.

Owns the checksum of `util.hpp` as a shift register, the byte lists that end in
their own checksum, and the burst rule for these. The checksum is written and read
in host order, which is little-endian here.
-/

set_option autoImplicit false

namespace PowerGovernor

/-- One bit of `crc32_update`. -/
def crc32Bit (crc : UInt32) : UInt32 := (crc >>> 1) ^^^ (0xEDB88320 &&& (0 - (crc &&& 1)))

def crc32Update (crc : UInt32) (data : Bytes) : UInt32 :=
  data.foldl (fun crc byte => Nat.iterate crc32Bit 8 (crc ^^^ byte.toUInt32)) crc

def crc32 (data : Bytes) : UInt32 := crc32Update 0xFFFFFFFF data ^^^ 0xFFFFFFFF

/-! ## As a shift register -/

/-- The IEEE 802.3 polynomial, reflected. -/
def crc32Poly : BitVec 32 := 0xEDB88320#32

theorem crc32Bit_toBitVec (crc : UInt32) :
    (crc32Bit crc).toBitVec = ShiftRegister.shift crc32Poly crc.toBitVec := by
  have mask : (0 : BitVec 32) - (crc.toBitVec &&& 1) =
      if crc.toBitVec.getLsbD 0 then BitVec.allOnes 32 else 0 := by
    rw [show (1 : BitVec 32) = 1#32 from rfl, BitVec.and_one_eq_setWidth_ofBool_getLsbD]
    cases crc.toBitVec.getLsbD 0 <;> rfl
  show (crc.toBitVec >>> 1) ^^^ (crc32Poly &&& (0 - (crc.toBitVec &&& 1))) = _
  unfold ShiftRegister.shift
  rw [mask]
  cases crc.toBitVec.getLsbD 0 with
  | true =>
      rw [if_pos rfl, if_pos rfl, BitVec.and_allOnes]
  | false =>
      rw [if_neg Bool.false_ne_true, if_neg Bool.false_ne_true]
      exact (congrArg _ BitVec.and_zero).trans BitVec.xor_zero

theorem crc32Update_toBitVec (crc : UInt32) (data : Bytes) :
    (crc32Update crc data).toBitVec = ShiftRegister.feed crc32Poly crc.toBitVec data := by
  have shifts : ∀ n (crc : UInt32), (Nat.iterate crc32Bit n crc).toBitVec =
      (ShiftRegister.shift crc32Poly)^[n] crc.toBitVec := by
    intro n
    induction n with
    | zero => exact fun _ => rfl
    | succ n inductionHypothesis =>
        intro crc
        rw [Function.iterate_succ_apply, Function.iterate_succ_apply, inductionHypothesis,
          crc32Bit_toBitVec]
  induction data generalizing crc with
  | nil => rfl
  | cons byte rest inductionHypothesis =>
      have widened : byte.toUInt32.toBitVec = BitVec.ofNat 32 byte.toNat := by
        apply BitVec.eq_of_toNat_eq
        simp
      refine (inductionHypothesis _).trans ?_
      rw [shifts, UInt32.toBitVec_xor, widened]
      rfl

/-! ## Bytes with their checksum -/

/-- Bytes followed by their checksum. -/
def withChecksum (out : Bytes) : Bytes := out ++ LittleEndian.encode 4 (crc32 out).toNat

@[simp] theorem length_withChecksum (out : Bytes) : (withChecksum out).length = out.length + 4 := by
  rw [withChecksum, List.length_append, LittleEndian.length_encode]

/-- Where the header, the payload and their checksum stand. -/
theorem withChecksum_append (header payload : Bytes) : withChecksum (header ++ payload) =
    header ++ (payload ++ LittleEndian.encode 4 (crc32 (header ++ payload)).toNat) :=
  List.append_assoc _ _ _

theorem take_window {α : Type} (first width : Nat) (items : List α) :
    items.take first ++ (items.drop first).take width ++ items.drop (first + width) = items := by
  rw [List.append_assoc, ← List.drop_drop, List.take_append_drop, List.take_append_drop]

/-- Four bytes after the first `n` are the checksum of these. -/
theorem withChecksum_iff {data : Bytes} {n : Nat} (long : n + 4 ≤ data.length) :
    LittleEndian.decode ((data.drop n).take 4) = (crc32 (data.take n)).toNat ↔
      data = withChecksum (data.take n) ++ data.drop (n + 4) := by
  have length : ((data.drop n).take 4).length = 4 := by
    rw [List.length_take, List.length_drop]
    omega
  have split := (take_window n 4 data).symm
  constructor
  · intro stored
    have trailer : LittleEndian.encode 4 (crc32 (data.take n)).toNat = (data.drop n).take 4 := by
      have written := LittleEndian.encode_decode ((data.drop n).take 4)
      rw [length, stored] at written
      exact written
    rw [withChecksum, trailer]
    exact split
  · intro covered
    have written : (data.drop n).take 4 = LittleEndian.encode 4 (crc32 (data.take n)).toNat := by
      have same := split.symm.trans covered
      rw [withChecksum] at same
      exact List.append_cancel_left (List.append_cancel_right same)
    rw [written]
    exact LittleEndian.decode_encode_of_lt (UInt32.toNat_lt _)

theorem take_withChecksum {out : Bytes} {n : Nat} (length : out.length = n) (rest : Bytes) :
    (withChecksum out ++ rest).take n = out := by
  rw [withChecksum, List.append_assoc]
  exact List.take_left' length

/-- The bytes after a checksummed list are not looked at. -/
theorem stored_withChecksum {out : Bytes} {n : Nat} (length : out.length = n) (rest : Bytes) :
    LittleEndian.decode (((withChecksum out ++ rest).drop n).take 4) =
      (crc32 ((withChecksum out ++ rest).take n)).toNat := by
  have long : n + 4 ≤ (withChecksum out ++ rest).length := by
    rw [List.length_append, length_withChecksum]
    omega
  apply (withChecksum_iff long).mpr
  rw [take_withChecksum length, List.drop_left' (by rw [length_withChecksum, length])]

section Record

variable {data header payload : Bytes} {h n : Nat}

/-- Bytes begin with a header, a payload and their checksum if these stand where their
lengths put them. -/
theorem begins_withChecksum_iff (headed : header.length = h) (filled : payload.length = n) :
    (∃ rest, data = withChecksum (header ++ payload) ++ rest) ↔
      h + n + 4 ≤ data.length ∧ data.take h = header ∧ (data.drop h).take n = payload ∧
        LittleEndian.decode ((data.drop (h + n)).take 4) =
          (crc32 (data.take (h + n))).toNat := by
  have out : (header ++ payload).length = h + n := by
    rw [List.length_append, headed, filled]
  constructor
  · rintro ⟨rest, rfl⟩
    have split : withChecksum (header ++ payload) ++ rest =
        header ++ (payload ++
          (LittleEndian.encode 4 (crc32 (header ++ payload)).toNat ++ rest)) := by
      rw [withChecksum_append, List.append_assoc, List.append_assoc]
    refine ⟨?_, ?_, ?_, stored_withChecksum out rest⟩
    · rw [List.length_append, length_withChecksum, out]
      exact Nat.le_add_right _ _
    · rw [split]
      exact List.take_left' headed
    · rw [split, List.drop_left' headed]
      exact List.take_left' filled
  · rintro ⟨long, first, body, sum⟩
    refine ⟨data.drop (h + n + 4), ?_⟩
    have covered := (withChecksum_iff long).mp sum
    rw [List.take_add, first, body] at covered
    exact covered

/-- Bytes that are a header, a payload and their checksum, and nothing more. -/
theorem eq_withChecksum_iff (headed : header.length = h) (filled : payload.length = n) :
    data = withChecksum (header ++ payload) ↔
      data.length = h + n + 4 ∧ data.take h = header ∧ (data.drop h).take n = payload ∧
        LittleEndian.decode ((data.drop (h + n)).take 4) =
          (crc32 (data.take (h + n))).toNat := by
  have whole : (withChecksum (header ++ payload)).length = h + n + 4 := by
    rw [length_withChecksum, List.length_append, headed, filled]
  constructor
  · intro same
    have begins : ∃ rest, data = withChecksum (header ++ payload) ++ rest :=
      ⟨[], same.trans (List.append_nil _).symm⟩
    obtain ⟨_, parts⟩ := (begins_withChecksum_iff headed filled).mp begins
    exact ⟨(congrArg List.length same).trans whole, parts⟩
  · rintro ⟨length, parts⟩
    obtain ⟨rest, same⟩ := (begins_withChecksum_iff headed filled).mpr ⟨length.ge, parts⟩
    rw [same, List.length_append, whole] at length
    obtain rfl : rest = [] := List.eq_nil_of_length_eq_zero (by omega)
    exact same.trans (List.append_nil _)

end Record

/-- The register after bytes and their checksum does not depend on them. -/
theorem feed_withChecksum (out : Bytes) :
    ShiftRegister.feed crc32Poly (BitVec.allOnes 32) (withChecksum out) =
      (ShiftRegister.shift crc32Poly)^[32] (BitVec.allOnes 32) := by
  have register : ShiftRegister.feed crc32Poly (BitVec.allOnes 32) out ^^^
      BitVec.ofNat 32 (crc32 out).toNat = BitVec.allOnes 32 := by
    have sum : (crc32 out).toBitVec =
        ShiftRegister.feed crc32Poly (BitVec.allOnes 32) out ^^^ BitVec.allOnes 32 := by
      show (crc32Update 0xFFFFFFFF out).toBitVec ^^^ _ = _
      rw [crc32Update_toBitVec]
      rfl
    show _ ^^^ BitVec.ofNat 32 (crc32 out).toBitVec.toNat = _
    rw [BitVec.ofNat_toNat, BitVec.setWidth_eq, sum, ← BitVec.xor_assoc, BitVec.xor_self,
      BitVec.zero_xor]
  rw [withChecksum, ShiftRegister.feed_append, ShiftRegister.feed_eq_iterate (by simp),
    LittleEndian.length_encode, LittleEndian.decode_encode_of_lt (UInt32.toNat_lt _), register]

/-- Two lists of one length agree outside a window. -/
def AgreeOutside {α : Type} (first width : Nat) (left right : List α) : Prop :=
  left.length = right.length ∧ ∀ j, j < first ∨ first + width ≤ j → left[j]? = right[j]?

/-- Lists that share what is before and after a window agree outside it. -/
theorem agreeOutside_window {α : Type} {width : Nat} (before after : List α)
    {window window' : List α} (length : window.length = window'.length)
    (short : window.length ≤ width) :
    AgreeOutside before.length width (before ++ window ++ after) (before ++ window' ++ after) := by
  refine ⟨by simp [length], ?_⟩
  rintro j (earlier | later)
  · rw [List.append_assoc, List.append_assoc, List.getElem?_append_left earlier,
      List.getElem?_append_left earlier]
  · rw [List.getElem?_append_right (by rw [List.length_append]; omega),
      List.getElem?_append_right (by rw [List.length_append]; omega), List.length_append,
      List.length_append, length]

/-- The burst rule: bytes with their checksums that agree outside four consecutive
places are the same. -/
theorem withChecksum_eq_of_agreeOutside {out out' : Bytes} {first : Nat}
    (agree : AgreeOutside first 4 (withChecksum out) (withChecksum out')) :
    withChecksum out = withChecksum out' := by
  obtain ⟨length, same⟩ := agree
  have before : (withChecksum out').take first = (withChecksum out).take first := by
    apply List.ext_getElem?
    intro j
    rw [List.getElem?_take, List.getElem?_take]
    split
    · rename_i inside
      exact (same j (.inl inside)).symm
    · rfl
  have rest : (withChecksum out').drop (first + 4) = (withChecksum out).drop (first + 4) := by
    apply List.ext_getElem?
    intro j
    rw [List.getElem?_drop, List.getElem?_drop]
    exact (same _ (.inr (Nat.le_add_right _ _))).symm
  have met : ShiftRegister.feed crc32Poly (BitVec.allOnes 32) (withChecksum out) =
      ShiftRegister.feed crc32Poly (BitVec.allOnes 32) (withChecksum out') :=
    (feed_withChecksum out).trans (feed_withChecksum out').symm
  have windows :
      ((withChecksum out).drop first).take 4 = ((withChecksum out').drop first).take 4 := by
    rw [← take_window first 4 (withChecksum out), ← take_window first 4 (withChecksum out'),
      before, rest] at met
    refine ShiftRegister.eq_of_feed_eq (by decide) ?_ ?_ met
    · rw [List.length_take, List.length_take, List.length_drop, List.length_drop, length]
    · have short := List.length_take_le 4 ((withChecksum out).drop first)
      omega
  rw [← take_window first 4 (withChecksum out), ← take_window first 4 (withChecksum out'),
    before, rest, windows]

end PowerGovernor
