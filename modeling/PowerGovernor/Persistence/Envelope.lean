import PowerGovernor.Checksum
import PowerGovernor.Library.Layout
import PowerGovernor.Persistence.Binary

/-!
The persistence envelope.

Owns the versioned container around a state blob, the byte strings that are
envelopes, and the round trip.
-/

set_option autoImplicit false

namespace PowerGovernor

/-! ## The container -/

/-- `PERSIST_MAGIC`. -/
def persistMagic : UInt32 := 0x53504750

/-- `PERSIST_SCHEMA`. -/
def persistSchema : UInt32 := 1

/-- `PERSIST_MAX`, 256 MiB. -/
def persistMax : Nat := 268435456

structure PersistEnvelope where
  schema : UInt32
  blob : Bytes
deriving DecidableEq

/-- Magic, schema and length. -/
def envelopeHeader (e : PersistEnvelope) : Bytes :=
  BinWriter.u32 persistMagic ++
    (BinWriter.u32 e.schema ++ BinWriter.u32 (UInt32.ofNat e.blob.length))

def encodeEnvelope (e : PersistEnvelope) : Except Fault Bytes :=
  if persistMax < e.blob.length then
    .error (.lengthError "pg persist: blob exceeds PERSIST_MAX")
  else
    let out := envelopeHeader e ++ e.blob
    .ok (out ++ BinWriter.u32 (crc32 out))

/-- The three header words. -/
def readHeader : BinReader (UInt32 × UInt32 × UInt32) := do
  let magic ← BinReader.u32
  let schema ← BinReader.u32
  let len ← BinReader.u32
  return (magic, schema, len)

/-- The envelope, or the `error` text of a refusal. -/
def decodeEnvelope (data : Bytes) : Except String PersistEnvelope :=
  if data.length < 16 then .error "truncated persistence record"
  else match readHeader.run data with
  | .error _ => .error "malformed header"
  | .ok ((magic, schema, len), _) =>
    let total := 12 + len.toNat + 4
    if magic ≠ persistMagic then .error "bad persistence magic"
    else if schema ≠ persistSchema then .error "unsupported schema version"
    else if persistMax < len.toNat then .error "oversized persistence record"
    else if data.length < total then .error "truncated persistence payload"
    else
      let stored := LittleEndian.decode ((data.drop (12 + len.toNat)).take 4)
      if stored ≠ (crc32 (data.take (12 + len.toNat))).toNat then .error "crc mismatch"
      else if data.length ≠ total then .error "trailing garbage after persistence record"
      else .ok ⟨schema, (data.drop 12).take len.toNat⟩

theorem length_envelopeHeader (e : PersistEnvelope) : (envelopeHeader e).length = 12 := by
  simp [envelopeHeader, BinWriter.u32]

/-! ## What is an envelope -/

theorem BinReader.takes_u32 (v : UInt32) : Layout.Takes BinReader.u32 v True {BinWriter.u32 v} :=
  Layout.takes_uint32 _ v

theorem takes_header (magic schema len : UInt32) :
    Layout.Takes readHeader (magic, schema, len) True
      [{BinWriter.u32 magic}, {BinWriter.u32 schema}, {BinWriter.u32 len}].prod := by
  refine .field BinReader.takes_u32 fun _ => ?_
  refine .field BinReader.takes_u32 fun _ => ?_
  refine .field BinReader.takes_u32 fun _ => ?_
  refine .done ⟨?_, ?_⟩
  · rintro ⟨rfl, rfl, rfl, _⟩
    rfl
  · rintro ⟨⟩
    exact ⟨rfl, rfl, rfl, trivial⟩

/-- A header is read from its twelve bytes. -/
theorem run_readHeader_eq_ok {magic schema len : UInt32} {data rest : Bytes} :
    readHeader.run data = .ok ((magic, schema, len), rest) ↔
      data = BinWriter.u32 magic ++ (BinWriter.u32 schema ++ BinWriter.u32 len) ++ rest := by
  rw [takes_header, true_and, List.prod_cons, List.prod_cons, List.prod_cons, List.prod_nil,
    mul_one, Layout.singleton_mul_singleton, Layout.singleton_mul_singleton,
    Layout.singleton_mul_singleton]
  exact Iff.rfl

theorem envelopeHeader_of_length {schema len : UInt32} {blob : Bytes}
    (length : blob.length = len.toNat) :
    envelopeHeader ⟨schema, blob⟩ =
      BinWriter.u32 persistMagic ++ (BinWriter.u32 schema ++ BinWriter.u32 len) := by
  unfold envelopeHeader
  rw [length, UInt32.ofNat_toNat]

/-- The announced length is the length of the blob. -/
theorem length_blob {blob : Bytes} (small : blob.length ≤ persistMax) :
    (UInt32.ofNat blob.length).toNat = blob.length := by
  apply UInt32.toNat_ofNat_of_lt'
  unfold persistMax at small
  show blob.length < 4294967296
  omega

/-- What decodes is an envelope of the current schema and its checksum. -/
theorem decodeEnvelope_eq_ok {data : Bytes} {e : PersistEnvelope} :
    decodeEnvelope data = .ok e ↔ e.schema = persistSchema ∧ e.blob.length ≤ persistMax ∧
      data = withChecksum (envelopeHeader e ++ e.blob) := by
  constructor
  · intro decoded
    unfold decodeEnvelope at decoded
    split at decoded
    · cases decoded
    split at decoded
    · cases decoded
    rename_i magic schema len rest header
    dsimp only at decoded
    split at decoded
    · cases decoded
    rename_i sameMagic
    split at decoded
    · cases decoded
    rename_i sameSchema
    split at decoded
    · cases decoded
    rename_i small
    split at decoded
    · cases decoded
    rename_i complete
    split at decoded
    · cases decoded
    rename_i sum
    split at decoded
    · cases decoded
    rename_i exactly
    obtain rfl := Except.ok.inj decoded
    rw [not_not] at sameMagic sameSchema exactly sum
    subst sameMagic sameSchema
    have length : ((data.drop 12).take len.toNat).length = len.toNat := by
      rw [List.length_take, List.length_drop]
      omega
    have first : data.take 12 = envelopeHeader ⟨persistSchema, (data.drop 12).take len.toNat⟩ := by
      rw [envelopeHeader_of_length length, run_readHeader_eq_ok.mp header]
      exact List.take_left' (by simp [BinWriter.u32])
    refine ⟨rfl, length.trans_le (not_lt.mp small), ?_⟩
    exact (eq_withChecksum_iff (length_envelopeHeader _) length).mpr ⟨exactly, first, rfl, sum⟩
  · rintro ⟨schema, small, same⟩
    obtain ⟨_, blob⟩ := e
    obtain ⟨total, first, body, sum⟩ := (eq_withChecksum_iff (length_envelopeHeader _) rfl).mp same
    dsimp only at schema small total first body sum ⊢
    subst schema
    have header : readHeader.run data =
        .ok ((persistMagic, persistSchema, UInt32.ofNat blob.length), data.drop 12) := by
      refine run_readHeader_eq_ok.mpr ?_
      show data = envelopeHeader ⟨persistSchema, blob⟩ ++ data.drop 12
      rw [← first, List.take_append_drop]
    unfold decodeEnvelope
    rw [if_neg (by omega), header]
    dsimp only
    rw [length_blob small, sum, body, total]
    simp [not_lt.mpr small]

/-- What is encoded under the current schema decodes to itself. -/
theorem decodeEnvelope_encodeEnvelope {blob bytes : Bytes}
    (encoded : encodeEnvelope ⟨persistSchema, blob⟩ = .ok bytes) :
    decodeEnvelope bytes = .ok ⟨persistSchema, blob⟩ := by
  unfold encodeEnvelope at encoded
  split at encoded
  · cases encoded
  rename_i notLarge
  obtain rfl := Except.ok.inj encoded
  exact decodeEnvelope_eq_ok.mpr ⟨rfl, not_lt.mp notLarge, rfl⟩

/-- The decoder inverts the encoder: it accepts the encodings under the current schema
of blobs within the bound, and nothing else. -/
theorem decodeEnvelope_inverts_encodeEnvelope (d : Bytes) (e : PersistEnvelope) :
    decodeEnvelope d = .ok e ↔ e.schema = persistSchema ∧ e.blob.length ≤ persistMax ∧
      encodeEnvelope e = .ok d := by
  rw [decodeEnvelope_eq_ok]
  refine and_congr_right fun _ => and_congr_right fun small => ?_
  unfold encodeEnvelope
  rw [if_neg (not_lt.mpr small)]
  constructor
  · rintro rfl
    rfl
  · intro encoded
    exact (Except.ok.inj encoded).symm

end PowerGovernor
