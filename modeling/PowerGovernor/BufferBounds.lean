import PowerGovernor.Library.Cursor
import PowerGovernor.Persistence.Envelope
import PowerGovernor.Protocol.Frames

/-!
The readers and their buffers.

Owns the calls of `WireReader` and `BinReader` on a position in a buffer, the frame and the
envelope decoder with every index they load from, their agreement with the decoders over byte
lists, and that none of them leaves its buffer.

The two readers are the same but for the name of the fixed-point call and of the test for
room, so they are one here.
-/

set_option autoImplicit false

namespace PowerGovernor

/-! ## The calls -/

namespace BufferReader

open Reading (byte word block)

variable (b : Buffer)

def u8 : Reading UInt8 := byte b

def u16 : Reading UInt16 := do return UInt16.ofNat (← word b 2)

def u32 : Reading UInt32 := do return UInt32.ofNat (← word b 4)

def u64 : Reading UInt64 := do return UInt64.ofNat (← word b 8)

def i64 : Reading Int64 := do return (← u64 b).toInt64

def i32 : Reading Int32 := do return (← u32 b).toInt32

def bool : Reading Bool := do return (← u8 b) != 0

/-- A length and so many bytes. -/
def bytes : Reading Bytes := do
  let len ← u32 b
  block b len.toUInt64

def str : Reading Bytes := bytes b

/-- `f32` of the one reader, `f64` of the other. -/
def fixed : Reading ℚ := do return ofMilli (← i64 b).toInt

variable {b}

theorem follows_u8 : Reading.Follows b (u8 b) WireReader.u8 := Reading.follows_byte ()

theorem follows_u16 : Reading.Follows b (u16 b) WireReader.u16 :=
  (Reading.follows_word () 2).map UInt16.ofNat

theorem follows_u32 : Reading.Follows b (u32 b) WireReader.u32 :=
  (Reading.follows_word () 4).map UInt32.ofNat

/-- The words of the persistence reader fail with another value. -/
theorem follows_binU32 : Reading.Follows b (u32 b) BinReader.u32 :=
  (Reading.follows_word Exit.rejected 4).map UInt32.ofNat

theorem follows_u64 : Reading.Follows b (u64 b) WireReader.u64 :=
  (Reading.follows_word () 8).map UInt64.ofNat

theorem follows_i64 : Reading.Follows b (i64 b) WireReader.i64 := follows_u64.map UInt64.toInt64

theorem follows_i32 : Reading.Follows b (i32 b) WireReader.i32 := follows_u32.map UInt32.toInt32

theorem follows_bool : Reading.Follows b (bool b) WireReader.bool := follows_u8.map fun v => v != 0

theorem follows_str : Reading.Follows b (str b) WireReader.str := by
  refine follows_u32.bind fun len => ?_
  rw [← UInt32.toNat_toUInt64]
  exact Reading.follows_block () len.toUInt64

end BufferReader

/-- A call of either reader. -/
inductive ReaderCall where
  | u8 | u16 | u32 | u64 | i64 | i32 | bool | str | fixed | bytes
deriving DecidableEq, Repr

namespace ReaderCall

/-- What a call does to the position, its value left aside. -/
def run (b : Buffer) : ReaderCall → Reading Unit
  | .u8 => do let _ ← BufferReader.u8 b
  | .u16 => do let _ ← BufferReader.u16 b
  | .u32 => do let _ ← BufferReader.u32 b
  | .u64 => do let _ ← BufferReader.u64 b
  | .i64 => do let _ ← BufferReader.i64 b
  | .i32 => do let _ ← BufferReader.i32 b
  | .bool => do let _ ← BufferReader.bool b
  | .str => do let _ ← BufferReader.str b
  | .fixed => do let _ ← BufferReader.fixed b
  | .bytes => do let _ ← BufferReader.bytes b

/-- The reader after a sequence of calls, each of which may have failed. -/
def after (b : Buffer) (calls : List ReaderCall) : Cursor :=
  calls.foldl (fun c call => ((call.run b).exec c).2) .start

/-- No call leaves the buffer, successful or failed. -/
theorem preserves_run (b : Buffer) (call : ReaderCall) :
    (call.run b).Preserves (Cursor.Within b) := by
  have only : ∀ {α : Type} {x : Reading α} {reader : WireReader α}, Reading.Follows b x reader →
      Stateful.Preserves (Cursor.Within b) (do let _ ← x : Reading Unit) :=
    fun follows => Stateful.preserves_bind_pure follows.preserves _
  cases call with
  | u8 => exact only BufferReader.follows_u8
  | u16 => exact only BufferReader.follows_u16
  | u32 => exact only BufferReader.follows_u32
  | u64 => exact only BufferReader.follows_u64
  | i64 => exact only BufferReader.follows_i64
  | i32 => exact only BufferReader.follows_i32
  | bool => exact only BufferReader.follows_bool
  | str | bytes => exact only BufferReader.follows_str
  | fixed => exact only (BufferReader.follows_i64.map fun n => ofMilli n.toInt)

theorem within_after (b : Buffer) (calls : List ReaderCall) : (after b calls).Within b := by
  induction calls using List.reverseRecOn with
  | nil => exact Cursor.within_start b
  | append_singleton calls call inductionHypothesis =>
      unfold after
      rw [List.foldl_append]
      exact preserves_run b call _ inductionHypothesis

end ReaderCall

/-! ## Frames -/

/-- The four header fields. -/
def readFrameHeaderAt (b : Buffer) : Reading (UInt32 × UInt16 × UInt16 × UInt32) := do
  let magic ← BufferReader.u32 b
  let major ← BufferReader.u16 b
  let type ← BufferReader.u16 b
  let len ← BufferReader.u32 b
  return (magic, major, type, len)

/-- `deserialize_frame`, with the indices it loads from. -/
def deserializeFrameAt (data : Buffer) : Except String (Frame × Nat) × List Nat :=
  if data.size < 16 then (.error "frame too small", [])
  else match (readFrameHeaderAt data).exec .start with
  | (.error _, c) => (.error "malformed header", c.touched)
  | (.ok (magic, major, type, len), c) =>
    if magic ≠ frameMagic then (.error "bad magic", c.touched)
    else if major ≠ protocolMajor then (.error "unsupported protocol version", c.touched)
    else match MsgType.ofRaw? type with
    | none => (.error "invalid message type", c.touched)
    | some type =>
      let total : UInt64 := 12 + len.toUInt64 + 4
      if maxFrame < len.toNat then (.error "oversized frame", c.touched)
      else if data.size < total then (.error "truncated payload", c.touched)
      else
        let stored := List.range' (12 + len.toNat) 4
        let checked := List.range' 0 (12 + len.toNat)
        let payload := List.range' 12 len.toNat
        let touched := checked ++ stored ++ c.touched
        if LittleEndian.decode (stored.map data.load) ≠ (crc32 (checked.map data.load)).toNat then
          (.error "crc mismatch", touched)
        else (.ok (⟨type, payload.map data.load⟩, total.toNat), payload ++ touched)

theorem follows_readFrameHeaderAt {b : Buffer} :
    Reading.Follows b (readFrameHeaderAt b) readFrameHeader := by
  refine BufferReader.follows_u32.bind fun magic => ?_
  refine BufferReader.follows_u16.bind fun major => ?_
  refine BufferReader.follows_u16.bind fun type => ?_
  exact BufferReader.follows_u32.map fun len => (magic, major, type, len)

/-- The size of a container does not overflow. -/
theorem toNat_total (len : UInt32) :
    (12 + len.toUInt64 + 4 : UInt64).toNat = 12 + len.toNat + 4 := by
  have small := len.toNat_lt
  rw [UInt64.toNat_add, UInt64.toNat_add, UInt32.toNat_toUInt64]
  show ((12 + len.toNat) % 18446744073709551616 + 4) % 18446744073709551616 = _
  omega

/-- What is loaded from a container that is complete, behind its header. -/
theorem container_loads {data : Buffer} {len : Nat} (complete : 12 + len + 4 ≤ data.bytes.length) :
    (List.range' (12 + len) 4).map data.load = (data.bytes.drop (12 + len)).take 4 ∧
      (List.range' 0 (12 + len)).map data.load = data.bytes.take (12 + len) ∧
      (List.range' 12 len).map data.load = (data.bytes.drop 12).take len :=
  ⟨Reading.map_load_range' (by omega), Reading.map_load_range' (by omega),
    Reading.map_load_range' (by omega)⟩

/-- And where. -/
theorem container_within {data : Buffer} {len : Nat} {touched : List Nat}
    (complete : 12 + len + 4 ≤ data.bytes.length) (inside : ∀ i ∈ touched, i < data.bytes.length) :
    ∀ i ∈ List.range' 12 len ++ (List.range' 0 (12 + len) ++ List.range' (12 + len) 4 ++ touched),
      i < data.bytes.length := by
  intro i member
  rcases List.mem_append.mp member with payload | member
  · have bounds := List.mem_range'_1.mp payload
    omega
  rcases List.mem_append.mp member with member | header
  · rcases List.mem_append.mp member with checked | stored
    · have bounds := List.mem_range'_1.mp checked
      omega
    · have bounds := List.mem_range'_1.mp stored
      omega
  · exact inside i header

/-- The answer of the decoder over the bytes, found with loads below their size. -/
def Loads (data : Buffer) {α : Type} (outcome : Except String α × List Nat)
    (answer : Except String α) : Prop :=
  outcome.1 = answer ∧ ∀ i ∈ outcome.2, i < data.bytes.length

/-- Two decoders that make the same check before they go on. -/
theorem Loads.guard {data : Buffer} {α : Type} {c c' : Prop} [Decidable c] [Decidable c']
    {why : String} {touched : List Nat} {outcome : Except String α × List Nat}
    {answer : Except String α} (same : c ↔ c') (inside : ∀ i ∈ touched, i < data.bytes.length)
    (behind : ¬ c → Loads data outcome answer) :
    Loads data (if c then (.error why, touched) else outcome)
      (if c' then .error why else answer) := by
  by_cases holds : c
  · rw [if_pos holds, if_pos (same.mp holds)]
    exact ⟨rfl, inside⟩
  · rw [if_neg holds, if_neg (mt same.mpr holds)]
    exact behind holds

theorem size_lt_sixteen (data : Buffer) : data.size < 16 ↔ data.bytes.length < 16 := by
  rw [UInt64.lt_iff_toNat_lt, data.toNat_size]
  exact Iff.rfl

theorem size_lt_total (data : Buffer) (len : UInt32) :
    data.size < 12 + len.toUInt64 + 4 ↔ data.bytes.length < 12 + len.toNat + 4 := by
  rw [UInt64.lt_iff_toNat_lt, data.toNat_size, toNat_total]

theorem size_ne_total (data : Buffer) (len : UInt32) :
    data.size ≠ 12 + len.toUInt64 + 4 ↔ data.bytes.length ≠ 12 + len.toNat + 4 := by
  rw [ne_eq, ← UInt64.toNat_inj, data.toNat_size, toNat_total]

/-- The decoder over the buffer is the one over its bytes and loads below the size only. -/
theorem deserializeFrameAt_spec (data : Buffer) :
    (deserializeFrameAt data).1 = deserializeFrame data.bytes ∧
      ∀ i ∈ (deserializeFrameAt data).2, i < data.bytes.length := by
  unfold deserializeFrameAt deserializeFrame headerSize trailerSize
  refine Loads.guard (size_lt_sixteen data) nofun fun _ => ?_
  rcases follows_readFrameHeaderAt .start (Cursor.within_start data) with
    ⟨⟨magic, major, type, len⟩, c, ended, ⟨_, inside⟩, read⟩ | ⟨c, e, ended, ⟨_, inside⟩, failed⟩
  · have read : readFrameHeader.run data.bytes =
        .ok ((magic, major, type, len), c.rest data) := read
    rw [ended, read]
    refine Loads.guard Iff.rfl inside fun _ => Loads.guard Iff.rfl inside fun _ => ?_
    cases MsgType.ofRaw? type with
    | none => exact ⟨rfl, inside⟩
    | some type =>
        refine Loads.guard Iff.rfl inside fun _ =>
          Loads.guard (size_lt_total data len) inside fun untruncated => ?_
        have complete := not_lt.mp (mt (size_lt_total data len).mpr untruncated)
        have within := container_within complete inside
        obtain ⟨stored, checked, payload⟩ := container_loads complete
        dsimp only
        rw [stored, checked, payload, toNat_total]
        exact Loads.guard Iff.rfl (List.forall_mem_append.mp within).2 fun _ => ⟨rfl, within⟩
  · have failed : readFrameHeader.run data.bytes = .error e := failed
    rw [ended, failed]
    exact ⟨rfl, inside⟩

/-! ## Envelopes -/

/-- The three header words. -/
def readHeaderAt (b : Buffer) : Reading (UInt32 × UInt32 × UInt32) := do
  let magic ← BufferReader.u32 b
  let schema ← BufferReader.u32 b
  let len ← BufferReader.u32 b
  return (magic, schema, len)

/-- `decode_envelope`, with the indices it loads from. -/
def decodeEnvelopeAt (data : Buffer) : Except String PersistEnvelope × List Nat :=
  if data.size < 16 then (.error "truncated persistence record", [])
  else match (readHeaderAt data).exec .start with
  | (.error _, c) => (.error "malformed header", c.touched)
  | (.ok (magic, schema, len), c) =>
    let total : UInt64 := 12 + len.toUInt64 + 4
    if magic ≠ persistMagic then (.error "bad persistence magic", c.touched)
    else if schema ≠ persistSchema then (.error "unsupported schema version", c.touched)
    else if persistMax < len.toNat then (.error "oversized persistence record", c.touched)
    else if data.size < total then (.error "truncated persistence payload", c.touched)
    else
      let stored := List.range' (12 + len.toNat) 4
      let checked := List.range' 0 (12 + len.toNat)
      let blob := List.range' 12 len.toNat
      let touched := checked ++ stored ++ c.touched
      if LittleEndian.decode (stored.map data.load) ≠ (crc32 (checked.map data.load)).toNat then
        (.error "crc mismatch", touched)
      else if data.size ≠ total then
        (.error "trailing garbage after persistence record", touched)
      else (.ok ⟨schema, blob.map data.load⟩, blob ++ touched)

theorem follows_readHeaderAt {b : Buffer} : Reading.Follows b (readHeaderAt b) readHeader := by
  refine BufferReader.follows_binU32.bind fun magic => ?_
  refine BufferReader.follows_binU32.bind fun schema => ?_
  exact BufferReader.follows_binU32.map fun len => (magic, schema, len)

/-- The decoder over the buffer is the one over its bytes and loads below the size only. -/
theorem decodeEnvelopeAt_spec (data : Buffer) :
    (decodeEnvelopeAt data).1 = decodeEnvelope data.bytes ∧
      ∀ i ∈ (decodeEnvelopeAt data).2, i < data.bytes.length := by
  unfold decodeEnvelopeAt decodeEnvelope
  refine Loads.guard (size_lt_sixteen data) nofun fun _ => ?_
  rcases follows_readHeaderAt .start (Cursor.within_start data) with
    ⟨⟨magic, schema, len⟩, c, ended, ⟨_, inside⟩, read⟩ | ⟨c, e, ended, ⟨_, inside⟩, failed⟩
  · have read : readHeader.run data.bytes = .ok ((magic, schema, len), c.rest data) := read
    rw [ended, read]
    refine Loads.guard Iff.rfl inside fun _ => Loads.guard Iff.rfl inside fun _ =>
      Loads.guard Iff.rfl inside fun _ =>
        Loads.guard (size_lt_total data len) inside fun untruncated => ?_
    have complete := not_lt.mp (mt (size_lt_total data len).mpr untruncated)
    have within := container_within complete inside
    have checkedWithin := (List.forall_mem_append.mp within).2
    obtain ⟨stored, checked, blob⟩ := container_loads complete
    dsimp only
    rw [stored, checked, blob]
    exact Loads.guard Iff.rfl checkedWithin fun _ =>
      Loads.guard (size_ne_total data len) checkedWithin fun _ => ⟨rfl, within⟩
  · have failed : readHeader.run data.bytes = .error e := failed
    rw [ended, failed]
    exact ⟨rfl, inside⟩

/-! ## Every input -/

/-- Whatever a buffer holds: after any sequence of calls, successful or failed, the position of
a reader is at most the length and every index it loaded from is below it, and the decoders of
frames and envelopes load only below the size. -/
theorem readers_stay_in_buffer (data : Buffer) :
    (∀ calls : List ReaderCall, (ReaderCall.after data calls).pos.toNat ≤ data.bytes.length ∧
      ∀ i ∈ (ReaderCall.after data calls).touched, i < data.bytes.length) ∧
    (∀ i ∈ (deserializeFrameAt data).2, i < data.bytes.length) ∧
      ∀ i ∈ (decodeEnvelopeAt data).2, i < data.bytes.length :=
  ⟨ReaderCall.within_after data, (deserializeFrameAt_spec data).2, (decodeEnvelopeAt_spec data).2⟩

end PowerGovernor
