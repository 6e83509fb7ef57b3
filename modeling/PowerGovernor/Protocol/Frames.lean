import PowerGovernor.Checksum
import PowerGovernor.Protocol.Layouts

/-!
The frames of a byte stream.

Owns the codes of the message types, the container around a payload, the byte strings
that begin with a frame, and the codec of a sequence of frames.
-/

set_option autoImplicit false

namespace PowerGovernor

namespace MsgType

/-- Every message type, in declaration order. -/
def all : List MsgType :=
  [.hello, .register, .powerObservation, .thermalObservation, .setPolicy, .setBudget, .reserve,
    .activate, .release, .decisionRequest, .decisionResponse, .throttleReport, .snapshotRequest,
    .snapshotResponse, .ack, .error]

/-- The underlying value of the enumerator. -/
def toRaw : MsgType → UInt16
  | .hello => 1
  | .register => 2
  | .powerObservation => 3
  | .thermalObservation => 4
  | .setPolicy => 5
  | .setBudget => 6
  | .reserve => 7
  | .activate => 8
  | .release => 9
  | .decisionRequest => 10
  | .decisionResponse => 11
  | .throttleReport => 12
  | .snapshotRequest => 13
  | .snapshotResponse => 14
  | .ack => 15
  | .error => 16

def isValid (t : UInt16) : Bool := decide (1 ≤ t) && decide (t ≤ 16)

/-- `static_cast<MsgType>` of a code that is valid. -/
def ofRaw? (t : UInt16) : Option MsgType := if isValid t then all[t.toNat - 1]? else none

theorem ofRaw?_eq_some {t : UInt16} {type : MsgType} : ofRaw? t = some type ↔ t = type.toRaw := by
  constructor
  · intro found
    unfold ofRaw? isValid at found
    split at found
    · rename_i valid
      have positive : 1 ≤ t.toNat := by
        have le := of_decide_eq_true (Bool.and_eq_true_iff.mp valid).1
        exact UInt16.le_iff_toNat_le.mp le
      obtain ⟨inside, rfl⟩ := List.getElem?_eq_some_iff.mp found
      have codes : ∀ i (inside : i < all.length), (all[i]).toRaw.toNat = i + 1 := by decide
      apply UInt16.toNat_inj.mp
      rw [codes]
      omega
    · cases found
  · rintro rfl
    cases type <;> rfl

end MsgType

/-! ## The container -/

/-- `FRAME_MAGIC`. -/
def frameMagic : UInt32 := 0x43544750

/-- `PROTOCOL_MAJOR`. -/
def protocolMajor : UInt16 := 1

/-- `MAX_FRAME`, 16 MiB. -/
def maxFrame : Nat := 16777216

/-- `HEADER_SIZE`. -/
def headerSize : Nat := 12

/-- `TRAILER_SIZE`. -/
def trailerSize : Nat := 4

/-- Magic, major version, type and length. -/
def frameHeader (f : Frame) : Bytes :=
  WireWriter.u32 frameMagic ++ (WireWriter.u16 protocolMajor ++
    (WireWriter.u16 f.type.toRaw ++ WireWriter.u32 (UInt32.ofNat f.payload.length)))

def serializeFrame (f : Frame) : Except Fault Bytes :=
  if maxFrame < f.payload.length then .error (.lengthError "pg wire: frame exceeds MAX_FRAME")
  else
    let out := frameHeader f ++ f.payload
    .ok (out ++ LittleEndian.encode 4 (crc32 out).toNat)

/-- The four header fields. -/
def readFrameHeader : WireReader (UInt32 × UInt16 × UInt16 × UInt32) := do
  let magic ← WireReader.u32
  let major ← WireReader.u16
  let type ← WireReader.u16
  let len ← WireReader.u32
  return (magic, major, type, len)

/-- The frame at the start of the bytes and the bytes it takes, or the `error` text of
a refusal. -/
def deserializeFrame (data : Bytes) : Except String (Frame × Nat) :=
  if data.length < headerSize + trailerSize then .error "frame too small"
  else match readFrameHeader.run data with
  | .error _ => .error "malformed header"
  | .ok ((magic, major, type, len), _) =>
    if magic ≠ frameMagic then .error "bad magic"
    else if major ≠ protocolMajor then .error "unsupported protocol version"
    else match MsgType.ofRaw? type with
    | none => .error "invalid message type"
    | some type =>
      let total := headerSize + len.toNat + trailerSize
      if maxFrame < len.toNat then .error "oversized frame"
      else if data.length < total then .error "truncated payload"
      else
        let stored := LittleEndian.decode ((data.drop (headerSize + len.toNat)).take trailerSize)
        if stored ≠ (crc32 (data.take (headerSize + len.toNat))).toNat then .error "crc mismatch"
        else .ok (⟨type, (data.drop headerSize).take len.toNat⟩, total)

@[simp] theorem length_frameHeader (f : Frame) : (frameHeader f).length = headerSize := by
  simp [frameHeader, WireWriter.u32, WireWriter.u16, headerSize]

/-- The announced length is the length of the payload. -/
theorem length_payload {payload : Bytes} (small : payload.length ≤ maxFrame) :
    (UInt32.ofNat payload.length).toNat = payload.length := by
  apply UInt32.toNat_ofNat_of_lt'
  unfold maxFrame at small
  show payload.length < 4294967296
  omega

/-- A frame takes its header, its payload and its checksum. -/
theorem length_checkedFrame (f : Frame) : (withChecksum (frameHeader f ++ f.payload)).length =
    headerSize + f.payload.length + trailerSize := by
  rw [length_withChecksum, List.length_append, length_frameHeader]
  rfl

/-! ## What begins with a frame -/

theorem takes_frameHeader (magic : UInt32) (major type : UInt16) (len : UInt32) :
    Layout.Takes readFrameHeader (magic, major, type, len) True
      [{WireWriter.u32 magic}, {WireWriter.u16 major}, {WireWriter.u16 type},
        {WireWriter.u32 len}].prod := by
  refine .field WireReader.takes_u32 fun _ => ?_
  refine .field WireReader.takes_u16 fun _ => ?_
  refine .field WireReader.takes_u16 fun _ => ?_
  refine .field WireReader.takes_u32 fun _ => ?_
  refine .done ⟨?_, ?_⟩
  · rintro ⟨rfl, rfl, rfl, rfl, _⟩
    rfl
  · rintro ⟨⟩
    exact ⟨rfl, rfl, rfl, rfl, trivial⟩

/-- A header is read from its twelve bytes. -/
theorem run_readFrameHeader_eq_ok {magic len : UInt32} {major type : UInt16} {data rest : Bytes} :
    readFrameHeader.run data = .ok ((magic, major, type, len), rest) ↔
      data = WireWriter.u32 magic ++ (WireWriter.u16 major ++
        (WireWriter.u16 type ++ WireWriter.u32 len)) ++ rest := by
  rw [takes_frameHeader, true_and]
  simp only [List.prod_cons, List.prod_nil, mul_one, Layout.singleton_mul_singleton]
  exact Iff.rfl

theorem frameHeader_of_length {type : MsgType} {len : UInt32} {payload : Bytes}
    (length : payload.length = len.toNat) :
    frameHeader ⟨type, payload⟩ = WireWriter.u32 frameMagic ++ (WireWriter.u16 protocolMajor ++
      (WireWriter.u16 type.toRaw ++ WireWriter.u32 len)) := by
  unfold frameHeader
  rw [length, UInt32.ofNat_toNat]

/-- A frame is deserialized from the bytes that begin with it and its checksum. -/
theorem deserializeFrame_eq_ok {data : Bytes} {f : Frame} {consumed : Nat} :
    deserializeFrame data = .ok (f, consumed) ↔ f.payload.length ≤ maxFrame ∧
      consumed = headerSize + f.payload.length + trailerSize ∧
      ∃ rest, data = withChecksum (frameHeader f ++ f.payload) ++ rest := by
  constructor
  · intro decoded
    unfold deserializeFrame at decoded
    split at decoded
    · cases decoded
    split at decoded
    · cases decoded
    rename_i magic major type len rest header
    dsimp only at decoded
    split at decoded
    · cases decoded
    rename_i sameMagic
    split at decoded
    · cases decoded
    rename_i sameMajor
    split at decoded
    · cases decoded
    rename_i _ type found
    split at decoded
    · cases decoded
    rename_i small
    split at decoded
    · cases decoded
    rename_i complete
    split at decoded
    · cases decoded
    rename_i sum
    obtain ⟨rfl, rfl⟩ := Prod.mk.inj (Except.ok.inj decoded)
    obtain rfl := MsgType.ofRaw?_eq_some.mp found
    rw [not_not] at sameMagic sameMajor sum
    subst sameMagic sameMajor
    have length : ((data.drop headerSize).take len.toNat).length = len.toNat := by
      rw [List.length_take, List.length_drop]
      unfold trailerSize at complete
      omega
    have first :
        data.take headerSize = frameHeader ⟨type, (data.drop headerSize).take len.toNat⟩ := by
      rw [frameHeader_of_length length, run_readFrameHeader_eq_ok.mp header]
      exact List.take_left' (by simp [WireWriter.u32, WireWriter.u16, headerSize])
    refine ⟨length.trans_le (not_lt.mp small), by rw [length], ?_⟩
    exact (begins_withChecksum_iff (length_frameHeader _) length).mpr
      ⟨not_lt.mp complete, first, rfl, sum⟩
  · rintro ⟨small, rfl, begins⟩
    obtain ⟨type, payload⟩ := f
    obtain ⟨long, first, body, sum⟩ :=
      (begins_withChecksum_iff (length_frameHeader _) rfl).mp begins
    dsimp only at small long body sum ⊢
    have header : readFrameHeader.run data = .ok ((frameMagic, protocolMajor, type.toRaw,
        UInt32.ofNat payload.length), data.drop headerSize) := by
      refine run_readFrameHeader_eq_ok.mpr ?_
      show data = frameHeader ⟨type, payload⟩ ++ data.drop headerSize
      rw [← first, List.take_append_drop]
    unfold deserializeFrame trailerSize
    rw [if_neg (by omega), header]
    dsimp only
    rw [MsgType.ofRaw?_eq_some.mpr rfl]
    dsimp only
    rw [length_payload small, sum, body]
    simp [not_lt.mpr small, not_lt.mpr long]

theorem serializeFrame_eq_ok {f : Frame} {bytes : Bytes} :
    serializeFrame f = .ok bytes ↔
      f.payload.length ≤ maxFrame ∧ bytes = withChecksum (frameHeader f ++ f.payload) := by
  unfold serializeFrame
  split
  · rename_i large
    exact ⟨nofun, fun ⟨small, _⟩ => absurd small (not_le.mpr large)⟩
  · rename_i small
    rw [Except.ok.injEq]
    exact ⟨fun same => ⟨not_lt.mp small, same.symm⟩, fun ⟨_, same⟩ => same.symm⟩

theorem length_serializeFrame {f : Frame} {bytes : Bytes} (written : serializeFrame f = .ok bytes) :
    bytes.length = headerSize + f.payload.length + trailerSize := by
  obtain ⟨_, rfl⟩ := serializeFrame_eq_ok.mp written
  exact length_checkedFrame f

/-- The deserializer returns what the serializer writes, whatever follows it. -/
theorem deserializeFrame_iff_serializeFrame {data : Bytes} {f : Frame} {consumed : Nat} :
    deserializeFrame data = .ok (f, consumed) ↔
      consumed ≤ data.length ∧ serializeFrame f = .ok (data.take consumed) := by
  rw [deserializeFrame_eq_ok]
  constructor
  · rintro ⟨small, rfl, rest, rfl⟩
    have written := serializeFrame_eq_ok.mpr ⟨small, rfl⟩
    have length := length_serializeFrame written
    rw [← length, List.take_left]
    refine ⟨?_, written⟩
    rw [List.length_append]
    exact Nat.le_add_right _ _
  · rintro ⟨within, written⟩
    obtain ⟨small, same⟩ := serializeFrame_eq_ok.mp written
    have length := length_serializeFrame written
    rw [List.length_take, min_eq_left within] at length
    refine ⟨small, length, data.drop consumed, ?_⟩
    rw [← same, List.take_append_drop]

/-! ## Streams of frames -/

/-- Takes `n` frames off a buffer, each from where the last ended. -/
def deserializeFrames : Nat → Bytes → Except String (List Frame × Bytes)
  | 0, data => .ok ([], data)
  | n + 1, data =>
      match deserializeFrame data with
      | .error refusal => .error refusal
      | .ok (f, consumed) =>
          match deserializeFrames n (data.drop consumed) with
          | .error refusal => .error refusal
          | .ok (frames, rest) => .ok (f :: frames, rest)

/-- One frame is taken off, and the rest are taken from what follows it. -/
theorem deserializeFrames_serialized {f : Frame} {chunk : Bytes}
    (written : serializeFrame f = .ok chunk) (n : Nat) (rest : Bytes) :
    deserializeFrames (n + 1) (chunk ++ rest) =
      (deserializeFrames n rest).map fun read => (f :: read.1, read.2) := by
  have first : deserializeFrame (chunk ++ rest) = .ok (f, chunk.length) := by
    refine deserializeFrame_iff_serializeFrame.mpr ⟨?_, ?_⟩
    · rw [List.length_append]
      exact Nat.le_add_right _ _
    · rw [List.take_left, written]
  rw [deserializeFrames, first]
  dsimp only
  rw [List.drop_left]
  cases deserializeFrames n rest <;> rfl

theorem deserializeFrames_concat {frames : List Frame} {stream : Bytes}
    (written : concat (frames.map serializeFrame) = .ok stream) (trailing : Bytes) :
    deserializeFrames frames.length (stream ++ trailing) = .ok (frames, trailing) := by
  induction frames generalizing stream with
  | nil =>
      obtain rfl := Except.ok.inj written
      rfl
  | cons f frames inductionHypothesis =>
      rw [List.map_cons] at written
      obtain ⟨chunk, others, chunkOk, othersOk, rfl⟩ := concat_cons_eq_ok.mp written
      rw [List.length_cons, List.append_assoc, deserializeFrames_serialized chunkOk,
        inductionHypothesis othersOk]
      rfl

theorem exists_concat_serializeFrame {frames : List Frame}
    (small : ∀ f ∈ frames, f.payload.length ≤ maxFrame) :
    ∃ stream, concat (frames.map serializeFrame) = .ok stream := by
  induction frames with
  | nil => exact ⟨[], rfl⟩
  | cons f frames inductionHypothesis =>
      obtain ⟨others, othersOk⟩ :=
        inductionHypothesis fun g member => small g (List.mem_cons_of_mem _ member)
      have chunkOk := serializeFrame_eq_ok.mpr ⟨small f List.mem_cons_self, rfl⟩
      exact ⟨_, concat_cons_eq_ok.mpr ⟨_, others, chunkOk, othersOk, rfl⟩⟩

/-- The stream codec. The frames that were serialized one after another are taken off in
order down to the bytes that follow the last; and only what a frame serializes to is
taken for it. -/
theorem frame_stream_codec :
    (∀ (frames : List Frame) (trailing : Bytes),
      (∀ f ∈ frames, f.payload.length ≤ maxFrame) →
      ∃ stream, concat (frames.map serializeFrame) = .ok stream ∧
        deserializeFrames frames.length (stream ++ trailing) = .ok (frames, trailing)) ∧
    ∀ (data : Bytes) (f : Frame) (consumed : Nat), deserializeFrame data = .ok (f, consumed) →
      consumed ≤ data.length ∧ serializeFrame f = .ok (data.take consumed) := by
  refine ⟨fun frames trailing small => ?_, fun data f consumed decoded =>
    deserializeFrame_iff_serializeFrame.mp decoded⟩
  obtain ⟨stream, written⟩ := exists_concat_serializeFrame small
  exact ⟨stream, written, deserializeFrames_concat written trailing⟩

/-- Two frames and a byte after them. -/
theorem frame_stream_codec_pair :
    ∃ stream, concat ([⟨.hello, []⟩, ⟨.ack, [1, 2]⟩].map serializeFrame) = .ok stream ∧
      deserializeFrames 2 (stream ++ [7]) = .ok ([⟨.hello, []⟩, ⟨.ack, [1, 2]⟩], [7]) :=
  frame_stream_codec.1 [⟨.hello, []⟩, ⟨.ack, [1, 2]⟩] [7] (by decide)

end PowerGovernor
