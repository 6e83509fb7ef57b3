import PowerGovernor.Protocol.Frames

/-!
Frames over a connection.

Owns what the receiver relies on in a transport, the two loops that read from it, and
the agreement of the receiver with the buffer decoder however the stream is cut.

Does not own sending.
-/

set_option autoImplicit false

namespace PowerGovernor

variable {σ : Type}

/-- A connection whose state holds a stream of unread bytes. A call of `recv` returns a
positive number of the next bytes, at most as many as asked for, or signals the end. -/
structure Transport (σ : Type) where
  unread : σ → Bytes
  recv : σ → Nat → Option (Bytes × σ)
  hands : ∀ {s n chunk s'}, recv s n = some (chunk, s') →
    0 < chunk.length ∧ chunk.length ≤ n ∧ unread s = chunk ++ unread s'
  ends : ∀ {s n}, 0 < n → recv s n = none → unread s = []

/-! ## Receiving -/

/-- The loop of `sock_recv_exact`, with the bytes it has got so far. -/
def sockRecvExactLoop (t : Transport σ) (n : Nat) (got : Bytes) (s : σ) : Option Bytes × σ :=
  if got.length < n then
    match _received : t.recv s (n - got.length) with
    | none => (none, s)
    | some (chunk, s') => sockRecvExactLoop t n (got ++ chunk) s'
  else (some got, s)
termination_by n - got.length
decreasing_by
  have := (t.hands ‹_›).1
  rw [List.length_append]
  omega

def sockRecvExact (t : Transport σ) (s : σ) (n : Nat) : Option Bytes × σ :=
  sockRecvExactLoop t n [] s

def recvFrame (t : Transport σ) (s : σ) : Option Frame × σ :=
  match sockRecvExact t s headerSize with
  | (none, s) => (none, s)
  | (some header, s) =>
    -- The version and the type are put together here as well, and not looked at.
    if LittleEndian.decode (header.take 4) ≠ frameMagic.toNat then (none, s)
    else
      let len := LittleEndian.decode ((header.drop 8).take 4)
      if maxFrame < len then (none, s)
      else match sockRecvExact t s (len + trailerSize) with
      | (none, s) => (none, s)
      | (some body, s) =>
        match deserializeFrame (header ++ body) with
        | .error _ => (none, s)
        | .ok (f, _) => (some f, s)

/-! ## Exact reads -/

/-- The loop ends with the bytes it had and the next ones, however they are cut. -/
theorem sockRecvExactLoop_eq (t : Transport σ) (n : Nat) (got : Bytes) (s : σ)
    (within : got.length ≤ n) {p rest : Bytes} :
    (∃ s', sockRecvExactLoop t n got s = (some p, s') ∧ t.unread s' = rest) ↔
      p.length = n ∧ got ++ t.unread s = p ++ rest := by
  fun_induction sockRecvExactLoop t n got s with
  | case1 got s short ended =>
      have exhausted := t.ends (by omega) ended
      constructor
      · rintro ⟨s', impossible, _⟩
        cases impossible
      · rintro ⟨length, same⟩
        have total := congrArg List.length same
        rw [exhausted, List.append_nil, List.length_append] at total
        omega
  | case2 got s short chunk s' received inductionHypothesis =>
      obtain ⟨positive, bounded, next⟩ := t.hands received
      have fits : (got ++ chunk).length ≤ n := by
        rw [List.length_append]
        omega
      rw [inductionHypothesis fits, next, List.append_assoc]
  | case3 got s enough =>
      constructor
      · rintro ⟨s', ⟨⟩, rfl⟩
        exact ⟨by omega, rfl⟩
      · rintro ⟨length, same⟩
        obtain ⟨rfl, rfl⟩ := List.append_inj same (by omega)
        exact ⟨s, rfl, rfl⟩

/-- An exact read takes the next `n` bytes off the stream. -/
theorem sockRecvExact_eq {t : Transport σ} {s : σ} {n : Nat} {p rest : Bytes} :
    (∃ s', sockRecvExact t s n = (some p, s') ∧ t.unread s' = rest) ↔
      p.length = n ∧ t.unread s = p ++ rest :=
  sockRecvExactLoop_eq t n [] s (Nat.zero_le n)

/-! ## The header -/

theorem decode_magic (f : Frame) :
    LittleEndian.decode ((frameHeader f).take 4) = frameMagic.toNat := by
  have word : (frameHeader f).take 4 = WireWriter.u32 frameMagic :=
    List.take_left' (by simp [WireWriter.u32])
  rw [word]
  exact LittleEndian.decode_encode_of_lt (UInt32.toNat_lt _)

theorem decode_len {f : Frame} (small : f.payload.length ≤ maxFrame) :
    LittleEndian.decode (((frameHeader f).drop 8).take 4) = f.payload.length := by
  have word : (frameHeader f).drop 8 = WireWriter.u32 (UInt32.ofNat f.payload.length) := by
    have split : frameHeader f = (WireWriter.u32 frameMagic ++ (WireWriter.u16 protocolMajor ++
        WireWriter.u16 f.type.toRaw)) ++ WireWriter.u32 (UInt32.ofNat f.payload.length) := by
      simp only [frameHeader, List.append_assoc]
    rw [split]
    exact List.drop_left' (by simp [WireWriter.u32, WireWriter.u16])
  have length : (WireWriter.u32 (UInt32.ofNat f.payload.length)).length = 4 :=
    LittleEndian.length_encode _ _
  rw [word, List.take_of_length_le length.le]
  exact (LittleEndian.decode_encode_of_lt (UInt32.toNat_lt _)).trans (length_payload small)

/-! ## The receiver -/

/-- A frame is received from a stream that begins with it and its checksum, and the
stream is left where the checksum ends. -/
theorem recvFrame_eq_some {t : Transport σ} {s : σ} {f : Frame} {rest : Bytes} :
    (∃ s', recvFrame t s = (some f, s') ∧ t.unread s' = rest) ↔
      f.payload.length ≤ maxFrame ∧
        t.unread s = withChecksum (frameHeader f ++ f.payload) ++ rest := by
  constructor
  · rintro ⟨s', received, rfl⟩
    unfold recvFrame at received
    split at received
    · cases received
    rename_i header s₁ readHeader
    split at received
    · cases received
    dsimp only at received
    split at received
    · cases received
    split at received
    · cases received
    rename_i body s₂ readBody
    split at received
    · cases received
    rename_i f' consumed decoded
    obtain ⟨headerLength, headerSplit⟩ := sockRecvExact_eq.mp ⟨s₁, readHeader, rfl⟩
    obtain ⟨bodyLength, bodySplit⟩ := sockRecvExact_eq.mp ⟨s₂, readBody, rfl⟩
    obtain ⟨⟨⟩, rfl⟩ := Prod.mk.inj received
    obtain ⟨small, _, rest, whole⟩ := deserializeFrame_eq_ok.mp decoded
    refine ⟨small, ?_⟩
    have fields : header ++ body = frameHeader f ++ (f.payload ++
        (LittleEndian.encode 4 (crc32 (frameHeader f ++ f.payload)).toNat ++ rest)) := by
      rw [whole, withChecksum_append, List.append_assoc, List.append_assoc]
    obtain ⟨rfl, _⟩ := List.append_inj fields (headerLength.trans (length_frameHeader f).symm)
    -- What was asked for is a frame's length, so the decoder left nothing over.
    rw [decode_len small] at bodyLength
    have counted := congrArg List.length whole
    rw [List.length_append, List.length_append, length_checkedFrame, length_frameHeader,
      bodyLength] at counted
    obtain rfl : rest = [] := List.eq_nil_of_length_eq_zero (by omega)
    rw [headerSplit, bodySplit, ← List.append_assoc, whole, List.append_nil]
  · rintro ⟨small, same⟩
    let trailer := LittleEndian.encode 4 (crc32 (frameHeader f ++ f.payload)).toNat
    have bodyLength : (f.payload ++ trailer).length = f.payload.length + trailerSize := by
      rw [List.length_append, LittleEndian.length_encode]
      rfl
    have whole : frameHeader f ++ (f.payload ++ trailer) =
        withChecksum (frameHeader f ++ f.payload) := (withChecksum_append _ _).symm
    have split : t.unread s = frameHeader f ++ ((f.payload ++ trailer) ++ rest) := by
      rw [same, ← whole, List.append_assoc]
    obtain ⟨s₁, readHeader, unread₁⟩ := sockRecvExact_eq.mpr ⟨length_frameHeader f, split⟩
    obtain ⟨s₂, readBody, unread₂⟩ := sockRecvExact_eq.mpr ⟨bodyLength, unread₁⟩
    have decoded := deserializeFrame_eq_ok.mpr
      ⟨small, rfl, [], (whole.trans (List.append_nil _).symm)⟩
    refine ⟨s₂, ?_, unread₂⟩
    unfold recvFrame
    rw [readHeader]
    dsimp only
    rw [decode_magic, decode_len small, if_neg (not_not.mpr rfl), if_neg (not_lt.mpr small),
      readBody]
    dsimp only
    rw [decoded]

/-- The receiver and the buffer decoder agree: a frame is returned with `k` bytes taken
from the stream if and only if the decoder finds it in the first `k` bytes. -/
theorem recvFrame_iff_deserializeFrame (t : Transport σ) (s : σ) (f : Frame) (k : Nat) :
    (∃ s' taken, recvFrame t s = (some f, s') ∧ t.unread s = taken ++ t.unread s' ∧
      taken.length = k) ↔ deserializeFrame (t.unread s) = .ok (f, k) := by
  rw [deserializeFrame_eq_ok]
  have length := length_checkedFrame f
  constructor
  · rintro ⟨s', taken, received, split, rfl⟩
    obtain ⟨small, same⟩ := recvFrame_eq_some.mp ⟨s', received, rfl⟩
    obtain rfl := List.append_cancel_right (split.symm.trans same)
    exact ⟨small, length, t.unread s', same⟩
  · rintro ⟨small, rfl, rest, same⟩
    obtain ⟨s', received, rfl⟩ := recvFrame_eq_some.mpr ⟨small, same⟩
    exact ⟨s', _, received, same, length⟩

/-- A transport that hands out one byte on each call. -/
def bytewise : Transport Bytes where
  unread stream := stream
  recv stream n :=
    match n, stream with
    | _ + 1, byte :: rest => some ([byte], rest)
    | _, _ => none
  hands := by
    intro stream n chunk rest received
    split at received
    · obtain ⟨rfl, rfl⟩ := Prod.mk.inj (Option.some.inj received)
      exact ⟨Nat.one_pos, Nat.succ_le_succ (Nat.zero_le _), rfl⟩
    · cases received
  ends := by
    intro stream n positive ended
    cases n with
    | zero => omega
    | succ n =>
        cases stream with
        | nil => rfl
        | cons byte rest => cases ended

/-- A greeting and a byte after it. -/
def helloStream : Bytes := [80, 71, 84, 67, 1, 0, 1, 0, 0, 0, 0, 0, 196, 90, 203, 232, 7]

theorem recvFrame_helloStream :
    ∃ s' taken, recvFrame bytewise helloStream = (some ⟨.hello, []⟩, s') ∧
      helloStream = taken ++ s' ∧ taken.length = 16 :=
  (recvFrame_iff_deserializeFrame bytewise helloStream ⟨.hello, []⟩ 16).mpr (by decide +kernel)

end PowerGovernor
