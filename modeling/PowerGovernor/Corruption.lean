import PowerGovernor.Persistence.Envelope
import PowerGovernor.Protocol.Transport

/-!
Corrupted records and frames.

Owns the detection of bursts: a persistence record, and a frame behind its header, in
which something changed within four consecutive bytes is refused.
-/

set_option autoImplicit false

namespace PowerGovernor

variable {first : Nat} {corrupted : Bytes}

/-- A record with a burst anywhere in it is not an envelope. -/
theorem decodeEnvelope_of_burst {e : PersistEnvelope} {record : Bytes}
    (encoded : encodeEnvelope e = .ok record) (changed : corrupted ≠ record)
    (burst : AgreeOutside first 4 record corrupted) (e' : PersistEnvelope) :
    decodeEnvelope corrupted ≠ .ok e' := by
  intro decoded
  obtain ⟨_, _, rfl⟩ := decodeEnvelope_eq_ok.mp decoded
  unfold encodeEnvelope at encoded
  split at encoded
  · cases encoded
  obtain rfl := Except.ok.inj encoded
  exact changed (withChecksum_eq_of_agreeOutside burst).symm

/-- Frames with one header announce one length. -/
theorem length_payload_eq {f f' : Frame} (small : f.payload.length ≤ maxFrame)
    (small' : f'.payload.length ≤ maxFrame) (header : frameHeader f = frameHeader f') :
    f.payload.length = f'.payload.length := by
  rw [← decode_len small, header, decode_len small']

/-- A frame with a burst behind its header is refused. -/
theorem deserializeFrame_of_burst {f : Frame} {written : Bytes}
    (serialized : serializeFrame f = .ok written) (changed : corrupted ≠ written)
    (behind : headerSize ≤ first) (burst : AgreeOutside first 4 written corrupted)
    (f' : Frame) (consumed : Nat) : deserializeFrame corrupted ≠ .ok (f', consumed) := by
  intro decoded
  obtain ⟨small, rfl⟩ := serializeFrame_eq_ok.mp serialized
  obtain ⟨small', _, rest, rfl⟩ := deserializeFrame_eq_ok.mp decoded
  have header : frameHeader f = frameHeader f' := by
    have taken : (withChecksum (frameHeader f ++ f.payload)).take headerSize =
        (withChecksum (frameHeader f' ++ f'.payload) ++ rest).take headerSize := by
      apply List.ext_getElem?
      intro j
      rw [List.getElem?_take, List.getElem?_take]
      split
      · rename_i inside
        exact burst.2 j (.inl (by omega))
      · rfl
    rw [withChecksum_append, withChecksum_append, List.append_assoc,
      List.take_left' (length_frameHeader f), List.take_left' (length_frameHeader f')] at taken
    exact taken
  have length := burst.1
  rw [List.length_append, length_checkedFrame, length_checkedFrame,
    length_payload_eq small small' header] at length
  obtain rfl : rest = [] := List.eq_nil_of_length_eq_zero (by omega)
  rw [List.append_nil] at burst changed
  exact changed (withChecksum_eq_of_agreeOutside burst).symm

/-- Burst corruption is always detected: in a record anywhere, in a frame behind the
header. -/
theorem bursts_detected :
    (∀ (e : PersistEnvelope) (record corrupted : Bytes) (first : Nat),
      encodeEnvelope e = .ok record → corrupted ≠ record → AgreeOutside first 4 record corrupted →
      ∃ refusal, decodeEnvelope corrupted = .error refusal) ∧
    ∀ (f : Frame) (written corrupted : Bytes) (first : Nat),
      serializeFrame f = .ok written → corrupted ≠ written → headerSize ≤ first →
      AgreeOutside first 4 written corrupted →
      ∃ refusal, deserializeFrame corrupted = .error refusal := by
  constructor
  · intro e record corrupted first encoded changed burst
    cases decoded : decodeEnvelope corrupted with
    | error refusal => exact ⟨refusal, rfl⟩
    | ok e' => exact absurd decoded (decodeEnvelope_of_burst encoded changed burst e')
  · intro f written corrupted first serialized changed behind burst
    cases decoded : deserializeFrame corrupted with
    | error refusal => exact ⟨refusal, rfl⟩
    | ok read =>
        exact absurd decoded
          (deserializeFrame_of_burst serialized changed behind burst read.1 read.2)

/-- A blob of one byte that is overwritten, and a greeting whose checksum is. -/
theorem bursts_detected_small :
    (∃ refusal, decodeEnvelope (envelopeHeader ⟨1, [5]⟩ ++ [6] ++
      LittleEndian.encode 4 (crc32 (envelopeHeader ⟨1, [5]⟩ ++ [5])).toNat) = .error refusal) ∧
    ∃ refusal, deserializeFrame (frameHeader ⟨.hello, []⟩ ++ [0, 0, 0, 0] ++ []) =
      .error refusal := by
  have greeting : serializeFrame ⟨.hello, []⟩ =
      .ok (frameHeader ⟨.hello, []⟩ ++ [196, 90, 203, 232] ++ []) := by
    decide +kernel
  constructor
  · exact bursts_detected.1 ⟨1, [5]⟩ _ _ 12 rfl (by decide +kernel)
      (agreeOutside_window (envelopeHeader ⟨1, [5]⟩) _ rfl (by decide))
  · exact bursts_detected.2 ⟨.hello, []⟩ _ _ 12 greeting (by decide +kernel) (by decide)
      (agreeOutside_window (frameHeader ⟨.hello, []⟩) [] rfl (by decide))

end PowerGovernor
