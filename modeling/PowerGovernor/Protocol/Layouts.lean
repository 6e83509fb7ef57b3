import PowerGovernor.Library.Layout
import PowerGovernor.Protocol.Messages

/-!
The layouts of the protocol messages.

Owns the byte strings that spell a field and a message, what each encoder writes and
what each decoder reads in these terms, the round trip of every message, and the
payloads that are accepted. A flag is written as zero or one and read as set from any
other byte, which is all that tells what is written from what is read.
-/

set_option autoImplicit false

namespace PowerGovernor

open Layout (Takes emitted)

/-! ## Fields -/

/-- The byte a flag is written as. -/
def WireWriter.flag (b : Bool) : Language UInt8 := {bool b}

/-- The bytes a flag is read from. -/
def WireReader.flag (b : Bool) : Language UInt8 := {bytes | ∃ v : UInt8, (v != 0) = b ∧ bytes = [v]}

theorem WireWriter.flag_le (b : Bool) : WireWriter.flag b ≤ WireReader.flag b := by
  rintro bytes rfl
  cases b
  · exact ⟨0, rfl, rfl⟩
  · exact ⟨1, rfl, rfl⟩

namespace WireReader

theorem takes_u8 (v : UInt8) : Takes u8 v True {WireWriter.u8 v} := by
  have takes := Layout.takes_uint8 () v
  have byte : LittleEndian.encode 1 v.toNat = [v] := by
    rw [LittleEndian.encode, LittleEndian.encode, UInt8.ofNat_toNat]
  rw [byte] at takes
  exact takes

theorem takes_u16 (v : UInt16) : Takes u16 v True {WireWriter.u16 v} := Layout.takes_uint16 () v

theorem takes_u32 (v : UInt32) : Takes u32 v True {WireWriter.u32 v} := Layout.takes_uint32 () v

theorem takes_u64 (v : UInt64) : Takes u64 v True {WireWriter.u64 v} := Layout.takes_uint64 () v

theorem takes_i64 (v : Int64) : Takes i64 v True {WireWriter.i64 v} :=
  Takes.map takes_u64 (fun _ _ => rfl) (fun _ => ⟨trivial, rfl⟩) v

theorem takes_i32 (v : Int32) : Takes i32 v True {WireWriter.i32 v} :=
  Takes.map takes_u32 (fun _ _ => rfl) (fun _ => ⟨trivial, rfl⟩) v

theorem takes_bool (b : Bool) : Takes bool b True (flag b) := by
  intro bytes rest
  rw [true_and, Layout.mem_mul_singleton]
  unfold bool
  rw [ByteReader.run_bind_eq_ok]
  constructor
  · rintro ⟨v, middle, read, returned⟩
    obtain ⟨rfl, rfl⟩ := Prod.mk.inj (Except.ok.inj returned)
    obtain ⟨_, spelled⟩ := (takes_u8 v bytes middle).mp read
    obtain ⟨_, rfl, same⟩ := Layout.mem_mul_singleton.mp spelled
    exact ⟨[v], ⟨v, rfl, rfl⟩, same⟩
  · rintro ⟨_, ⟨v, rfl, rfl⟩, same⟩
    refine ⟨v, rest, (takes_u8 v bytes rest).mpr ⟨trivial, ?_⟩, rfl⟩
    exact Layout.mem_mul_singleton.mpr ⟨[v], rfl, same⟩

/-- A string is read from what `str` writes. -/
theorem takes_str (s : Bytes) : Takes str s True (emitted (WireWriter.str s)) := by
  intro bytes rest
  rw [true_and, Layout.mem_mul_singleton]
  unfold str
  rw [ByteReader.run_bind_eq_ok]
  constructor
  · rintro ⟨len, middle, read, readRest⟩
    obtain ⟨_, spelled⟩ := (takes_u32 len bytes middle).mp read
    obtain ⟨_, rfl, rfl⟩ := Layout.mem_mul_singleton.mp spelled
    obtain ⟨length, spelledRest⟩ := (Layout.takes_raw () len.toNat s middle rest).mp readRest
    obtain ⟨_, ⟨⟩, rfl⟩ := Layout.mem_mul_singleton.mp spelledRest
    refine ⟨WireWriter.u32 len ++ s, ?_, List.append_assoc _ _ _⟩
    have short := len.toNat_lt
    unfold WireWriter.str
    rw [Layout.mem_emitted, if_neg (by omega), length, UInt32.ofNat_toNat]
  · rintro ⟨chunk, written, rfl⟩
    rw [Layout.mem_emitted] at written
    unfold WireWriter.str at written
    split at written
    · cases written
    rename_i short
    obtain rfl := Except.ok.inj written
    have length : (UInt32.ofNat s.length).toNat = s.length :=
      UInt32.toNat_ofNat_of_lt' (by simp [UInt32.size]; omega)
    refine ⟨UInt32.ofNat s.length, s ++ rest, ?_, ?_⟩
    · refine (takes_u32 _ _ _).mpr ⟨trivial, ?_⟩
      exact Layout.mem_mul_singleton.mpr ⟨_, rfl, (List.append_assoc _ _ _).symm⟩
    · refine (Layout.takes_raw () _ s _ rest).mpr ⟨length.symm, ?_⟩
      exact Layout.mem_mul_singleton.mpr ⟨s, rfl, rfl⟩

theorem takes_enum (last v : UInt8) : Takes (enum last) v (v ≤ last) {WireWriter.u8 v} := by
  have checks : enum last = u8 >>= fun v => if v ≤ last then pure v else throw () := by
    refine bind_congr fun v => ?_
    by_cases above : last < v
    · rw [if_pos above, if_neg (UInt8.not_le.mpr above)]
    · rw [if_neg above, if_pos (UInt8.not_lt.mp above)]
  rw [checks]
  exact Takes.filter takes_u8 () v

/-- A payload is accepted if it is read to its end. -/
theorem whole_eq_some {α : Type} {f : Frame} {reader : WireReader α} {a : α} {Q : Prop}
    {language : Language UInt8} (takes : Takes reader a Q language) :
    whole f reader = some a ↔ Q ∧ f.payload ∈ language := by
  rw [← takes.run_nil]
  unfold whole
  constructor
  · intro accepted
    split at accepted
    · rename_i m read
      obtain rfl := Option.some.inj accepted
      exact read
    · cases accepted
  · intro read
    rw [read]

end WireReader

/-! ## Layouts -/

section Layouts

open WireWriter (u8 u16 u32 u64 i64 i32 str)

def RegisterMsg.layout (m : RegisterMsg) : Language UInt8 :=
  [{u64 m.worker.raw}, {u64 m.boot.raw}, {u64 m.node.raw}, emitted (str m.name)].prod

def PowerObsMsg.layout (flag : Bool → Language UInt8) (m : PowerObsMsg) : Language UInt8 :=
  [{u64 m.worker.raw}, {u64 m.boot.raw}, {u64 m.epoch.raw}, {u64 m.accel.raw},
    {u64 m.deviceGen.raw}, {u64 m.obsGen.raw}, {i64 m.timestampNs}, flag m.hasPower,
    {i64 m.powerMw}, flag m.hasTemp, {i32 m.tempCenti}, {u32 m.smMhz}, {u32 m.memMhz},
    flag m.hasUtil, {u16 m.utilizationBp}, flag m.hasEnergy, {i64 m.energyMj},
    flag m.throttled, {u8 m.provenance}, emitted (str m.source)].prod

def ThermalObsMsg.layout (flag : Bool → Language UInt8) (m : ThermalObsMsg) : Language UInt8 :=
  [{u64 m.worker.raw}, {u64 m.boot.raw}, {u64 m.epoch.raw}, {u64 m.accel.raw},
    {u64 m.thermGen.raw}, {u64 m.obsGen.raw}, {i64 m.timestampNs}, flag m.hasTemp,
    {i32 m.tempCenti}, {u8 m.state}].prod

def BudgetMsg.layout (flag : Bool → Language UInt8) (m : BudgetMsg) : Language UInt8 :=
  [{u64 m.budget.raw}, {u64 m.generation.raw}, {u64 m.domain.raw}, {u64 m.parent.raw},
    emitted (str m.name), {i64 m.hardMaxMw}, {i64 m.softMw}, {i64 m.minReserveMw},
    {i64 m.burstMw}, {i64 m.burstWindowNs}, {i64 m.recoveryNs}, {i32 m.priority},
    flag m.authoritative, {u64 m.policyGen}].prod

def ReserveMsg.layout (m : ReserveMsg) : Language UInt8 :=
  [{u64 m.reservation.raw}, {u64 m.budget.raw}, {i64 m.requestedMw}, {i64 m.requestedMj},
    {u64 m.budgetGen.raw}, {u64 m.reservationGen.raw}, {u64 m.policyGen.raw},
    {u64 m.deviceGen.raw}, {u64 m.workload.raw}, {u8 m.cls}, {u64 m.scope.raw},
    {u64 m.epoch.raw}, {u64 m.boot.raw}, {i64 m.timestampNs}, {i64 m.validityNs}].prod

def BudgetActionMsg.layout (m : BudgetActionMsg) : Language UInt8 :=
  [{u64 m.reservation.raw}, {u64 m.budget.raw}, {i64 m.amountMw}, {u64 m.budgetGen.raw},
    {u64 m.epoch.raw}, {u64 m.boot.raw}].prod

def AckMsg.layout (flag : Bool → Language UInt8) (m : AckMsg) : Language UInt8 :=
  [{u64 m.messageId}, flag m.ok, emitted (str m.message)].prod

end Layouts

/-! ## Encoders write layouts -/

section Encoders

open Layout (emitted_ok mem_prod_map_emitted singleton_mul_singleton)

variable {bytes : Bytes}

theorem encodeRegister_eq_ok {m : RegisterMsg} :
    encodeRegister m = .ok bytes ↔ bytes ∈ m.layout := by
  unfold encodeRegister
  rw [← mem_prod_map_emitted]
  simp only [List.map_cons, List.map_nil, emitted_ok]
  rfl

theorem encodePowerObs_eq_ok {m : PowerObsMsg} :
    encodePowerObs m = .ok bytes ↔ bytes ∈ m.layout WireWriter.flag := by
  unfold encodePowerObs
  rw [← mem_prod_map_emitted]
  simp only [List.map_cons, List.map_nil, emitted_ok]
  rfl

theorem encodeBudgetMsg_eq_ok {m : BudgetMsg} :
    encodeBudgetMsg m = .ok bytes ↔ bytes ∈ m.layout WireWriter.flag := by
  unfold encodeBudgetMsg
  rw [← mem_prod_map_emitted]
  simp only [List.map_cons, List.map_nil, emitted_ok]
  rfl

theorem encodeAck_eq_ok {m : AckMsg} :
    encodeAck m = .ok bytes ↔ bytes ∈ m.layout WireWriter.flag := by
  unfold encodeAck
  rw [← mem_prod_map_emitted]
  simp only [List.map_cons, List.map_nil, emitted_ok]
  rfl

theorem encodeThermalObs_eq {m : ThermalObsMsg} :
    encodeThermalObs m = bytes ↔ bytes ∈ m.layout WireWriter.flag := by
  have written : m.layout WireWriter.flag = {encodeThermalObs m} := by
    simp only [ThermalObsMsg.layout, encodeThermalObs, WireWriter.flag, List.prod_cons,
      List.prod_nil, mul_one, singleton_mul_singleton, List.append_assoc]
  rw [written]
  exact eq_comm

theorem encodeReserve_eq {m : ReserveMsg} : encodeReserve m = bytes ↔ bytes ∈ m.layout := by
  have written : m.layout = {encodeReserve m} := by
    simp only [ReserveMsg.layout, encodeReserve, List.prod_cons, List.prod_nil, mul_one,
      singleton_mul_singleton, List.append_assoc]
  rw [written]
  exact eq_comm

theorem encodeBudgetAction_eq {m : BudgetActionMsg} :
    encodeBudgetAction m = bytes ↔ bytes ∈ m.layout := by
  have written : m.layout = {encodeBudgetAction m} := by
    simp only [BudgetActionMsg.layout, encodeBudgetAction, List.prod_cons, List.prod_nil, mul_one,
      singleton_mul_singleton, List.append_assoc]
  rw [written]
  exact eq_comm

end Encoders

/-! ## Decoders read layouts -/

section Decoders

open WireReader (takes_u8 takes_u16 takes_u32 takes_u64 takes_i64 takes_i32 takes_bool takes_str
  takes_enum whole_eq_some)

variable {f : Frame}

theorem decodeRegister_eq_some {m : RegisterMsg} :
    decodeRegister f = some m ↔ f.payload ∈ m.layout := by
  refine (whole_eq_some ?_).trans (iff_of_eq (true_and _))
  iterate 3 refine .field takes_u64 fun _ => ?_
  refine .field takes_str fun _ => ?_
  refine .done ⟨?_, ?_⟩
  · rintro ⟨rfl, rfl, rfl, rfl, _⟩
    rfl
  · rintro rfl
    exact ⟨rfl, rfl, rfl, rfl, trivial⟩

theorem decodePowerObs_eq_some {m : PowerObsMsg} :
    decodePowerObs f = some m ↔ f.payload ∈ m.layout WireReader.flag := by
  refine (whole_eq_some ?_).trans (iff_of_eq (true_and _))
  iterate 6 refine .field takes_u64 fun _ => ?_
  refine .field takes_i64 fun _ => ?_
  refine .field takes_bool fun _ => ?_
  refine .field takes_i64 fun _ => ?_
  refine .field takes_bool fun _ => ?_
  refine .field takes_i32 fun _ => ?_
  iterate 2 refine .field takes_u32 fun _ => ?_
  refine .field takes_bool fun _ => ?_
  refine .field takes_u16 fun _ => ?_
  refine .field takes_bool fun _ => ?_
  refine .field takes_i64 fun _ => ?_
  refine .field takes_bool fun _ => ?_
  refine .field takes_u8 fun _ => ?_
  refine .field takes_str fun _ => ?_
  refine .done ⟨?_, ?_⟩
  · rintro ⟨rfl, rfl, rfl, rfl, rfl, rfl, rfl, rfl, rfl, rfl, rfl, rfl, rfl, rfl, rfl, rfl, rfl,
      rfl, rfl, rfl, _⟩
    rfl
  · rintro rfl
    simp only [and_true]

theorem decodeThermalObs_eq_some {m : ThermalObsMsg} :
    decodeThermalObs f = some m ↔ m.state ≤ 6 ∧ f.payload ∈ m.layout WireReader.flag := by
  refine whole_eq_some ?_
  iterate 6 refine .field takes_u64 fun _ => ?_
  refine .field takes_i64 fun _ => ?_
  refine .field takes_bool fun _ => ?_
  refine .field takes_i32 fun _ => ?_
  refine .checked (takes_enum 6) ?_ fun _ inRange => ?_
  · rintro ⟨_, _, _, _, _, _, _, _, _, inRange⟩
    exact inRange
  refine .done ⟨?_, ?_⟩
  · rintro ⟨rfl, rfl, rfl, rfl, rfl, rfl, rfl, rfl, rfl, rfl, _⟩
    rfl
  · rintro rfl
    simp only [inRange, and_true]

theorem decodeBudgetMsg_eq_some {m : BudgetMsg} :
    decodeBudgetMsg f = some m ↔ f.payload ∈ m.layout WireReader.flag := by
  refine (whole_eq_some ?_).trans (iff_of_eq (true_and _))
  iterate 4 refine .field takes_u64 fun _ => ?_
  refine .field takes_str fun _ => ?_
  iterate 6 refine .field takes_i64 fun _ => ?_
  refine .field takes_i32 fun _ => ?_
  refine .field takes_bool fun _ => ?_
  refine .field takes_u64 fun _ => ?_
  refine .done ⟨?_, ?_⟩
  · rintro ⟨rfl, rfl, rfl, rfl, rfl, rfl, rfl, rfl, rfl, rfl, rfl, rfl, rfl, rfl, _⟩
    rfl
  · rintro rfl
    simp only [and_true]

theorem decodeReserve_eq_some {m : ReserveMsg} :
    decodeReserve f = some m ↔ m.cls ≤ 7 ∧ f.payload ∈ m.layout := by
  refine whole_eq_some ?_
  iterate 2 refine .field takes_u64 fun _ => ?_
  iterate 2 refine .field takes_i64 fun _ => ?_
  iterate 5 refine .field takes_u64 fun _ => ?_
  refine .checked (takes_enum 7) ?_ fun _ inRange => ?_
  · rintro ⟨_, _, _, _, _, _, _, _, _, inRange⟩
    exact inRange
  iterate 3 refine .field takes_u64 fun _ => ?_
  iterate 2 refine .field takes_i64 fun _ => ?_
  refine .done ⟨?_, ?_⟩
  · rintro ⟨rfl, rfl, rfl, rfl, rfl, rfl, rfl, rfl, rfl, rfl, rfl, rfl, rfl, rfl, rfl, _⟩
    rfl
  · rintro rfl
    simp only [inRange, and_true]

theorem decodeBudgetAction_eq_some {m : BudgetActionMsg} :
    decodeBudgetAction f = some m ↔ f.payload ∈ m.layout := by
  refine (whole_eq_some ?_).trans (iff_of_eq (true_and _))
  iterate 2 refine .field takes_u64 fun _ => ?_
  refine .field takes_i64 fun _ => ?_
  iterate 3 refine .field takes_u64 fun _ => ?_
  refine .done ⟨?_, ?_⟩
  · rintro ⟨rfl, rfl, rfl, rfl, rfl, rfl, _⟩
    rfl
  · rintro rfl
    simp only [and_true]

theorem decodeAck_eq_some {m : AckMsg} :
    decodeAck f = some m ↔ f.payload ∈ m.layout WireReader.flag := by
  refine (whole_eq_some ?_).trans (iff_of_eq (true_and _))
  refine .field takes_u64 fun _ => ?_
  refine .field takes_bool fun _ => ?_
  refine .field takes_str fun _ => ?_
  refine .done ⟨?_, ?_⟩
  · rintro ⟨rfl, rfl, rfl, _⟩
    rfl
  · rintro rfl
    simp only [and_true]

end Decoders

/-! ## The seven kinds -/

inductive MessageKind where
  | register | powerObs | thermalObs | budget | reserve | budgetAction | ack
deriving DecidableEq

inductive Message where
  | register (m : RegisterMsg)
  | powerObs (m : PowerObsMsg)
  | thermalObs (m : ThermalObsMsg)
  | budget (m : BudgetMsg)
  | reserve (m : ReserveMsg)
  | budgetAction (m : BudgetActionMsg)
  | ack (m : AckMsg)
deriving DecidableEq

/-- The decoder of a kind. -/
def MessageKind.decode (kind : MessageKind) (f : Frame) : Option Message :=
  match kind with
  | .register => (decodeRegister f).map .register
  | .powerObs => (decodePowerObs f).map .powerObs
  | .thermalObs => (decodeThermalObs f).map .thermalObs
  | .budget => (decodeBudgetMsg f).map .budget
  | .reserve => (decodeReserve f).map .reserve
  | .budgetAction => (decodeBudgetAction f).map .budgetAction
  | .ack => (decodeAck f).map .ack

namespace Message

def kind : Message → MessageKind
  | .register _ => .register
  | .powerObs _ => .powerObs
  | .thermalObs _ => .thermalObs
  | .budget _ => .budget
  | .reserve _ => .reserve
  | .budgetAction _ => .budgetAction
  | .ack _ => .ack

def encode : Message → Except Fault Bytes
  | .register m => encodeRegister m
  | .powerObs m => encodePowerObs m
  | .thermalObs m => .ok (encodeThermalObs m)
  | .budget m => encodeBudgetMsg m
  | .reserve m => .ok (encodeReserve m)
  | .budgetAction m => .ok (encodeBudgetAction m)
  | .ack m => encodeAck m

def layout (flag : Bool → Language UInt8) : Message → Language UInt8
  | .register m => m.layout
  | .powerObs m => m.layout flag
  | .thermalObs m => m.layout flag
  | .budget m => m.layout flag
  | .reserve m => m.layout
  | .budgetAction m => m.layout
  | .ack m => m.layout flag

/-- The enumerators that a decoder checks are in range. -/
def Checked : Message → Prop
  | .thermalObs m => m.state ≤ 6
  | .reserve m => m.cls ≤ 7
  | _ => True

/-- Every enumerator is in range, the provenance included. -/
def EnumsInRange : Message → Prop
  | .powerObs m => m.provenance ≤ 4
  | .thermalObs m => m.state ≤ 6
  | .reserve m => m.cls ≤ 7
  | _ => True

/-- The strings have lengths that fit their prefix. -/
def StringsFit : Message → Prop
  | .register m => m.name.length < 4294967296
  | .powerObs m => m.source.length < 4294967296
  | .budget m => m.name.length < 4294967296
  | .ack m => m.message.length < 4294967296
  | _ => True

instance (m : Message) : Decidable m.Checked := by
  cases m <;> unfold Checked <;> infer_instance

instance (m : Message) : Decidable m.StringsFit := by
  cases m <;> unfold StringsFit <;> infer_instance

variable {m : Message} {bytes : Bytes}

theorem encode_eq_ok : m.encode = .ok bytes ↔ bytes ∈ m.layout WireWriter.flag := by
  cases m with
  | register m => exact encodeRegister_eq_ok
  | powerObs m => exact encodePowerObs_eq_ok
  | thermalObs m => exact (iff_of_eq (Except.ok.injEq _ _)).trans encodeThermalObs_eq
  | budget m => exact encodeBudgetMsg_eq_ok
  | reserve m => exact (iff_of_eq (Except.ok.injEq _ _)).trans encodeReserve_eq
  | budgetAction m => exact (iff_of_eq (Except.ok.injEq _ _)).trans encodeBudgetAction_eq
  | ack m => exact encodeAck_eq_ok

theorem decode_eq_some {kind : MessageKind} {f : Frame} :
    kind.decode f = some m ↔ m.kind = kind ∧ m.Checked ∧ f.payload ∈ m.layout WireReader.flag := by
  cases kind <;> cases m <;>
    simp [MessageKind.decode, kind, Checked, layout, decodeRegister_eq_some,
      decodePowerObs_eq_some, decodeThermalObs_eq_some, decodeBudgetMsg_eq_some,
      decodeReserve_eq_some, decodeBudgetAction_eq_some, decodeAck_eq_some]

/-- What is written can be read. -/
theorem layout_le (m : Message) : m.layout WireWriter.flag ≤ m.layout WireReader.flag := by
  have either := WireWriter.flag_le
  cases m with
  | register | reserve | budgetAction => exact le_refl _
  | powerObs | thermalObs | budget | ack =>
      apply Layout.prod_mono
      simp [List.forall₂_cons, either]

/-- A string that fits its prefix is written. -/
theorem exists_str {s : Bytes} (fits : s.length < 4294967296) :
    ∃ bytes, WireWriter.str s = .ok bytes := by
  unfold WireWriter.str
  rw [if_neg (by omega)]
  exact ⟨_, rfl⟩

theorem exists_encode (fits : m.StringsFit) : ∃ payload, m.encode = .ok payload := by
  cases m with
  | register m =>
      obtain ⟨bytes, written⟩ := exists_str fits
      change ∃ payload, encodeRegister m = .ok payload
      unfold encodeRegister
      rw [written]
      exact ⟨_, rfl⟩
  | powerObs m =>
      obtain ⟨bytes, written⟩ := exists_str fits
      change ∃ payload, encodePowerObs m = .ok payload
      unfold encodePowerObs
      rw [written]
      exact ⟨_, rfl⟩
  | budget m =>
      obtain ⟨bytes, written⟩ := exists_str fits
      change ∃ payload, encodeBudgetMsg m = .ok payload
      unfold encodeBudgetMsg
      rw [written]
      exact ⟨_, rfl⟩
  | ack m =>
      obtain ⟨bytes, written⟩ := exists_str fits
      change ∃ payload, encodeAck m = .ok payload
      unfold encodeAck
      rw [written]
      exact ⟨_, rfl⟩
  | thermalObs | reserve | budgetAction => exact ⟨_, rfl⟩

/-- Every message whose strings and checked enumerators fit is read back, from a frame
of any type. -/
theorem round_trip (m : Message) (fits : m.StringsFit) (checked : m.Checked) :
    ∃ payload, m.encode = .ok payload ∧
      ∀ type, m.kind.decode ⟨type, payload⟩ = some m := by
  obtain ⟨payload, encoded⟩ := exists_encode fits
  refine ⟨payload, encoded, fun type => decode_eq_some.mpr ⟨rfl, checked, ?_⟩⟩
  exact m.layout_le (encode_eq_ok.mp encoded)

/-- One message of each kind. -/
def oneOfEach : List Message :=
  [.register ⟨⟨7⟩, ⟨9⟩, ⟨11⟩, [119, 48]⟩,
    .powerObs ⟨⟨7⟩, ⟨9⟩, ⟨1⟩, ⟨1⟩, .first, .first, 5, true, 250000, false, -300, 1500, 900, true,
      9950, false, -1, true, 4, [110, 118]⟩,
    .thermalObs ⟨⟨7⟩, ⟨9⟩, ⟨1⟩, ⟨1⟩, .first, .first, -5, true, 8500, 6⟩,
    .budget ⟨⟨2⟩, .first, ⟨3⟩, ⟨1⟩, [], 200000, 0, 0, -7, 1, 2, -50, false, 4⟩,
    .reserve ⟨⟨0⟩, ⟨2⟩, 150000, 0, .first, .first, .first, .first, ⟨100⟩, 7, ⟨3⟩, ⟨1⟩, ⟨9⟩, 0,
      5000000000⟩,
    .budgetAction ⟨⟨1⟩, ⟨2⟩, 150000, .first, ⟨1⟩, ⟨9⟩⟩,
    .ack ⟨42, false, [110, 111]⟩]

theorem round_trip_oneOfEach : (∀ kind : MessageKind, ∃ m ∈ oneOfEach, m.kind = kind) ∧
    ∀ m ∈ oneOfEach, ∃ payload, m.encode = .ok payload ∧
      ∀ type, m.kind.decode ⟨type, payload⟩ = some m := by
  have fits : ∀ m ∈ oneOfEach, m.StringsFit ∧ m.Checked := by decide
  refine ⟨fun kind => ?_, fun m member => round_trip m (fits m member).1 (fits m member).2⟩
  cases kind <;> decide

/-- The exact language of each decoder. It is the language of the encoder but for the
flags, each of which is set by any byte other than zero. The provenance of a power
observation is only known here to be in range, not found to be. -/
theorem decodes_iff (kind : MessageKind) (type : MsgType) (p : Bytes) (m : Message)
    (provenance : ∀ po, m = .powerObs po → po.provenance ≤ 4) :
    (kind.decode ⟨type, p⟩ = some m ↔
      m.kind = kind ∧ m.EnumsInRange ∧ p ∈ m.layout WireReader.flag) ∧
    (m.encode = .ok p ↔ p ∈ m.layout WireWriter.flag) := by
  refine ⟨decode_eq_some.trans (and_congr_right fun _ => and_congr_left fun _ => ?_),
    encode_eq_ok⟩
  cases m with
  | powerObs po => exact iff_of_true trivial (provenance po rfl)
  | _ => exact Iff.rfl

/-- An ACK whose flag is the byte two. -/
def looseAck : Bytes := [1, 0, 0, 0, 0, 0, 0, 0, 2, 0, 0, 0, 0]

theorem decodes_iff_looseAck :
    (MessageKind.ack.decode ⟨.ack, looseAck⟩ = some (ack ⟨1, true, []⟩) ↔
      MessageKind.ack = .ack ∧ True ∧ looseAck ∈ (ack ⟨1, true, []⟩).layout WireReader.flag) ∧
    ((ack ⟨1, true, []⟩).encode = .ok looseAck ↔
      looseAck ∈ (ack ⟨1, true, []⟩).layout WireWriter.flag) :=
  decodes_iff .ack .ack looseAck (ack ⟨1, true, []⟩) nofun

/-- The encodings of the messages that are in range are not all that is accepted. -/
theorem accepts_other_spellings :
    ¬ ∀ (kind : MessageKind) (type : MsgType) (p : Bytes) (m : Message),
      kind.decode ⟨type, p⟩ = some m ↔ m.kind = kind ∧ m.encode = .ok p ∧ m.EnumsInRange := by
  intro exact_
  have accepted : MessageKind.ack.decode ⟨.ack, looseAck⟩ = some (ack ⟨1, true, []⟩) := by
    decide +kernel
  have encoded := ((exact_ .ack .ack looseAck (ack ⟨1, true, []⟩)).mp accepted).2.1
  have other : ¬ (ack ⟨1, true, []⟩).encode = .ok looseAck := by decide +kernel
  exact other encoded

end Message

end PowerGovernor
