import PowerGovernor.Budget.Manager
import PowerGovernor.Library.Codec

/-!
The messages of the worker protocol.

Owns the message types, the frame a connection delivers, the field encodings of
`WireWriter` and `WireReader`, and the seven payloads. A decoder that meets a short
field, an enumerator out of range or trailing bytes returns nothing.

Does not own the framing of a byte stream.
-/

set_option autoImplicit false

namespace PowerGovernor

inductive MsgType where
  | hello | register | powerObservation | thermalObservation | setPolicy | setBudget | reserve
  | activate | release | decisionRequest | decisionResponse | throttleReport | snapshotRequest
  | snapshotResponse | ack | error
deriving DecidableEq, Repr

structure Frame where
  type : MsgType
  payload : Bytes
deriving DecidableEq

/-! ## Fields -/

namespace WireWriter

def u8 (v : UInt8) : Bytes := [v]

def u16 (v : UInt16) : Bytes := LittleEndian.encode 2 v.toNat

def u32 (v : UInt32) : Bytes := LittleEndian.encode 4 v.toNat

def u64 (v : UInt64) : Bytes := LittleEndian.encode 8 v.toNat

def i64 (v : Int64) : Bytes := u64 v.toUInt64

def i32 (v : Int32) : Bytes := u32 v.toUInt32

def bool (b : Bool) : Bytes := u8 (if b then 1 else 0)

def str (s : Bytes) : Except Fault Bytes :=
  if 4294967295 < s.length then .error (.overflowError "pg wire: string too long")
  else .ok (u32 (UInt32.ofNat s.length) ++ s)

end WireWriter

/-- A decoding over the rest of a payload; it can only be refused. -/
abbrev WireReader := ByteReader Unit

namespace WireReader

def u8 : WireReader UInt8 := do return UInt8.ofNat (← ByteReader.word () 1)

def u16 : WireReader UInt16 := do return UInt16.ofNat (← ByteReader.word () 2)

def u32 : WireReader UInt32 := do return UInt32.ofNat (← ByteReader.word () 4)

def u64 : WireReader UInt64 := do return UInt64.ofNat (← ByteReader.word () 8)

def i64 : WireReader Int64 := do return (← u64).toInt64

def i32 : WireReader Int32 := do return (← u32).toInt32

def bool : WireReader Bool := do return (← u8) != 0

def str : WireReader Bytes := do
  let len ← u32
  ByteReader.raw () len.toNat

/-- An enumerator above the last one is refused. -/
def enum (last : UInt8) : WireReader UInt8 := do
  let v ← u8
  if last < v then throw () else return v

/-- The value of a payload that is read to its end. -/
def whole {α : Type} (f : Frame) (reader : WireReader α) : Option α :=
  match reader.run f.payload with
  | .ok (m, []) => some m
  | _ => none

end WireReader

/-! ## Payloads -/

structure RegisterMsg where
  worker : WorkerId
  boot : WorkerBootId
  node : NodeId
  name : Bytes
deriving DecidableEq

structure PowerObsMsg where
  worker : WorkerId
  boot : WorkerBootId
  epoch : CoordinatorEpoch
  accel : AcceleratorId
  deviceGen : DeviceGeneration
  obsGen : ObservationGeneration
  timestampNs : Int64
  hasPower : Bool
  powerMw : Int64
  hasTemp : Bool
  tempCenti : Int32
  smMhz : UInt32
  memMhz : UInt32
  hasUtil : Bool
  utilizationBp : UInt16
  hasEnergy : Bool
  energyMj : Int64
  throttled : Bool
  provenance : UInt8
  source : Bytes
deriving DecidableEq

structure ThermalObsMsg where
  worker : WorkerId
  boot : WorkerBootId
  epoch : CoordinatorEpoch
  accel : AcceleratorId
  thermGen : ThermalGeneration
  obsGen : ObservationGeneration
  timestampNs : Int64
  hasTemp : Bool
  tempCenti : Int32
  state : UInt8
deriving DecidableEq

structure BudgetMsg where
  budget : BudgetId
  generation : BudgetGeneration
  domain : PowerDomainId
  parent : BudgetId
  name : Bytes
  hardMaxMw : Int64
  softMw : Int64
  minReserveMw : Int64
  burstMw : Int64
  burstWindowNs : Int64
  recoveryNs : Int64
  priority : Int32
  authoritative : Bool
  policyGen : UInt64
deriving DecidableEq

/-- RESERVE and DECISION_REQUEST share this payload. -/
structure ReserveMsg where
  reservation : ReservationId
  budget : BudgetId
  requestedMw : Int64
  requestedMj : Int64
  budgetGen : BudgetGeneration
  reservationGen : ReservationGeneration
  policyGen : PolicyGeneration
  deviceGen : DeviceGeneration
  workload : WorkloadId
  cls : UInt8
  scope : PowerDomainId
  epoch : CoordinatorEpoch
  boot : WorkerBootId
  timestampNs : Int64
  validityNs : Int64
deriving DecidableEq

/-- ACTIVATE and RELEASE share this payload. -/
structure BudgetActionMsg where
  reservation : ReservationId
  budget : BudgetId
  amountMw : Int64
  budgetGen : BudgetGeneration
  epoch : CoordinatorEpoch
  boot : WorkerBootId
deriving DecidableEq

structure AckMsg where
  messageId : UInt64
  ok : Bool
  message : Bytes
deriving DecidableEq

/-! ## Encoders -/

section Encoding

open WireWriter (u8 u16 u32 u64 i64 i32 bool str)

def encodeRegister (m : RegisterMsg) : Except Fault Bytes :=
  concat [.ok (u64 m.worker.raw), .ok (u64 m.boot.raw), .ok (u64 m.node.raw), str m.name]

def encodePowerObs (m : PowerObsMsg) : Except Fault Bytes :=
  concat [.ok (u64 m.worker.raw), .ok (u64 m.boot.raw), .ok (u64 m.epoch.raw),
    .ok (u64 m.accel.raw), .ok (u64 m.deviceGen.raw), .ok (u64 m.obsGen.raw),
    .ok (i64 m.timestampNs), .ok (bool m.hasPower), .ok (i64 m.powerMw), .ok (bool m.hasTemp),
    .ok (i32 m.tempCenti), .ok (u32 m.smMhz), .ok (u32 m.memMhz), .ok (bool m.hasUtil),
    .ok (u16 m.utilizationBp), .ok (bool m.hasEnergy), .ok (i64 m.energyMj),
    .ok (bool m.throttled), .ok (u8 m.provenance), str m.source]

def encodeThermalObs (m : ThermalObsMsg) : Bytes :=
  u64 m.worker.raw ++ u64 m.boot.raw ++ u64 m.epoch.raw ++ u64 m.accel.raw ++
    u64 m.thermGen.raw ++ u64 m.obsGen.raw ++ i64 m.timestampNs ++ bool m.hasTemp ++
    i32 m.tempCenti ++ u8 m.state

/-- `encode_budget`. -/
def encodeBudgetMsg (m : BudgetMsg) : Except Fault Bytes :=
  concat [.ok (u64 m.budget.raw), .ok (u64 m.generation.raw), .ok (u64 m.domain.raw),
    .ok (u64 m.parent.raw), str m.name, .ok (i64 m.hardMaxMw), .ok (i64 m.softMw),
    .ok (i64 m.minReserveMw), .ok (i64 m.burstMw), .ok (i64 m.burstWindowNs),
    .ok (i64 m.recoveryNs), .ok (i32 m.priority), .ok (bool m.authoritative),
    .ok (u64 m.policyGen)]

def encodeReserve (m : ReserveMsg) : Bytes :=
  u64 m.reservation.raw ++ u64 m.budget.raw ++ i64 m.requestedMw ++ i64 m.requestedMj ++
    u64 m.budgetGen.raw ++ u64 m.reservationGen.raw ++ u64 m.policyGen.raw ++
    u64 m.deviceGen.raw ++ u64 m.workload.raw ++ u8 m.cls ++ u64 m.scope.raw ++
    u64 m.epoch.raw ++ u64 m.boot.raw ++ i64 m.timestampNs ++ i64 m.validityNs

def encodeBudgetAction (m : BudgetActionMsg) : Bytes :=
  u64 m.reservation.raw ++ u64 m.budget.raw ++ i64 m.amountMw ++ u64 m.budgetGen.raw ++
    u64 m.epoch.raw ++ u64 m.boot.raw

def encodeAck (m : AckMsg) : Except Fault Bytes :=
  concat [.ok (u64 m.messageId), .ok (bool m.ok), str m.message]

end Encoding

/-! ## Decoders -/

section Decoding

open WireReader (u8 u16 u32 u64 i64 i32 bool str)

def decodeRegister (f : Frame) : Option RegisterMsg :=
  WireReader.whole f do
    let a ← u64
    let b ← u64
    let c ← u64
    let name ← str
    return ⟨⟨a⟩, ⟨b⟩, ⟨c⟩, name⟩

def decodePowerObs (f : Frame) : Option PowerObsMsg :=
  WireReader.whole f do
    let worker ← u64
    let boot ← u64
    let epoch ← u64
    let accel ← u64
    let deviceGen ← u64
    let obsGen ← u64
    let timestampNs ← i64
    let hasPower ← bool
    let powerMw ← i64
    let hasTemp ← bool
    let tempCenti ← i32
    let smMhz ← u32
    let memMhz ← u32
    let hasUtil ← bool
    let utilizationBp ← u16
    let hasEnergy ← bool
    let energyMj ← i64
    let throttled ← bool
    let provenance ← u8
    let source ← str
    return {
      worker := ⟨worker⟩, boot := ⟨boot⟩, epoch := ⟨epoch⟩, accel := ⟨accel⟩
      deviceGen := ⟨deviceGen⟩, obsGen := ⟨obsGen⟩, timestampNs := timestampNs
      hasPower := hasPower, powerMw := powerMw, hasTemp := hasTemp, tempCenti := tempCenti
      smMhz := smMhz, memMhz := memMhz, hasUtil := hasUtil, utilizationBp := utilizationBp
      hasEnergy := hasEnergy, energyMj := energyMj, throttled := throttled
      provenance := provenance, source := source }

def decodeThermalObs (f : Frame) : Option ThermalObsMsg :=
  WireReader.whole f do
    let worker ← u64
    let boot ← u64
    let epoch ← u64
    let accel ← u64
    let thermGen ← u64
    let obsGen ← u64
    let timestampNs ← i64
    let hasTemp ← bool
    let tempCenti ← i32
    let state ← WireReader.enum 6
    return {
      worker := ⟨worker⟩, boot := ⟨boot⟩, epoch := ⟨epoch⟩, accel := ⟨accel⟩
      thermGen := ⟨thermGen⟩, obsGen := ⟨obsGen⟩, timestampNs := timestampNs
      hasTemp := hasTemp, tempCenti := tempCenti, state := state }

/-- `decode_budget`. -/
def decodeBudgetMsg (f : Frame) : Option BudgetMsg :=
  WireReader.whole f do
    let budget ← u64
    let generation ← u64
    let domain ← u64
    let parent ← u64
    let name ← str
    let hardMaxMw ← i64
    let softMw ← i64
    let minReserveMw ← i64
    let burstMw ← i64
    let burstWindowNs ← i64
    let recoveryNs ← i64
    let priority ← i32
    let authoritative ← bool
    let policyGen ← u64
    return {
      budget := ⟨budget⟩, generation := ⟨generation⟩, domain := ⟨domain⟩, parent := ⟨parent⟩
      name := name, hardMaxMw := hardMaxMw, softMw := softMw, minReserveMw := minReserveMw
      burstMw := burstMw, burstWindowNs := burstWindowNs, recoveryNs := recoveryNs
      priority := priority, authoritative := authoritative, policyGen := policyGen }

def decodeReserve (f : Frame) : Option ReserveMsg :=
  WireReader.whole f do
    let reservation ← u64
    let budget ← u64
    let requestedMw ← i64
    let requestedMj ← i64
    let budgetGen ← u64
    let reservationGen ← u64
    let policyGen ← u64
    let deviceGen ← u64
    let workload ← u64
    let cls ← WireReader.enum 7
    let scope ← u64
    let epoch ← u64
    let boot ← u64
    let timestampNs ← i64
    let validityNs ← i64
    return {
      reservation := ⟨reservation⟩, budget := ⟨budget⟩, requestedMw := requestedMw
      requestedMj := requestedMj, budgetGen := ⟨budgetGen⟩, reservationGen := ⟨reservationGen⟩
      policyGen := ⟨policyGen⟩, deviceGen := ⟨deviceGen⟩, workload := ⟨workload⟩, cls := cls
      scope := ⟨scope⟩, epoch := ⟨epoch⟩, boot := ⟨boot⟩, timestampNs := timestampNs
      validityNs := validityNs }

def decodeBudgetAction (f : Frame) : Option BudgetActionMsg :=
  WireReader.whole f do
    let reservation ← u64
    let budget ← u64
    let amountMw ← i64
    let budgetGen ← u64
    let epoch ← u64
    let boot ← u64
    return {
      reservation := ⟨reservation⟩, budget := ⟨budget⟩, amountMw := amountMw
      budgetGen := ⟨budgetGen⟩, epoch := ⟨epoch⟩, boot := ⟨boot⟩ }

def decodeAck (f : Frame) : Option AckMsg :=
  WireReader.whole f do
    let messageId ← u64
    let ok ← bool
    let message ← str
    return ⟨messageId, ok, message⟩

end Decoding

end PowerGovernor
