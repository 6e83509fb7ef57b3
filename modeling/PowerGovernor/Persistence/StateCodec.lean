import PowerGovernor.Budget.Doubles
import PowerGovernor.Governor.Operations
import PowerGovernor.Persistence.Envelope

/-!
Saving and loading a Governor.

Owns `encode_state` and `decode_state` section by section, the hierarchy check of
the recovery, `save` and `load`. Decoding writes each section as soon as it is
read, so a later failure leaves the earlier writes in place.

Does not own the file system: a file is the bytes it holds, or none when it
cannot be read.
-/

set_option autoImplicit false

namespace PowerGovernor

/-! ## Encoding -/

section Encoding

open BinWriter (u8 u32 u64 i32 i64 bool str f64)

def encodeHeader (g : Governor) : Except Fault Bytes :=
  concat [.ok (u64 g.cfg.epoch.raw), .ok (u64 g.cfg.boot.raw), .ok (u64 g.cfg.node.raw),
    .ok (u64 g.policy.generation.raw), str g.policy.name]

/-- A presence flag and the cap. -/
def encodeCap : Option Watts → Except Fault Bytes
  | none => concat [.ok (bool false)]
  | some cap => concat [.ok (bool true), f64 cap.value]

def encodeCaps (p : PowerPolicy) : Except Fault Bytes :=
  concat [encodeCap p.fleetHardCap, encodeCap p.nodeHardCap, encodeCap p.deviceHardCap,
    encodeCap p.softTarget]

/-- The stored parent; 0 stands for none. -/
def parentRaw (b : PowerBudget) : UInt64 :=
  match b.parent with
  | some parent => if parent.isValid then parent.raw else 0
  | none => 0

def encodeBudget (b : PowerBudget) : Except Fault Bytes :=
  concat [.ok (u64 b.id.raw), .ok (u64 b.generation.raw), .ok (u64 b.domain.raw),
    .ok (u64 (parentRaw b)), str b.name, f64 b.hardMax.value, f64 b.softTarget.value,
    f64 b.minReserve.value, f64 b.burstAllowance.value, .ok (i64 b.burstWindow.ns),
    .ok (i64 b.recovery.ns), .ok (i32 b.priority), .ok (bool b.authoritative)]

def encodeReservation (r : Reservation) : Except Fault Bytes :=
  concat [.ok (u64 r.id.raw), .ok (u64 r.budget.raw), .ok (u64 r.workload.raw),
    .ok (u8 r.powerClass.toByte), f64 r.requestedPower.value, f64 r.requestedEnergy.value,
    .ok (u64 r.policyGeneration.raw), .ok (u64 r.deviceGeneration.raw),
    .ok (u64 r.budgetGeneration.raw), .ok (u64 r.authority.epoch.raw),
    .ok (u64 r.authority.boot.raw), .ok (i64 r.created.ns), .ok (i64 r.validity.ns),
    .ok (u8 r.state.toByte), f64 r.reservedPower.value, f64 r.energyUsed.value]

def encodeMeter (m : WorkloadMeter) : Except Fault Bytes :=
  concat [.ok (u64 m.workload.raw), f64 m.meter.total.value]

/-- A `u32` count and that many records. -/
def encodeSection {α : Type} (encode : α → Except Fault Bytes) (items : List α) :
    Except Fault Bytes :=
  concat [.ok (u32 (UInt32.ofNat items.length)), concat (items.map encode)]

end Encoding

namespace Governor

def encodeState (g : Governor) : Except Fault Bytes :=
  concat [encodeHeader g, encodeCaps g.policy, encodeSection encodeBudget g.budgets.snapshots,
    encodeSection encodeReservation g.reservations.all,
    encodeSection encodeMeter g.workloadMeters.entries]

/-- The bytes `save` writes to the file. -/
def save (g : Governor) : Except Fault Bytes := do
  let blob ← g.encodeState
  encodeEnvelope ⟨persistSchema, blob⟩

end Governor

/-! ## Decoding records -/

structure StateHeader where
  epoch : CoordinatorEpoch
  boot : WorkerBootId
  node : NodeId
  policyGeneration : PolicyGeneration
  policyName : Bytes
deriving DecidableEq

def decodeHeader : BinReader StateHeader := do
  let epoch ← BinReader.u64
  let boot ← BinReader.u64
  let node ← BinReader.u64
  let polgen ← BinReader.u64
  let polname ← BinReader.str
  return ⟨⟨epoch⟩, ⟨boot⟩, ⟨node⟩, ⟨polgen⟩, polname⟩

def decodeCap : BinReader (Option Watts) := do
  if ← BinReader.bool then
    let v ← BinReader.f64
    let cap ← BinReader.construct (Quantity.construct v)
    return some cap
  else return none

/-- The policy that replaces the current one: defaults with the stored knobs. -/
def decodePolicy (id : PolicyId) (header : StateHeader) : BinReader PowerPolicy := do
  let fleet ← decodeCap
  let node ← decodeCap
  let device ← decodeCap
  let soft ← decodeCap
  return { PowerPolicy.defaults id header.policyName with
    generation := header.policyGeneration
    fleetHardCap := fleet
    nodeHardCap := node
    deviceHardCap := device
    softTarget := soft }

/-- A count of at most 100000. -/
def decodeCount : BinReader Nat := do
  let n ← BinReader.u32
  BinReader.rejectIf (100000 < n.toNat)
  return n.toNat

def decodeBudget : BinReader PowerBudget := do
  let bid ← BinReader.u64
  let bgen ← BinReader.u64
  let dom ← BinReader.u64
  let parent ← BinReader.u64
  let name ← BinReader.str
  let hmax ← BinReader.f64
  let soft ← BinReader.f64
  let reserve ← BinReader.f64
  let burst ← BinReader.f64
  let bw ← BinReader.i64
  let rec_ ← BinReader.i64
  let pri ← BinReader.i32
  let auth ← BinReader.bool
  BinReader.rejectIf (hmax < 0 ∨ soft < 0 ∨ reserve < 0 ∨ burst < 0)
  let hardMax ← BinReader.construct (Quantity.construct hmax)
  let softTarget ← BinReader.construct (Quantity.construct soft)
  let minReserve ← BinReader.construct (Quantity.construct reserve)
  let burstAllowance ← BinReader.construct (Quantity.construct burst)
  let burstWindow ← BinReader.construct (Duration.construct bw.toInt)
  let recovery ← BinReader.construct (Duration.construct rec_.toInt)
  return { PowerBudget.blank with
    id := ⟨bid⟩
    generation := ⟨bgen⟩
    domain := ⟨dom⟩
    parent := some ⟨parent⟩
    name := name
    hardMax := hardMax
    softTarget := softTarget
    minReserve := minReserve
    burstAllowance := burstAllowance
    burstWindow := burstWindow
    recovery := recovery
    priority := pri
    authoritative := auth }

/-- `Timestamp::from_ns`. -/
def Timestamp.ofInt64 (ns : Int64) : Timestamp := ⟨ns.toInt, ns.le_toInt, ns.toInt_lt⟩

/-- An enumerator that is out of range is refused. -/
def BinReader.enumerator {α : Type} : Option α → BinReader α
  | some value => pure value
  | none => throw .rejected

def decodeReservation : BinReader Reservation := do
  let rid ← BinReader.u64
  let bid ← BinReader.u64
  let wl ← BinReader.u64
  let cls ← BinReader.u8
  let power ← BinReader.f64
  let energy ← BinReader.f64
  let rpol ← BinReader.u64
  let rdev ← BinReader.u64
  let rbg ← BinReader.u64
  let repoch ← BinReader.u64
  let rboot ← BinReader.u64
  let created ← BinReader.i64
  let validity ← BinReader.i64
  let state ← BinReader.u8
  let reserved ← BinReader.f64
  let energyUsed ← BinReader.f64
  let powerClass ← BinReader.enumerator (WorkloadPowerClass.ofByte? cls)
  let state ← BinReader.enumerator (ReservationState.ofByte? state)
  -- The requested energy is not checked for its sign here.
  BinReader.rejectIf (power < 0 ∨ reserved < 0 ∨ energyUsed < 0)
  let requestedPower ← BinReader.construct (Quantity.construct power)
  let requestedEnergy ← BinReader.construct (Quantity.construct energy)
  let validity ← BinReader.construct (Duration.construct validity.toInt)
  let reservedPower ← BinReader.construct (Quantity.construct reserved)
  let energyUsed ← BinReader.construct (Quantity.construct energyUsed)
  return { Reservation.blank with
    id := ⟨rid⟩
    budget := ⟨bid⟩
    workload := ⟨wl⟩
    powerClass := powerClass
    requestedPower := requestedPower
    requestedEnergy := requestedEnergy
    policyGeneration := ⟨rpol⟩
    deviceGeneration := ⟨rdev⟩
    budgetGeneration := ⟨rbg⟩
    authority := { AuthorityEnvelope.blank with epoch := ⟨repoch⟩, boot := ⟨rboot⟩ }
    created := Timestamp.ofInt64 created
    validity := validity
    state := state
    reservedPower := reservedPower
    energyUsed := energyUsed }

def decodeMeter : BinReader (WorkloadId × Joules) := do
  let wl ← BinReader.u64
  let en ← BinReader.f64
  BinReader.rejectIf (en < 0)
  let energy ← BinReader.construct (Quantity.construct en)
  return (⟨wl⟩, energy)

/-! ## Applying records -/

namespace BudgetManager

/-- The loop of the cycle detection, with the steps its guard still allows. -/
def climb (m : BudgetManager) (self : BudgetId) : Nat → Option BudgetId → Bool
  | _, none => true
  | steps, some cur =>
    if !cur.isValid then true
    else if cur = self then false
    else match m.state? cur with
      | none => true
      | some s =>
        match steps with
        | 0 => false
        | steps + 1 => climb m self steps s.cfg.parent

/-- `validate_budget_hierarchy`: every valid parent is installed, and no budget is
its own ancestor within the guard. -/
def validHierarchy (m : BudgetManager) : Bool :=
  (m.snapshots.all fun b => (b.parent.filter StrongId.isValid).all m.has) &&
    m.snapshots.all fun b => m.climb b.id 256 b.parent

end BudgetManager

/-- `return false` unless the condition holds. -/
def rejectUnless {S : Type} (condition : Bool) : Stateful Exit S Unit :=
  if condition then pure () else throw .rejected

/-- A budget of the file; a duplicate or a rolled back generation is refused. -/
def restoreBudget (b : PowerBudget) : Stateful Exit BudgetManager Unit := do
  let (budgets, ok) := (← get).install b
  set budgets
  rejectUnless ok

/-- What a restored reservation holds is claimed again; the result is ignored. -/
def reclaim (m : BudgetManager) (r : Reservation) : BudgetManager :=
  if r.state.holds ∧ 0 < r.reservedPower.value ∧ m.has r.budget then
    (InDoubles.reserve m r.budget r.reservedPower r.id r.budgetGeneration).1
  else m

/-- The state the reservation section writes. -/
structure Restored where
  reservations : ReservationManager
  resIndex : ReservationIndex
  budgets : BudgetManager

/-- A reservation of the file; a duplicate id is refused. -/
def restoreReservation (r : Reservation) : Stateful Exit Restored Unit := do
  let (reservations, ok) := (← get).reservations.restore r
  modify fun s => { s with reservations := reservations }
  rejectUnless ok
  modify fun s =>
    { s with
      resIndex := s.resIndex.add ⟨r.id, r.budget, r.workload, r.state⟩
      budgets := reclaim s.budgets r }

/-- A workload's energy replaces its meter. -/
def restoreMeter (now : Timestamp) (record : WorkloadId × Joules) :
    Stateful Exit (Keyed WorkloadMeter.workload) Unit :=
  modify fun meters => meters.assign ⟨record.1, EnergyMeter.blank.add record.2 .derived now⟩

/-! ## The recovery -/

namespace Governor

/-- Read from the blob. -/
def read {α : Type} (reader : BinReader α) (bytes : Bytes) :
    Stateful Exit Governor (α × Bytes) :=
  Stateful.ofExcept (reader.run bytes)

/-- The first writes: epoch, boot and node. -/
def writeHeader (g : Governor) (header : StateHeader) : Governor :=
  { g with
    authority := (g.authority.resetEpoch header.epoch).setBoot header.boot
    cfg := { g.cfg with node := header.node } }

def writePolicy (g : Governor) (p : PowerPolicy) : Governor :=
  { g with policy := p, authority := g.authority.setPolicy p.generation }

/-- The default argument of `defaults` draws one id, the decoder the next. -/
def drawPolicyId : Stateful Exit Governor PolicyId := do
  let (_, ids) := (← get).ids.allocatePolicy
  let (id, ids) := ids.allocatePolicy
  modify fun g => { g with ids := ids }
  return id

def restored (g : Governor) : Restored := ⟨g.reservations, g.resIndex, g.budgets⟩

def writeRestored (s : Restored) (g : Governor) : Governor :=
  { g with reservations := s.reservations, resIndex := s.resIndex, budgets := s.budgets }

def decodeBudgets (bytes : Bytes) : Stateful Exit Governor Bytes := do
  let (nbudgets, rest) ← read decodeCount bytes
  Stateful.zoom budgets (fun budgets g => { g with budgets := budgets })
    (ByteReader.sections decodeBudget restoreBudget nbudgets rest)

def decodeReservations (bytes : Bytes) : Stateful Exit Governor Bytes := do
  let (nres, rest) ← read decodeCount bytes
  Stateful.zoom restored writeRestored
    (ByteReader.sections decodeReservation restoreReservation nres rest)

def decodeMeters (now : Timestamp) (bytes : Bytes) : Stateful Exit Governor Bytes := do
  let (nwl, rest) ← read decodeCount bytes
  Stateful.zoom workloadMeters (fun meters g => { g with workloadMeters := meters })
    (ByteReader.sections decodeMeter (restoreMeter now) nwl rest)

/-- `decode_state` up to its last statement; `now` is what the clock returns
meanwhile. -/
def decodeSections (now : Timestamp) (blob : Bytes) : Stateful Exit Governor Unit := do
  let (header, rest) ← read decodeHeader blob
  modify fun g => g.writeHeader header
  let policyId ← drawPolicyId
  let (policy, rest) ← read (decodePolicy policyId header) rest
  modify fun g => g.writePolicy policy
  let rest ← decodeBudgets rest
  rejectUnless (← get).budgets.validHierarchy
  let rest ← decodeReservations rest
  let rest ← decodeMeters now rest
  -- Trailing bytes are refused after everything has been written.
  rejectUnless rest.isEmpty

/-- `decode_state`: recovered telemetry is not current. -/
def decodeState (now : Timestamp) (blob : Bytes) : Stateful Exit Governor Unit := do
  decodeSections now blob
  modify invalidateLiveTelemetry

/-- What `load` returns for the way the decoding ended. -/
def concludeLoad : Except Exit Unit × Governor → Except Fault Bool × Governor
  | (.ok _, g) => (.ok true, g)
  | (.error .rejected, g) => (.ok false, g)
  | (.error (.threw fault), g) => (.error fault, g)

/-- `load` of a file with the given content, and what it returns. -/
def load (g : Governor) (file : Option Bytes) (now : Timestamp) : Except Fault Bool × Governor :=
  match file with
  | none => (.ok false, g)
  | some bytes =>
    match decodeEnvelope bytes with
    | .error _ => (.ok false, g)
    | .ok envelope => concludeLoad ((decodeState now envelope.blob).exec g)

end Governor

end PowerGovernor
