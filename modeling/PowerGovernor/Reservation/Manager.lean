import PowerGovernor.Authority
import PowerGovernor.Budget.Manager
import PowerGovernor.Energy
import PowerGovernor.WorkloadClass

/-!
Transactional power reservations.

Owns the reservation record, the seven lifecycle operations of
`ReservationManager` with their refusal texts, and one call of the interface on
the pair of managers it works on. An operation that throws does so before it
writes, so a fault carries no state.

Does not own the accounting claims about runs of these calls.
-/

set_option autoImplicit false

namespace PowerGovernor

inductive ReservationState where
  | planned | validated | reserved | admitted | active | released | expired
deriving DecidableEq, Repr

namespace ReservationState

def all : List ReservationState :=
  [.planned, .validated, .reserved, .admitted, .active, .released, .expired]

/-- The underlying value of the enumerator. -/
def toByte : ReservationState → UInt8
  | .planned => 0
  | .validated => 1
  | .reserved => 2
  | .admitted => 3
  | .active => 4
  | .released => 5
  | .expired => 6

/-- `static_cast<ReservationState>` of a value the decoder checked. -/
def ofByte? (byte : UInt8) : Option ReservationState := all[byte.toNat]?

@[simp] theorem ofByte?_toByte (state : ReservationState) : ofByte? state.toByte = some state := by
  cases state <;> rfl

/-- The states in which a reservation has set capacity aside. -/
def holds : ReservationState → Bool
  | .reserved | .admitted | .active => true
  | .planned | .validated | .released | .expired => false

/-- The state in which a reservation's power counts as usage. -/
def uses : ReservationState → Bool
  | .active => true
  | .planned | .validated | .reserved | .admitted | .released | .expired => false

end ReservationState

structure Reservation where
  id : ReservationId
  generation : ReservationGeneration
  workload : WorkloadId
  requestClass : RequestClassId
  powerClass : WorkloadPowerClass
  scope : PowerDomainId
  budget : BudgetId
  requestedPower : Watts
  requestedEnergy : Joules
  policyGeneration : PolicyGeneration
  deviceGeneration : DeviceGeneration
  budgetGeneration : BudgetGeneration
  authority : AuthorityEnvelope
  created : Timestamp
  validity : Duration
  state : ReservationState
  reservedPower : Watts
  energyUsed : Joules
  activatedAt : Timestamp
  releasedAt : Timestamp
deriving DecidableEq

namespace Reservation

/-- A default-constructed reservation. -/
def blank : Reservation where
  id := .invalid
  generation := .null
  workload := .invalid
  requestClass := .invalid
  powerClass := .throughput
  scope := .invalid
  budget := .invalid
  requestedPower := Watts.zero
  requestedEnergy := Joules.zero
  policyGeneration := .null
  deviceGeneration := .null
  budgetGeneration := .null
  authority := .blank
  created := Timestamp.zero
  validity := Duration.zero
  state := .planned
  reservedPower := Watts.zero
  energyUsed := Joules.zero
  activatedAt := Timestamp.zero
  releasedAt := Timestamp.zero

/-- `expired` is `noexcept`, so an elapsed time no `Duration` holds ends the
process. A reservation without a creation time never expires. -/
def expired (r : Reservation) (now : Timestamp) : Except Fault Bool :=
  if r.created.isZero then .ok false
  else noexcept do
    let elapsed ← now.elapsedSince r.created
    return decide (r.validity.ns < elapsed.ns)

end Reservation

/-- `ReservationManager::Result`. -/
structure ReservationResult where
  ok : Bool
  reason : String
  id : ReservationId
deriving DecidableEq

namespace ReservationResult

def refused (reason : String) : ReservationResult := ⟨false, reason, .invalid⟩

def accepted (reason : String) : ReservationResult := ⟨true, reason, .invalid⟩

end ReservationResult

/-- The reservations, each under its own id. -/
structure ReservationManager where
  map : Keyed Reservation.id
deriving DecidableEq

namespace ReservationManager

def empty : ReservationManager := ⟨Keyed.empty⟩

def find? (rm : ReservationManager) (id : ReservationId) : Option Reservation := rm.map.find? id

def mutableGet (rm : ReservationManager) (id : ReservationId) : Except Fault Reservation :=
  match rm.find? id with
  | none => .error (.outOfRange "pg: unknown reservation id")
  | some r => .ok r

theorem mutableGet_eq_ok {rm : ReservationManager} {id : ReservationId} {r : Reservation} :
    rm.mutableGet id = .ok r ↔ rm.find? id = some r := by
  unfold mutableGet
  cases rm.find? id <;> simp

/-- Write through the reference `mutable_get` returned. -/
def write (rm : ReservationManager) (id : ReservationId) (f : Reservation → Reservation)
    (keeps : ∀ r, (f r).id = r.id) : ReservationManager :=
  ⟨rm.map.modify id f fun r keyed => (keeps r).trans keyed⟩

def setState (rm : ReservationManager) (id : ReservationId) (state : ReservationState) :
    ReservationManager :=
  rm.write id (fun r => { r with state := state }) fun _ => rfl

def plan (rm : ReservationManager) (ids : Allocators) (workload : WorkloadId)
    (powerClass : WorkloadPowerClass) (scope : PowerDomainId) (budget : BudgetId)
    (requestedPower : Watts) (requestedEnergy : Joules) (policyGen : PolicyGeneration)
    (deviceGen : DeviceGeneration) (authority : AuthorityEnvelope) (now : Timestamp)
    (validity : Duration) : ReservationResult × ReservationManager × Allocators :=
  let (id, ids) := ids.allocateReservation
  let r : Reservation :=
    { Reservation.blank with
      id := id
      generation := .first
      workload := workload
      powerClass := powerClass
      scope := scope
      budget := budget
      requestedPower := requestedPower
      requestedEnergy := requestedEnergy
      policyGeneration := policyGen
      deviceGeneration := deviceGen
      authority := authority
      created := now
      validity := validity }
  if rm.map.contains id then (⟨false, "duplicate reservation id", id⟩, rm, ids)
  else (⟨true, "planned", id⟩, ⟨rm.map.emplace r⟩, ids)

def validate (rm : ReservationManager) (id : ReservationId) (policyGen : PolicyGeneration) :
    Except Fault (ReservationResult × ReservationManager) := do
  let r ← rm.mutableGet id
  if r.state ≠ .planned then
    .ok (.refused "reservation not in PLANNED", rm)
  else if r.policyGeneration ≠ policyGen then
    .ok (.refused "policy generation mismatch", rm)
  else
    .ok (.accepted "validated", rm.setState id .validated)

def reserve (rm : ReservationManager) (id : ReservationId) (budgets : BudgetManager)
    (budgetGen : BudgetGeneration) (now : Timestamp) :
    Except Fault (ReservationResult × ReservationManager × BudgetManager) := do
  let r ← rm.mutableGet id
  if r.state ≠ .validated ∧ r.state ≠ .planned then
    .ok (.refused "reservation not reservable (already reserved/active/released)", rm, budgets)
  else if ← r.expired now then
    .ok (.refused "reservation expired", rm.setState id .expired, budgets)
  else
    let (budgets, ok) := budgets.reserve r.budget r.requestedPower id budgetGen
    if !ok then
      .ok (.refused "budget reserve failed (capacity/generation/authority)", rm, budgets)
    else
      let rm := rm.write id (fun r =>
        { r with
          budgetGeneration := budgetGen, reservedPower := r.requestedPower
          state := .reserved }) fun _ => rfl
      .ok (.accepted "reserved", rm, budgets)

def admitReservation (rm : ReservationManager) (id : ReservationId) (now : Timestamp) :
    Except Fault (ReservationResult × ReservationManager) := do
  let r ← rm.mutableGet id
  if r.state ≠ .reserved then
    .ok (.refused "reservation not RESERVED", rm)
  -- The expiry edge changes the state and returns no capacity.
  else if ← r.expired now then
    .ok (.refused "reservation expired", rm.setState id .expired)
  else
    .ok (.accepted "admitted", rm.setState id .admitted)

def activate (rm : ReservationManager) (id : ReservationId) (budgets : BudgetManager)
    (budgetGen : BudgetGeneration) (now : Timestamp) :
    Except Fault (ReservationResult × ReservationManager × BudgetManager) := do
  let r ← rm.mutableGet id
  if r.state ≠ .admitted ∧ r.state ≠ .reserved then
    .ok (.refused "stale activation: reservation not admitted", rm, budgets)
  else if ← r.expired now then
    .ok (.refused "reservation expired", rm.setState id .expired, budgets)
  else if r.budgetGeneration ≠ budgetGen then
    .ok (.refused "stale activation: budget generation changed", rm, budgets)
  else
    let (budgets, ok) := budgets.activate r.budget r.requestedPower id budgetGen
    if !ok then
      .ok (.refused "budget activate failed", rm, budgets)
    else
      let rm := rm.write id (fun r => { r with state := .active, activatedAt := now }) fun _ => rfl
      .ok (.accepted "active", rm, budgets)

def accountEnergy (rm : ReservationManager) (id : ReservationId) (energy : Joules)
    (_provenance : EnergyProvenance) (_now : Timestamp) :
    Except Fault (ReservationResult × ReservationManager) := do
  let r ← rm.mutableGet id
  if r.state ≠ .active then
    .ok (.refused "energy only accounted for ACTIVE", rm)
  else if energy.value < 0 then
    .ok (.refused "non-finite or negative energy", rm)
  else
    let rm := rm.write id
      (fun r => { r with energyUsed := Joules.clampedDouble (r.energyUsed.value + energy.value) })
      fun _ => rfl
    .ok (.accepted "accounted", rm)

def release (rm : ReservationManager) (id : ReservationId) (budgets : BudgetManager)
    (budgetGen : BudgetGeneration) (now : Timestamp) :
    Except Fault (ReservationResult × ReservationManager × BudgetManager) := do
  let r ← rm.mutableGet id
  if r.state = .released then
    .ok (.refused "double release", rm, budgets)
  else if r.state = .expired then
    .ok (.refused "already expired", rm, budgets)
  else if r.budgetGeneration.isNull ∧ (r.state = .admitted ∨ r.state = .active) then
    .ok (.refused "release with unknown budget generation", rm, budgets)
  else
    let (budgets, released) := budgets.release r.budget r.reservedPower id budgetGen
    if !released then
      .ok (.refused "budget release failed (over-release/stale generation)", rm, budgets)
    else
      -- The result of `deactivate` is ignored, and it is tried in all three states.
      let budgets :=
        if r.state = .active ∨ r.state = .admitted ∨ r.state = .reserved then
          (budgets.deactivate r.budget r.reservedPower id budgetGen).1
        else budgets
      let rm := rm.write id (fun r => { r with state := .released, releasedAt := now })
        fun _ => rfl
      .ok (.accepted "released", rm, budgets)

def state (rm : ReservationManager) (id : ReservationId) : ReservationState :=
  ((rm.find? id).map Reservation.state).getD .expired

/-- `all`: a snapshot ordered by id. -/
def all (rm : ReservationManager) : List Reservation :=
  rm.map.entries.insertionSort fun a b => a.id.raw ≤ b.id.raw

/-- `restore`: add a persisted reservation unless its id is taken. -/
def restore (rm : ReservationManager) (r : Reservation) : ReservationManager × Bool :=
  if rm.map.contains r.id then (rm, false) else (⟨rm.map.emplace r⟩, true)

/-- A restored reservation is new, or nothing happens. -/
theorem restore_cases (rm : ReservationManager) (r : Reservation) :
    (rm.find? r.id ≠ none ∧ rm.restore r = (rm, false)) ∨
    (rm.find? r.id = none ∧ rm.restore r = (⟨rm.map.emplace r⟩, true)) := by
  unfold restore Keyed.contains find?
  cases rm.map.find? r.id with
  | some other => exact .inl ⟨nofun, rfl⟩
  | none => exact .inr ⟨rfl, rfl⟩

def activeCount (rm : ReservationManager) : Nat :=
  (rm.map.entries.filter fun r => r.state = .active).length

end ReservationManager

/-! ## Calls -/

/-- The two managers and the allocators a lifecycle call works on. -/
structure Books where
  reservations : ReservationManager
  budgets : BudgetManager
  ids : Allocators

/-- One lifecycle call. -/
inductive ReservationCall where
  | plan (workload : WorkloadId) (powerClass : WorkloadPowerClass) (scope : PowerDomainId)
      (budget : BudgetId) (requestedPower : Watts) (requestedEnergy : Joules)
      (policyGen : PolicyGeneration) (deviceGen : DeviceGeneration)
      (authority : AuthorityEnvelope) (now : Timestamp) (validity : Duration)
  | validate (id : ReservationId) (policyGen : PolicyGeneration)
  | reserve (id : ReservationId) (budgetGen : BudgetGeneration) (now : Timestamp)
  | admitReservation (id : ReservationId) (now : Timestamp)
  | activate (id : ReservationId) (budgetGen : BudgetGeneration) (now : Timestamp)
  | accountEnergy (id : ReservationId) (energy : Joules) (provenance : EnergyProvenance)
      (now : Timestamp)
  | release (id : ReservationId) (budgetGen : BudgetGeneration) (now : Timestamp)

namespace ReservationCall

/-- The result of a call and the books it leaves behind. -/
def exec (s : Books) : ReservationCall → Except Fault (ReservationResult × Books)
  | .plan workload powerClass scope budget requestedPower requestedEnergy policyGen deviceGen
      authority now validity =>
    let (result, rm, ids) := s.reservations.plan s.ids workload powerClass scope budget
      requestedPower requestedEnergy policyGen deviceGen authority now validity
    .ok (result, { s with reservations := rm, ids := ids })
  | .validate id policyGen => do
    let (result, rm) ← s.reservations.validate id policyGen
    .ok (result, { s with reservations := rm })
  | .reserve id budgetGen now => do
    let (result, rm, bm) ← s.reservations.reserve id s.budgets budgetGen now
    .ok (result, { s with reservations := rm, budgets := bm })
  | .admitReservation id now => do
    let (result, rm) ← s.reservations.admitReservation id now
    .ok (result, { s with reservations := rm })
  | .activate id budgetGen now => do
    let (result, rm, bm) ← s.reservations.activate id s.budgets budgetGen now
    .ok (result, { s with reservations := rm, budgets := bm })
  | .accountEnergy id energy provenance now => do
    let (result, rm) ← s.reservations.accountEnergy id energy provenance now
    .ok (result, { s with reservations := rm })
  | .release id budgetGen now => do
    let (result, rm, bm) ← s.reservations.release id s.budgets budgetGen now
    .ok (result, { s with reservations := rm, budgets := bm })

/-- The books after a call; a call that throws has written nothing. -/
def after (s : Books) (call : ReservationCall) : Books :=
  match call.exec s with
  | .ok (_, s') => s'
  | .error _ => s

end ReservationCall

end PowerGovernor
