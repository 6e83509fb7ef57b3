import PowerGovernor.Ids
import PowerGovernor.Library.Keyed
import PowerGovernor.Units

/-!
Hierarchical power budgets and their accounting.

Owns `PowerBudget`, the accounting state of `BudgetManager` and its operations:
install, the ancestor chain, the four chain mutations and the capacity queries.
A `bool` result is returned next to the manager the call leaves behind.

Does not own any invariant of the accounting; those are proved over runs in the
later budget and reservation modules.
-/

set_option autoImplicit false

namespace PowerGovernor

/-- Text as the bytes of a `std::string`. -/
abbrev Bytes := List UInt8

/-- A budget definition. Its accounting lives in `BudgetManager`. -/
structure PowerBudget where
  id : BudgetId
  generation : BudgetGeneration
  domain : PowerDomainId
  policyGeneration : PolicyGeneration
  parent : Option BudgetId
  name : Bytes
  hardMax : Watts
  softTarget : Watts
  minReserve : Watts
  burstAllowance : Watts
  burstWindow : Duration
  recovery : Duration
  priority : Int32
  authoritative : Bool
deriving DecidableEq

/-- A default-constructed budget. -/
def PowerBudget.blank : PowerBudget where
  id := ⟨0⟩
  generation := .null
  domain := ⟨0⟩
  policyGeneration := .null
  parent := none
  name := []
  hardMax := Watts.zero
  softTarget := Watts.zero
  minReserve := Watts.zero
  burstAllowance := Watts.zero
  burstWindow := Duration.zero
  recovery := ⟨500000000, by decide, by decide⟩
  priority := 50
  authoritative := true

/-- `BudgetManager::State`. -/
structure BudgetState where
  cfg : PowerBudget
  reserved : Watts
  used : Watts
deriving DecidableEq

/-- The two amounts a budget accounts for. -/
inductive Counter where
  | reserved | used
deriving DecidableEq, Repr

namespace BudgetState

def get (s : BudgetState) : Counter → Watts
  | .reserved => s.reserved
  | .used => s.used

def set (s : BudgetState) (counter : Counter) (amount : Watts) : BudgetState :=
  match counter with
  | .reserved => { s with reserved := amount }
  | .used => { s with used := amount }

@[simp] theorem set_cfg (s : BudgetState) (counter : Counter) (amount : Watts) :
    (s.set counter amount).cfg = s.cfg := by
  cases counter <;> rfl

@[simp] theorem get_set (s : BudgetState) (counter : Counter) (amount : Watts) :
    (s.set counter amount).get counter = amount := by
  cases counter <;> rfl

theorem get_set_other (s : BudgetState) {counter other : Counter} (different : other ≠ counter)
    (amount : Watts) : (s.set counter amount).get other = s.get other := by
  cases counter <;> cases other <;> first | rfl | exact absurd rfl different

/-- `own_available`: what is left of a budget's own maximum. -/
def ownAvailable (s : BudgetState) : Watts :=
  Watts.clamped (s.cfg.hardMax.value - s.reserved.value - s.used.value)

end BudgetState

/-- The tolerance `1e-9` of every capacity comparison. -/
def slack : ℚ := 1 / 1000000000

theorem slack_nonneg : 0 ≤ slack := by norm_num [slack]

/-- The installed budgets, each under its own id. -/
structure BudgetManager where
  states : Keyed (fun s : BudgetState => s.cfg.id)
deriving DecidableEq

namespace BudgetManager

def empty : BudgetManager := ⟨Keyed.empty⟩

def state? (m : BudgetManager) (id : BudgetId) : Option BudgetState := m.states.find? id

def has (m : BudgetManager) (id : BudgetId) : Bool := m.states.contains id

/-- Install or update a budget; an update must carry a newer generation. -/
def install (m : BudgetManager) (b : PowerBudget) : BudgetManager × Bool :=
  match m.state? b.id with
  | none => (⟨m.states.emplace ⟨b, Watts.zero, Watts.zero⟩⟩, true)
  | some s =>
    if b.generation ≤ s.cfg.generation then (m, false)
    -- The accounting survives a re-issue of the same id.
    else (⟨m.states.modify b.id (fun old => { old with cfg := b }) fun _ _ => rfl⟩, true)

/-- The loop of `chain`, with the iterations its guard still allows. -/
def chainLoop (m : BudgetManager) : Nat → Option BudgetId → List BudgetId
  | 0, _ => []
  | _ + 1, none => []
  | fuel + 1, some cur =>
    if cur.isValid then
      cur :: match m.state? cur with
        | none => []
        | some s => chainLoop m fuel s.cfg.parent
    else []

/-- The chain from `id` towards the root. The guard `++guard > 64` ends the loop
after its 65th iteration. -/
def chain (m : BudgetManager) (id : BudgetId) : List BudgetId := m.chainLoop 65 (some id)

/-- `chain_has_capacity`: every budget on the chain is installed and has room. -/
def chainHasCapacity (m : BudgetManager) (id : BudgetId) (amount : Watts) : Bool :=
  (m.chain id).all fun b =>
    match m.state? b with
    | none => false
    | some s => !decide (s.ownAvailable.value + slack < amount.value)

/-- The check loop of `release` and `deactivate`: every budget on the chain is
installed and accounts for the amount. -/
def chainAccountsFor (m : BudgetManager) (counter : Counter) (id : BudgetId) (amount : Watts) :
    Bool :=
  (m.chain id).all fun b =>
    match m.state? b with
    | none => false
    | some s => !decide ((s.get counter).value + slack < amount.value)

/-- One iteration of a write loop: add `delta` to a counter and clamp. -/
def adjust (counter : Counter) (delta : ℚ) (m : BudgetManager) (b : BudgetId) : BudgetManager :=
  ⟨m.states.modify b
    (fun s => s.set counter (Watts.clamped ((s.get counter).value + delta)))
    fun s keyed => by rw [BudgetState.set_cfg]; exact keyed⟩

/-- The write loop of the chain mutations. -/
def adjustChain (m : BudgetManager) (counter : Counter) (delta : ℚ) (ids : List BudgetId) :
    BudgetManager :=
  ids.foldl (adjust counter delta) m

/-- The body `reserve` and `activate` share: the whole chain is checked before
the first write. -/
def book (counter : Counter) (needsAuthority : Bool) (m : BudgetManager) (id : BudgetId)
    (amount : Watts) (budgetGen : BudgetGeneration) : BudgetManager × Bool :=
  match m.state? id with
  | none => (m, false)
  | some s =>
    if s.cfg.generation ≠ budgetGen then (m, false)
    else if needsAuthority && !s.cfg.authoritative then (m, false)
    else if amount.value < 0 then (m, false)
    else if !m.chainHasCapacity id amount then (m, false)
    else (m.adjustChain counter amount.value (m.chain id), true)

/-- The body `release` and `deactivate` share. -/
def unbook (counter : Counter) (m : BudgetManager) (id : BudgetId) (amount : Watts)
    (budgetGen : BudgetGeneration) : BudgetManager × Bool :=
  match m.state? id with
  | none => (m, false)
  | some s =>
    if s.cfg.generation ≠ budgetGen then (m, false)
    else if amount.value < 0 then (m, false)
    else if !m.chainAccountsFor counter id amount then (m, false)
    else (m.adjustChain counter (-amount.value) (m.chain id), true)

/-- Reserve power along the whole chain; only authoritative budgets take
reservations. -/
def reserve (m : BudgetManager) (id : BudgetId) (amount : Watts) (_rid : ReservationId)
    (budgetGen : BudgetGeneration) : BudgetManager × Bool :=
  book .reserved true m id amount budgetGen

/-- Give reserved power back along the chain. -/
def release (m : BudgetManager) (id : BudgetId) (amount : Watts) (_rid : ReservationId)
    (budgetGen : BudgetGeneration) : BudgetManager × Bool :=
  unbook .reserved m id amount budgetGen

/-- Attribute usage along the chain. -/
def activate (m : BudgetManager) (id : BudgetId) (amount : Watts) (_rid : ReservationId)
    (budgetGen : BudgetGeneration) : BudgetManager × Bool :=
  book .used false m id amount budgetGen

/-- Remove attributed usage along the chain. -/
def deactivate (m : BudgetManager) (id : BudgetId) (amount : Watts) (_rid : ReservationId)
    (budgetGen : BudgetGeneration) : BudgetManager × Bool :=
  unbook .used m id amount budgetGen

/-- The loop of `available`: the least `own_available`, or zero as soon as a
budget is not installed. -/
def availableLoop (m : BudgetManager) (avail : Watts) : List BudgetId → Watts
  | [] => avail
  | b :: rest =>
    match m.state? b with
    | none => Watts.zero
    | some s => availableLoop m (Watts.min avail s.ownAvailable) rest

/-- Capacity left for a budget, bounded by every budget on its chain. -/
def available (m : BudgetManager) (id : BudgetId) : Watts :=
  match m.state? id with
  | none => Watts.zero
  | some s => m.availableLoop s.ownAvailable (m.chain id)

def reserved (m : BudgetManager) (id : BudgetId) : Watts :=
  ((m.state? id).map BudgetState.reserved).getD Watts.zero

def used (m : BudgetManager) (id : BudgetId) : Watts :=
  ((m.state? id).map BudgetState.used).getD Watts.zero

def hardMax (m : BudgetManager) (id : BudgetId) : Watts :=
  ((m.state? id).map fun s => s.cfg.hardMax).getD Watts.zero

/-- `accounting_consistent`. A budget that is booked to its maximum fails it. -/
def accountingConsistent (m : BudgetManager) : Bool :=
  m.states.entries.all fun s =>
    !decide (s.cfg.hardMax.value < s.reserved.value + s.used.value + slack)

/-- `snapshots`: the installed definitions in iteration order. -/
def snapshots (m : BudgetManager) : List PowerBudget := m.states.entries.map BudgetState.cfg

end BudgetManager

/-! ## Calls -/

/-- One mutating call of the `BudgetManager` interface. -/
inductive BudgetCall where
  | install (b : PowerBudget)
  | reserve (id : BudgetId) (amount : Watts) (rid : ReservationId) (budgetGen : BudgetGeneration)
  | release (id : BudgetId) (amount : Watts) (rid : ReservationId) (budgetGen : BudgetGeneration)
  | activate (id : BudgetId) (amount : Watts) (rid : ReservationId) (budgetGen : BudgetGeneration)
  | deactivate (id : BudgetId) (amount : Watts) (rid : ReservationId) (budgetGen : BudgetGeneration)

namespace BudgetCall

/-- The manager a call leaves behind and the `bool` it returns. -/
def exec (m : BudgetManager) : BudgetCall → BudgetManager × Bool
  | .install b => m.install b
  | .reserve id amount rid budgetGen => m.reserve id amount rid budgetGen
  | .release id amount rid budgetGen => m.release id amount rid budgetGen
  | .activate id amount rid budgetGen => m.activate id amount rid budgetGen
  | .deactivate id amount rid budgetGen => m.deactivate id amount rid budgetGen

/-- The calls that book power. -/
def books : BudgetCall → Bool
  | .reserve .. | .activate .. => true
  | .install _ | .release .. | .deactivate .. => false

end BudgetCall

end PowerGovernor
