import Mathlib.Data.UInt

/-!
Strong identifiers and generations.

Owns the 64-bit tagged identities, the independent generation counters, and
the process-wide allocators behind `StrongId::allocate`. Zero is the null
value of every identifier and generation.
-/

set_option autoImplicit false

namespace PowerGovernor

inductive IdTag where
  | governor | node | accelerator | worker | workerBoot | workload | requestClass | budget | policy
  | observation | decision | powerDomain | energyWindow | thermalDomain | reservation
deriving DecidableEq, Repr

/-- A strongly typed identifier. -/
structure StrongId (tag : IdTag) where
  raw : UInt64
deriving DecidableEq, Repr

instance (tag : IdTag) : LawfulBEq (StrongId tag) := inferInstance

abbrev NodeId := StrongId .node
abbrev AcceleratorId := StrongId .accelerator
abbrev WorkerId := StrongId .worker
abbrev WorkerBootId := StrongId .workerBoot
abbrev WorkloadId := StrongId .workload
abbrev RequestClassId := StrongId .requestClass
abbrev BudgetId := StrongId .budget
abbrev PolicyId := StrongId .policy
abbrev ObservationId := StrongId .observation
abbrev DecisionId := StrongId .decision
abbrev PowerDomainId := StrongId .powerDomain
abbrev ReservationId := StrongId .reservation

namespace StrongId

variable {tag : IdTag}

def invalid : StrongId tag := ⟨0⟩

def isValid (id : StrongId tag) : Bool := id.raw != 0

end StrongId

inductive GenerationTag where
  | coordinatorEpoch | governor | policy | device | observation | budget | decision | reservation
  | workload | thermal | energy
deriving DecidableEq, Repr

/-- A generation counter of one authority domain. -/
structure Generation (tag : GenerationTag) where
  raw : UInt64
deriving DecidableEq, Repr

abbrev CoordinatorEpoch := Generation .coordinatorEpoch
abbrev PolicyGeneration := Generation .policy
abbrev DeviceGeneration := Generation .device
abbrev ObservationGeneration := Generation .observation
abbrev BudgetGeneration := Generation .budget
abbrev DecisionGeneration := Generation .decision
abbrev ReservationGeneration := Generation .reservation
abbrev ThermalGeneration := Generation .thermal

namespace Generation

variable {tag : GenerationTag}

def null : Generation tag := ⟨0⟩

def first : Generation tag := ⟨1⟩

def isNull (generation : Generation tag) : Bool := generation.raw == 0

def next (generation : Generation tag) : Generation tag := ⟨generation.raw + 1⟩

theorem next_ne (generation : Generation tag) : generation.next ≠ generation := by
  intro same
  have raw : generation.raw + 1 = generation.raw := congrArg Generation.raw same
  grind

instance : LE (Generation tag) := ⟨fun left right => left.raw ≤ right.raw⟩

instance : LT (Generation tag) := ⟨fun left right => left.raw < right.raw⟩

instance (left right : Generation tag) : Decidable (left ≤ right) :=
  inferInstanceAs (Decidable (left.raw ≤ right.raw))

instance (left right : Generation tag) : Decidable (left < right) :=
  inferInstanceAs (Decidable (left.raw < right.raw))

protected theorem le_refl (generation : Generation tag) : generation ≤ generation :=
  UInt64.le_refl generation.raw

protected theorem le_trans {first second third : Generation tag} (before : first ≤ second)
    (after : second ≤ third) : first ≤ third := UInt64.le_trans before after

theorem le_of_not_le {left right : Generation tag} (newer : ¬ left ≤ right) : right ≤ left :=
  UInt64.le_of_lt (UInt64.not_le.mp newer)

protected theorem le_antisymm {left right : Generation tag} (le : left ≤ right)
    (ge : right ≤ left) : left = right := by
  cases left
  exact congrArg mk (UInt64.le_antisymm le ge)

protected theorem not_lt {left right : Generation tag} : ¬ left < right ↔ right ≤ left :=
  UInt64.not_lt

protected theorem lt_irrefl (generation : Generation tag) : ¬ generation < generation :=
  UInt64.lt_irrefl generation.raw

protected theorem lt_of_le_of_ne {left right : Generation tag} (le : left ≤ right)
    (different : left ≠ right) : left < right :=
  UInt64.lt_of_le_of_ne le fun same => different (congrArg mk same)

end Generation

/-- The process-wide `next_` counters this model draws from. -/
structure Allocators where
  policy : UInt64
  reservation : UInt64
  observation : UInt64
  decision : UInt64
deriving DecidableEq, Repr

namespace Allocators

/-- Every allocator starts at 1. -/
def start : Allocators := ⟨1, 1, 1, 1⟩

def allocatePolicy (ids : Allocators) : PolicyId × Allocators :=
  (⟨ids.policy⟩, { ids with policy := ids.policy + 1 })

def allocateReservation (ids : Allocators) : ReservationId × Allocators :=
  (⟨ids.reservation⟩, { ids with reservation := ids.reservation + 1 })

def allocateObservation (ids : Allocators) : ObservationId × Allocators :=
  (⟨ids.observation⟩, { ids with observation := ids.observation + 1 })

def allocateDecision (ids : Allocators) : DecisionId × Allocators :=
  (⟨ids.decision⟩, { ids with decision := ids.decision + 1 })

end Allocators

end PowerGovernor
