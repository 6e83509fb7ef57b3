import PowerGovernor.Library.Buckets
import PowerGovernor.Reservation.Manager

/-!
The secondary indexes over reservations.

Owns the four maps of `ReservationIndex`, their updates and the agreement of the
lists with the membership map. A list map is read as a function whose value is
empty where the source has no entry, which is what its lookup returns.
-/

set_option autoImplicit false

namespace PowerGovernor

/-- `ReservationIndex::Meta`, with the id it is stored under. -/
structure IndexEntry where
  id : ReservationId
  budget : BudgetId
  workload : WorkloadId
  state : ReservationState
deriving DecidableEq

structure ReservationIndex where
  members : Keyed IndexEntry.id
  byBudget : BudgetId → List ReservationId
  byWorkload : WorkloadId → List ReservationId
  byState : ReservationState → List ReservationId

namespace ReservationIndex

def empty : ReservationIndex := ⟨Keyed.empty, fun _ => [], fun _ => [], fun _ => []⟩

/-- The three `push_back` calls of `add` and `set_state`. -/
def pushLists (index : ReservationIndex) (entry : IndexEntry) : ReservationIndex :=
  { index with
    byBudget := Function.update index.byBudget entry.budget
      (index.byBudget entry.budget ++ [entry.id])
    byWorkload := Function.update index.byWorkload entry.workload
      (index.byWorkload entry.workload ++ [entry.id])
    byState := Function.update index.byState entry.state
      (index.byState entry.state ++ [entry.id]) }

/-- `remove_from_lists`: the first occurrence leaves each list. -/
def removeFromLists (index : ReservationIndex) (entry : IndexEntry) : ReservationIndex :=
  { index with
    byBudget := Function.update index.byBudget entry.budget
      ((index.byBudget entry.budget).erase entry.id)
    byWorkload := Function.update index.byWorkload entry.workload
      ((index.byWorkload entry.workload).erase entry.id)
    byState := Function.update index.byState entry.state
      ((index.byState entry.state).erase entry.id) }

/-- `members_[id] = meta`. -/
def assign (index : ReservationIndex) (entry : IndexEntry) : ReservationIndex :=
  { index with members := index.members.assign entry }

def add (index : ReservationIndex) (entry : IndexEntry) : ReservationIndex :=
  if !entry.id.isValid then index else (index.assign entry).pushLists entry

def setState (index : ReservationIndex) (entry : IndexEntry) : ReservationIndex :=
  match index.members.find? entry.id with
  | none => index.add entry
  | some old => ((index.removeFromLists old).assign entry).pushLists entry

/-! ## Agreement of the lists with the members -/

/-- The members have valid ids, and each list holds the members it stands for. -/
structure Sound (index : ReservationIndex) : Prop where
  valid : ∀ id entry, index.members.find? id = some entry → id.isValid = true
  byBudget : Buckets.Sorts index.byBudget
    fun id => (index.members.find? id).map IndexEntry.budget
  byWorkload : Buckets.Sorts index.byWorkload
    fun id => (index.members.find? id).map IndexEntry.workload
  byState : Buckets.Sorts index.byState
    fun id => (index.members.find? id).map IndexEntry.state

theorem sound_empty : empty.Sound where
  valid := nofun
  byBudget := Buckets.sorts_empty
  byWorkload := Buckets.sorts_empty
  byState := Buckets.sorts_empty

variable {index : ReservationIndex} {entry : IndexEntry}

theorem add_of_null (null : entry.id.isValid = false) : index.add entry = index := by
  rw [add, null]
  rfl

theorem members_add (valid : entry.id.isValid = true) :
    (index.add entry).members = index.members.assign entry := by
  rw [add, valid]
  rfl

theorem members_setState (valid : entry.id.isValid = true) :
    (index.setState entry).members = index.members.assign entry := by
  unfold setState
  split
  · exact members_add valid
  · rfl

/-- What the assigned entry does to a label of the members. -/
theorem label_assign {T : Type} (label : IndexEntry → T) (index : ReservationIndex)
    (entry : IndexEntry) :
    (fun id => ((index.members.assign entry).find? id).map label) =
      Function.update (fun id => (index.members.find? id).map label) entry.id
        (some (label entry)) := by
  funext id
  rw [Keyed.find?_assign]
  by_cases own : id = entry.id
  · rw [own, if_pos rfl, Function.update_self, Option.map_some]
  · rw [if_neg own, Function.update_of_ne own]

theorem Sound.valid_assign (sound : index.Sound) (valid : entry.id.isValid = true) :
    ∀ id stored, (index.members.assign entry).find? id = some stored → id.isValid = true := by
  intro id stored found
  rw [Keyed.find?_assign] at found
  split at found
  · rename_i own
    rwa [own]
  · exact sound.valid id stored found

theorem Sound.add (sound : index.Sound) (valid : entry.id.isValid = true)
    (fresh : index.members.find? entry.id = none) : (index.add entry).Sound := by
  have unlabelled : ∀ {T : Type} (label : IndexEntry → T),
      (index.members.find? entry.id).map label = none := fun label => by rw [fresh, Option.map_none]
  rw [ReservationIndex.add, valid]
  constructor
  · exact sound.valid_assign valid
  · have pushed := sound.byBudget.push (unlabelled IndexEntry.budget) entry.budget
    rwa [← label_assign] at pushed
  · have pushed := sound.byWorkload.push (unlabelled IndexEntry.workload) entry.workload
    rwa [← label_assign] at pushed
  · have pushed := sound.byState.push (unlabelled IndexEntry.state) entry.state
    rwa [← label_assign] at pushed

theorem Sound.setState (sound : index.Sound) (valid : entry.id.isValid = true) :
    (index.setState entry).Sound := by
  unfold ReservationIndex.setState
  split
  · rename_i fresh
    exact sound.add valid fresh
  · rename_i old found
    have labelled : ∀ {T : Type} (label : IndexEntry → T),
        (index.members.find? entry.id).map label = some (label old) :=
      fun label => by rw [found, Option.map_some]
    have same : old.id = entry.id := Keyed.key_of_find? found
    rw [removeFromLists, same]
    constructor
    · exact sound.valid_assign valid
    · have moved := sound.byBudget.move (labelled IndexEntry.budget) entry.budget
      rwa [← label_assign] at moved
    · have moved := sound.byWorkload.move (labelled IndexEntry.workload) entry.workload
      rwa [← label_assign] at moved
    · have moved := sound.byState.move (labelled IndexEntry.state) entry.state
      rwa [← label_assign] at moved

end ReservationIndex

end PowerGovernor
