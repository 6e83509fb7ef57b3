import PowerGovernor.Library.Transition
import PowerGovernor.Reservation.Index

/-!
The reservation index over runs of its own operations.

Owns removal from the index, the list of entries that says what the index is for,
and the agreement of the two. The index keeps three families of lists by appending
and erasing single ids; the list keeps one entry per id, in the order in which the
entries were last written. An id is to be added only once: `add` does not look
whether it is held, and appends it again.
-/

set_option autoImplicit false

namespace PowerGovernor

namespace ReservationIndex

def remove (index : ReservationIndex) (id : ReservationId) : ReservationIndex :=
  match index.members.find? id with
  | none => index
  | some entry =>
    let index := index.removeFromLists entry
    { index with members := index.members.erase id }

def size (index : ReservationIndex) : Nat := index.members.size

def contains (index : ReservationIndex) (id : ReservationId) : Bool := index.members.contains id

end ReservationIndex

/-- An update of the index. -/
inductive IndexCall where
  | add (entry : IndexEntry)
  | setState (entry : IndexEntry)
  | remove (id : ReservationId)

namespace IndexCall

def after (index : ReservationIndex) : IndexCall → ReservationIndex
  | .add entry => index.add entry
  | .setState entry => index.setState entry
  | .remove id => index.remove id

/-! ## What the index is for -/

/-- An entry is written by taking out the one under its id and appending it. -/
def write (entries : Keyed IndexEntry.id) (entry : IndexEntry) : Keyed IndexEntry.id :=
  if entry.id.isValid then (entries.erase entry.id).emplace entry else entries

/-- The entries in the order in which they were last written. -/
def record (entries : Keyed IndexEntry.id) : IndexCall → Keyed IndexEntry.id
  | .add entry => write entries entry
  | .setState entry => write entries entry
  | .remove id => entries.erase id

/-- The call adds no id that is held. -/
def AddsFresh (entries : Keyed IndexEntry.id) : IndexCall → Prop
  | .add entry => entries.find? entry.id = none
  | .setState _ => True
  | .remove _ => True

end IndexCall

namespace ReservationIndex

/-- The index answers what the list of entries says. -/
structure Shows (index : ReservationIndex) (entries : Keyed IndexEntry.id) : Prop where
  members : ∀ id, index.members.find? id = entries.find? id
  valid : ∀ entry ∈ entries.entries, entry.id.isValid = true
  byBudget : Buckets.Lists index.byBudget IndexEntry.id IndexEntry.budget entries.entries
  byWorkload : Buckets.Lists index.byWorkload IndexEntry.id IndexEntry.workload entries.entries
  byState : Buckets.Lists index.byState IndexEntry.id IndexEntry.state entries.entries

theorem shows_empty : empty.Shows Keyed.empty where
  members := fun _ => rfl
  valid := nofun
  byBudget := Buckets.lists_nil
  byWorkload := Buckets.lists_nil
  byState := Buckets.lists_nil

variable {index : ReservationIndex} {entries : Keyed IndexEntry.id} {entry : IndexEntry}
  {id : ReservationId}

/-! ## The updates -/

/-- The lists without the entry under an id, before and after the member itself goes. -/
theorem Shows.removeFromLists (shows : index.Shows entries)
    (found : entries.find? id = some entry) :
    ((index.removeFromLists entry).members = index.members) ∧
      Buckets.Lists (index.removeFromLists entry).byBudget IndexEntry.id IndexEntry.budget
        (entries.erase id).entries ∧
      Buckets.Lists (index.removeFromLists entry).byWorkload IndexEntry.id IndexEntry.workload
        (entries.erase id).entries ∧
      Buckets.Lists (index.removeFromLists entry).byState IndexEntry.id IndexEntry.state
        (entries.erase id).entries := by
  have member := Keyed.mem_of_find? found
  obtain rfl := Keyed.key_of_find? found
  refine ⟨rfl, ?_, ?_, ?_⟩
  · exact shows.byBudget.erase entries.distinct member
  · exact shows.byWorkload.erase entries.distinct member
  · exact shows.byState.erase entries.distinct member

theorem Shows.remove (shows : index.Shows entries) (id : ReservationId) :
    (index.remove id).Shows (entries.erase id) := by
  unfold ReservationIndex.remove
  split
  · rename_i absent
    rw [shows.members] at absent
    rwa [Keyed.erase_of_free absent]
  · rename_i old found
    rw [shows.members] at found
    obtain ⟨-, budgets, workloads, states⟩ := shows.removeFromLists found
    refine ⟨fun other => ?_, fun kept member => ?_, budgets, workloads, states⟩
    · change (index.members.erase id).find? other = _
      rw [Keyed.find?_erase, Keyed.find?_erase, shows.members]
    · exact shows.valid kept (List.mem_filter.mp member).1

/-- A valid entry appended to the lists of an index without its id. -/
theorem Shows.append {lists : ReservationIndex} {rest : Keyed IndexEntry.id}
    (budgets : Buckets.Lists lists.byBudget IndexEntry.id IndexEntry.budget rest.entries)
    (workloads : Buckets.Lists lists.byWorkload IndexEntry.id IndexEntry.workload rest.entries)
    (states : Buckets.Lists lists.byState IndexEntry.id IndexEntry.state rest.entries)
    (members : ∀ other, other ≠ entry.id → lists.members.find? other = rest.find? other)
    (allValid : ∀ kept ∈ rest.entries, kept.id.isValid = true)
    (valid : entry.id.isValid = true) (free : rest.find? entry.id = none) :
    ((lists.assign entry).pushLists entry).Shows (rest.emplace entry) := by
  have appended := Keyed.entries_emplace free
  constructor
  · intro other
    change (lists.members.assign entry).find? other = _
    rw [Keyed.find?_assign, Keyed.find?_emplace free]
    split
    · rfl
    · rename_i different
      exact members other different
  · exact Keyed.forall_emplace allValid valid
  · rw [appended]
    exact budgets.push entry
  · rw [appended]
    exact workloads.push entry
  · rw [appended]
    exact states.push entry

theorem Shows.add (shows : index.Shows entries) (fresh : entries.find? entry.id = none) :
    (index.add entry).Shows (IndexCall.write entries entry) := by
  unfold ReservationIndex.add IndexCall.write
  cases valid : entry.id.isValid with
  | false => exact shows
  | true =>
      simp only [Bool.not_true, Bool.false_eq_true, if_false, if_true]
      rw [Keyed.erase_of_free fresh]
      exact .append shows.byBudget shows.byWorkload shows.byState
        (fun other _ => shows.members other) shows.valid valid fresh

theorem Shows.setState (shows : index.Shows entries) (entry : IndexEntry) :
    (index.setState entry).Shows (IndexCall.write entries entry) := by
  unfold ReservationIndex.setState
  split
  · rename_i absent
    rw [shows.members] at absent
    exact shows.add absent
  · rename_i old found
    have held := found
    rw [shows.members] at held
    have valid : entry.id.isValid = true := by
      have valid := shows.valid old (Keyed.mem_of_find? held)
      rwa [Keyed.key_of_find? held] at valid
    obtain ⟨same, budgets, workloads, states⟩ := shows.removeFromLists held
    rw [IndexCall.write, if_pos valid]
    refine .append budgets workloads states (fun other different => ?_) (fun kept member => ?_)
      valid ?_
    · rw [same, shows.members, Keyed.find?_erase, if_neg different]
    · exact shows.valid kept (List.mem_filter.mp member).1
    · rw [Keyed.find?_erase, if_pos rfl]

theorem Shows.after (shows : index.Shows entries) {call : IndexCall}
    (fresh : call.AddsFresh entries) : (call.after index).Shows (call.record entries) := by
  cases call with
  | add entry => exact shows.add fresh
  | setState entry => exact shows.setState entry
  | remove id => exact shows.remove id

/-- Every run that adds no held id. -/
theorem Shows.run (shows : index.Shows entries) {calls : List IndexCall}
    (fresh : Along IndexCall.record (fun entries call => call.AddsFresh entries) entries calls) :
    (calls.foldl IndexCall.after index).Shows (calls.foldl IndexCall.record entries) := by
  induction calls generalizing index entries with
  | nil => exact shows
  | cons call rest inductionHypothesis =>
      obtain ⟨first, others⟩ := fresh
      exact inductionHypothesis (shows.after first) others

/-- Over every run of updates that adds no held id, the index holds the entries that
were written and not removed, and each lookup lists the ids of those it asks for,
each once, in the order in which they were last written. -/
theorem lookups_in_order (calls : List IndexCall)
    (fresh : Along IndexCall.record (fun entries call => call.AddsFresh entries) Keyed.empty
      calls) :
    let index := calls.foldl IndexCall.after empty
    let written := calls.foldl IndexCall.record Keyed.empty
    index.size = written.size ∧ (∀ id, index.contains id = written.contains id) ∧
      (∀ budget, index.byBudget budget =
        (written.entries.filter fun entry => entry.budget = budget).map IndexEntry.id) ∧
      (∀ workload, index.byWorkload workload =
        (written.entries.filter fun entry => entry.workload = workload).map IndexEntry.id) ∧
      ∀ state, index.byState state =
        (written.entries.filter fun entry => entry.state = state).map IndexEntry.id := by
  have shows := shows_empty.run fresh
  refine ⟨Keyed.size_eq_of_find? shows.members, fun id => ?_, shows.byBudget, shows.byWorkload,
    shows.byState⟩
  exact congrArg Option.isSome (shows.members id)

/-- Of three reservations of one budget the first is activated and the second removed. -/
theorem lookups_in_order_three :
    let entry (id : UInt64) (state : ReservationState) : IndexEntry := ⟨⟨id⟩, ⟨1⟩, ⟨1⟩, state⟩
    let calls : List IndexCall :=
      [.add (entry 1 .planned), .add (entry 2 .planned), .add (entry 3 .planned),
        .setState (entry 1 .active), .remove ⟨2⟩]
    (calls.foldl IndexCall.after empty).byBudget ⟨1⟩ = [⟨3⟩, ⟨1⟩] := by
  intro entry calls
  have fresh : Along IndexCall.record (fun entries call => call.AddsFresh entries) Keyed.empty
      calls := by
    refine ⟨?_, ?_, ?_, trivial, trivial, trivial⟩ <;> change Keyed.find? _ _ = none <;> decide
  exact ((lookups_in_order calls fresh).2.2.1 ⟨1⟩).trans (by decide)

end ReservationIndex

end PowerGovernor
