import Mathlib.Data.List.Basic

/-!
First-in first-out queues with their history.

Owns the queue: what was put in is what was taken out and then what waits, by its
type. Owns also what is taken next, as a function of the history alone.
-/

set_option autoImplicit false

/-- A queue that remembers what went through it. -/
@[ext] structure Fifo (α : Type) where
  sent : List α
  received : List α
  waiting : List α
  conserved : sent = received ++ waiting

namespace Fifo

variable {α : Type}

def empty : Fifo α := ⟨[], [], [], rfl⟩

def put (q : Fifo α) (a : α) : Fifo α where
  sent := q.sent ++ [a]
  received := q.received
  waiting := q.waiting ++ [a]
  conserved := by rw [q.conserved, List.append_assoc]

/-- Put in what there is, if anything. -/
def offer (q : Fifo α) : Option α → Fifo α
  | none => q
  | some a => q.put a

/-- The queue without its oldest item. -/
def take (q : Fifo α) : Fifo α where
  sent := q.sent
  received := q.received ++ q.waiting.take 1
  waiting := q.waiting.drop 1
  conserved := by rw [List.append_assoc, List.take_append_drop, q.conserved]

/-- The oldest item. -/
def next (q : Fifo α) : Option α := q.waiting.head?

variable {q : Fifo α} {a : α}

@[simp] theorem sent_put : (q.put a).sent = q.sent ++ [a] := rfl

@[simp] theorem received_put : (q.put a).received = q.received := rfl

@[simp] theorem waiting_put : (q.put a).waiting = q.waiting ++ [a] := rfl

@[simp] theorem sent_take : q.take.sent = q.sent := rfl

theorem received_take (first : q.next = some a) : q.take.received = q.received ++ [a] := by
  obtain ⟨rest, waiting⟩ := List.head?_eq_some_iff.mp first
  show q.received ++ q.waiting.take 1 = q.received ++ [a]
  rw [waiting]
  rfl

theorem waiting_take (first : q.next = some a) : q.waiting = a :: q.take.waiting := by
  obtain ⟨rest, waiting⟩ := List.head?_eq_some_iff.mp first
  show q.waiting = a :: q.waiting.drop 1
  rw [waiting]
  rfl

/-- What waits alone is next, and nothing is left behind it. -/
theorem next_eq_some_of_singleton {b : α} (only : q.waiting = [b]) :
    q.next = some a ↔ a = b := by
  rw [next, only]
  exact Option.some_inj.trans eq_comm

theorem waiting_take_of_singleton {b : α} (only : q.waiting = [b]) : q.take.waiting = [] := by
  show q.waiting.drop 1 = []
  rw [only]
  rfl

theorem next_ne_some_of_empty (empty : q.waiting = []) : q.next ≠ some a := by
  rw [next, empty]
  exact (Option.some_ne_none a).symm

/-- What was taken out was put in first, in the same order. -/
theorem received_prefix (q : Fifo α) : q.received <+: q.sent := ⟨q.waiting, q.conserved.symm⟩

/-- What comes out next is the item behind those that came out. -/
theorem next_eq (q : Fifo α) : q.next = q.sent[q.received.length]? := by
  rw [q.conserved, List.getElem?_append_right (Nat.le_refl _), Nat.sub_self]
  exact List.head?_eq_getElem?

end Fifo
