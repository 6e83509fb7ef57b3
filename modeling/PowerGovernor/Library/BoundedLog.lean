import Mathlib.Data.List.DropRight

/-!
Logs of a bounded length.

Owns the log, which drops its oldest entry where a new one is one too many, and what is
left of a run of appends: the last entries.
-/

set_option autoImplicit false

/-- A log of at most `limit` entries, the oldest first. -/
structure BoundedLog (Entry : Type) where
  limit : Nat
  entries : List Entry
  bounded : entries.length ≤ limit

namespace BoundedLog

variable {Entry : Type}

def empty (limit : Nat) : BoundedLog Entry := ⟨limit, [], Nat.zero_le _⟩

def append (log : BoundedLog Entry) (entry : Entry) : BoundedLog Entry where
  limit := log.limit
  entries :=
    if log.limit < (log.entries ++ [entry]).length then (log.entries ++ [entry]).tail
    else log.entries ++ [entry]
  bounded := by
    have before := log.bounded
    split
    · rw [List.length_tail, List.length_append, List.length_singleton]
      omega
    · omega

theorem entries_append (log : BoundedLog Entry) (entry : Entry) :
    (log.append entry).entries = (log.entries ++ [entry]).rtake log.limit := by
  have before := log.bounded
  have longer : (log.entries ++ [entry]).length = log.entries.length + 1 := by
    rw [List.length_append, List.length_singleton]
  show (if _ then _ else _) = _
  unfold List.rtake
  split
  case isTrue full =>
    have one : (log.entries ++ [entry]).length - log.limit = 1 := by omega
    rw [one, List.drop_one]
  case isFalse room =>
    have none : (log.entries ++ [entry]).length - log.limit = 0 := by omega
    rw [none, List.drop_zero]

theorem rtake_rtake_append (entries more : List Entry) (limit : Nat) :
    (entries.rtake limit ++ more).rtake limit = (entries ++ more).rtake limit := by
  unfold List.rtake
  rw [← List.drop_append_of_le_length (Nat.sub_le _ _), List.drop_drop, List.length_drop,
    List.length_append]
  congr 1
  omega

/-- The last entries are left. -/
theorem entries_foldl_append (log : BoundedLog Entry) (more : List Entry) :
    (more.foldl append log).entries = (log.entries ++ more).rtake log.limit := by
  induction more generalizing log with
  | nil =>
      have none : log.entries.length - log.limit = 0 := Nat.sub_eq_zero_of_le log.bounded
      show log.entries = _
      rw [List.append_nil, List.rtake, none, List.drop_zero]
  | cons entry rest inductionHypothesis =>
      rw [List.foldl_cons, inductionHypothesis, entries_append]
      show (List.rtake _ log.limit ++ rest).rtake log.limit = _
      rw [rtake_rtake_append, List.append_assoc, List.singleton_append]

end BoundedLog
