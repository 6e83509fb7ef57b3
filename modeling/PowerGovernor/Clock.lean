import PowerGovernor.Units

/-!
Timestamps and elapsed time.

Owns the signed 64-bit nanosecond timestamp and `elapsed_since`, with the two
ways it can fail: signed overflow of the subtraction and a difference that no
`Duration` can hold.
-/

set_option autoImplicit false

namespace PowerGovernor

/-- Nanoseconds since the Unix epoch in 64 bits; 0 means "never observed". -/
structure Timestamp where
  ns : Int
  lower : -9223372036854775808 ≤ ns
  upper : ns < 9223372036854775808
deriving DecidableEq

namespace Timestamp

@[ext] theorem ext {left right : Timestamp} (same : left.ns = right.ns) : left = right := by
  cases left
  cases right
  simp_all

def zero : Timestamp := ⟨0, by decide, by decide⟩

def oneNano : Timestamp := ⟨1, by decide, by decide⟩

def halfSecond : Timestamp := ⟨500000000, by decide, by decide⟩

def fullSecond : Timestamp := ⟨1000000000, by decide, by decide⟩

/-- The nanoseconds of the last timestamp. -/
def lastNs : Int := 9223372036854775807

def isZero (t : Timestamp) : Bool := t.ns == 0

/-- `ns_ > a.ns_ ? ns_ - a.ns_ : 0`, validated by the `Duration` constructor. -/
def elapsedSince (now a : Timestamp) : Except Fault Duration :=
  if a.ns < now.ns then
    if now.ns - a.ns < 9223372036854775808 then Duration.construct (now.ns - a.ns)
    else .error .undefined
  else .ok Duration.zero

/-- The elapsed time is `max 0 (now - a)` whenever it is returned. -/
theorem elapsedSince_eq_ok {now a : Timestamp} {elapsed : Duration} :
    now.elapsedSince a = .ok elapsed ↔ elapsed.ns = max 0 (now.ns - a.ns) := by
  have bound := elapsed.bounded
  unfold elapsedSince
  split
  case isTrue later =>
    rw [max_eq_right (by omega)]
    split
    case isTrue fits => exact Duration.construct_eq_ok
    case isFalse overflow =>
      refine ⟨nofun, fun same => ?_⟩
      simp only [kMaxNs] at bound
      omega
  case isFalse earlier =>
    rw [max_eq_left (by omega), Except.ok.injEq, Duration.ext_iff, eq_comm]
    rfl

/-- Whether the elapsed time fits in a `Duration`. -/
def ElapsedFits (now a : Timestamp) : Prop := now.ns - a.ns ≤ kMaxNs

instance (now a : Timestamp) : Decidable (ElapsedFits now a) :=
  inferInstanceAs (Decidable (now.ns - a.ns ≤ kMaxNs))

/-- `elapsed_since` returns exactly when the difference fits. -/
theorem elapsedSince_returns_iff {now a : Timestamp} :
    (∃ elapsed, now.elapsedSince a = .ok elapsed) ↔ ElapsedFits now a := by
  constructor
  · rintro ⟨elapsed, returned⟩
    have value := elapsedSince_eq_ok.mp returned
    have bound := elapsed.bounded
    unfold ElapsedFits
    omega
  · intro fits
    unfold ElapsedFits at fits
    have bounded : max 0 (now.ns - a.ns) ≤ kMaxNs := max_le (by decide) fits
    exact ⟨⟨max 0 (now.ns - a.ns), le_max_left _ _, bounded⟩, elapsedSince_eq_ok.mpr rfl⟩

/-- The elapsed time between ordered timestamps that fits. -/
theorem elapsedSince_of_fits {now a : Timestamp} (ordered : a.ns ≤ now.ns)
    (fits : ElapsedFits now a) :
    ∃ elapsed, now.elapsedSince a = .ok elapsed ∧ elapsed.ns = now.ns - a.ns := by
  obtain ⟨elapsed, returned⟩ := elapsedSince_returns_iff.mpr fits
  have value := elapsedSince_eq_ok.mp returned
  exact ⟨elapsed, returned, by omega⟩

theorem elapsedSince_faults {now a : Timestamp} (overflows : ¬ ElapsedFits now a) :
    ∃ fault, now.elapsedSince a = .error fault := by
  cases returned : now.elapsedSince a with
  | ok elapsed => exact absurd (elapsedSince_returns_iff.mp ⟨elapsed, returned⟩) overflows
  | error fault => exact ⟨fault, rfl⟩

/-- Times of calls one after the other. -/
def Ordered (times : List Timestamp) : Prop := times.Pairwise fun t u => t.ns ≤ u.ns

instance (times : List Timestamp) : Decidable (Ordered times) :=
  inferInstanceAs (Decidable (times.Pairwise fun t u => t.ns ≤ u.ns))

theorem elapsedSince_self (t : Timestamp) : t.elapsedSince t = .ok Duration.zero :=
  if_neg (lt_irrefl t.ns)

end Timestamp

end PowerGovernor
