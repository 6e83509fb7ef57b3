import PowerGovernor.Clock

/-!
Observation freshness.

Owns the four freshness states, the thresholds and the classifier by age.
-/

set_option autoImplicit false

namespace PowerGovernor

inductive FreshnessState where
  | current | aging | stale | expired
deriving DecidableEq, Repr

def FreshnessState.name : FreshnessState → String
  | .current => "CURRENT"
  | .aging => "AGING"
  | .stale => "STALE"
  | .expired => "EXPIRED"

structure FreshnessThresholds where
  fresh : Duration
  stale : Duration
  expired : Duration
deriving DecidableEq

namespace FreshnessThresholds

variable {t : FreshnessThresholds}

def ageFromDuration (t : FreshnessThresholds) (age : Duration) : FreshnessState :=
  if age.ns < t.fresh.ns then .current
  else if age.ns < t.stale.ns then .aging
  else if age.ns < t.expired.ns then .stale
  else .expired

def ageOf (now observed : Timestamp) : Except Fault Duration :=
  if observed.isZero then .ok Duration.zero else noexcept (now.elapsedSince observed)

/-- `FreshnessClassifier::classify`. A source never observed is expired. -/
def classify (t : FreshnessThresholds) (now observed : Timestamp) :
    Except Fault FreshnessState := do
  let age ← ageOf now observed
  if age.ns = 0 ∧ observed.isZero then return .expired
  return t.ageFromDuration age

/-- Evidence counts as fresh below the larger of the first two thresholds. -/
theorem ageFromDuration_fresh_iff {age : Duration} :
    t.ageFromDuration age = .current ∨ t.ageFromDuration age = .aging ↔
      age.ns < max t.fresh.ns t.stale.ns := by
  unfold ageFromDuration
  rw [lt_max_iff]
  by_cases fresh : age.ns < t.fresh.ns
  · simp [fresh]
  · by_cases stale : age.ns < t.stale.ns
    · simp [fresh, stale]
    · by_cases expired : age.ns < t.expired.ns <;> simp [fresh, stale, expired]

end FreshnessThresholds

end PowerGovernor
