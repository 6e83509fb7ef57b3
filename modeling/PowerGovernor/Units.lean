import Mathlib.Algebra.Order.Field.Rat
import Mathlib.Tactic.NormNum
import PowerGovernor.Library.Binary64

/-!
Typed physical quantities and relative time.

Owns the faults a call can end in, the range rule of every dimension, the
validated `Quantity`, the clamp used by the accumulators, and `Duration`.
A `double` is read as the exact rational it denotes, so NaN and infinity are
not values of the model. Operations are exact; those that round like the code
go through `Binary64`.

Does not own the mutating operators `+=` and `-=`, which no other header uses.
-/

set_option autoImplicit false

namespace PowerGovernor

/-- The ways a call ends without a result: a thrown exception with its text,
an exception that leaves a `noexcept` function, or undefined behaviour. -/
inductive Fault where
  | invalidArgument (what : String)
  | overflowError (what : String)
  | outOfRange (what : String)
  | lengthError (what : String)
  | terminate
  | undefined
deriving DecidableEq, Repr

/-- An exception that leaves a `noexcept` function ends the process. -/
def noexcept {α : Type} : Except Fault α → Except Fault α
  | .ok value => .ok value
  | .error .undefined => .error .undefined
  | .error _ => .error .terminate

@[simp] theorem noexcept_eq_ok {α : Type} {result : Except Fault α} {value : α} :
    noexcept result = .ok value ↔ result = .ok value := by
  cases result with
  | ok other => simp [noexcept]
  | error fault => cases fault <;> simp [noexcept]

/-- Peeling the first step off a computation that returned. -/
theorem bind_eq_ok {ε α β : Type} {first : Except ε α} {rest : α → Except ε β} {b : β} :
    first >>= rest = .ok b ↔ ∃ a, first = .ok a ∧ rest a = .ok b := by
  cases first with
  | ok a =>
      refine ⟨fun returned => ⟨a, rfl, returned⟩, ?_⟩
      rintro ⟨other, same, returned⟩
      obtain rfl := Except.ok.inj same
      exact returned
  | error fault => exact ⟨nofun, nofun⟩

/-- A computation whose last step cannot fail returns exactly when the rest does. -/
theorem returns_bind_ok_iff {ε α β : Type} {first : Except ε α} {last : α → β} :
    (∃ b, (first >>= fun a => .ok (last a)) = .ok b) ↔ ∃ a, first = .ok a := by
  cases first with
  | ok a => exact ⟨fun _ => ⟨a, rfl⟩, fun _ => ⟨last a, rfl⟩⟩
  | error fault => exact ⟨fun ⟨_, other⟩ => (nomatch other), fun ⟨_, other⟩ => (nomatch other)⟩

/-- Results with the same image fail alike or both return. -/
theorem cases_of_map_eq {α β γ : Type} {left : Except Fault α} {right : Except Fault β}
    {f : α → γ} {g : β → γ} (same : left.map f = right.map g) :
    (∃ fault, left = .error fault ∧ right = .error fault) ∨
      ∃ a b, left = .ok a ∧ right = .ok b ∧ f a = g b := by
  cases left with
  | error fault =>
      cases right with
      | error other =>
          obtain rfl := Except.error.inj same
          exact .inl ⟨fault, rfl, rfl⟩
      | ok b => cases same
  | ok a =>
      cases right with
      | error fault => cases same
      | ok b => exact .inr ⟨a, b, rfl, rfl, Except.ok.inj same⟩

/-! ## Dimensions and units -/

inductive Dimension where
  | power | energy | temperature | time | frequency | utilization | efficiency
deriving DecidableEq, Repr

inductive UnitTag where
  | watts | milliwatts | joules | millijoules | celsius | milliseconds | seconds | utilization
  | frequencyMhz | memoryFrequencyMhz | energyPerToken | energyPerRequest | powerEfficiency
deriving DecidableEq, Repr

def UnitTag.dim : UnitTag → Dimension
  | .watts | .milliwatts => .power
  | .joules | .millijoules => .energy
  | .celsius => .temperature
  | .milliseconds | .seconds => .time
  | .utilization => .utilization
  | .frequencyMhz | .memoryFrequencyMhz => .frequency
  | .energyPerToken | .energyPerRequest | .powerEfficiency => .efficiency

/-- The display name of a unit. -/
def UnitTag.name : UnitTag → String
  | .watts => "W"
  | .milliwatts => "mW"
  | .joules => "J"
  | .millijoules => "mJ"
  | .celsius => "C"
  | .milliseconds => "ms"
  | .seconds => "s"
  | .utilization => "frac"
  | .frequencyMhz | .memoryFrequencyMhz => "MHz"
  | .energyPerToken => "J/token"
  | .energyPerRequest => "J/req"
  | .powerEfficiency => "work/W"

/-- The range `validate_unit` accepts in each dimension. -/
def Dimension.Admits : Dimension → ℚ → Prop
  | .utilization, v => 0 ≤ v ∧ v ≤ 1
  | .temperature, v => -27315 / 100 ≤ v
  | .power, v | .energy, v | .efficiency, v => 0 ≤ v
  | .time, _ | .frequency, _ => True

instance (dimension : Dimension) (v : ℚ) : Decidable (dimension.Admits v) := by
  cases dimension <;> unfold Dimension.Admits <;> infer_instance

/-- The text `validate_unit` throws for a value outside the range. -/
def UnitTag.rejection (unit : UnitTag) : String :=
  match unit.dim with
  | .utilization => "pg: utilization must be in [0,1]"
  | .temperature => "pg: temperature below absolute zero"
  | _ => "pg: " ++ unit.name ++ " must not be negative"

/-- A strongly typed quantity. The constructor validates, so every value a
header can hold satisfies the rule of its dimension. -/
structure Quantity (unit : UnitTag) where
  value : ℚ
  valid : unit.dim.Admits value
deriving DecidableEq

abbrev Watts := Quantity .watts
abbrev Joules := Quantity .joules
abbrev Celsius := Quantity .celsius
abbrev Utilization := Quantity .utilization
abbrev FrequencyMhz := Quantity .frequencyMhz

/-- `std::to_string(double)`: six decimals, the exact value rounded half to even. -/
def toStringDouble (v : ℚ) : String :=
  let scaled := |v| * 1000000
  let below := scaled.floor
  let rest := scaled - below
  let rounded := if rest < 1 / 2 then below else if 1 / 2 < rest then below + 1
    else if below % 2 = 0 then below else below + 1
  let fraction := toString (rounded % 1000000)
  (if v < 0 then "-" else "") ++ toString (rounded / 1000000) ++ "." ++
    "".pushn '0' (6 - fraction.length) ++ fraction

namespace Quantity

variable {unit : UnitTag}

/-- `Quantity::to_string`. -/
def text (quantity : Quantity unit) : String := toStringDouble quantity.value ++ unit.name

@[ext] theorem ext {left right : Quantity unit} (same : left.value = right.value) :
    left = right := by
  cases left
  cases right
  simp_all

/-- The validating constructor. -/
def construct (v : ℚ) : Except Fault (Quantity unit) :=
  if valid : unit.dim.Admits v then .ok ⟨v, valid⟩
  else .error (.invalidArgument unit.rejection)

theorem construct_eq_ok {v : ℚ} {quantity : Quantity unit} :
    construct v = .ok quantity ↔ quantity.value = v := by
  unfold construct
  split
  case isTrue valid =>
    rw [Except.ok.injEq]
    exact ⟨fun same => by rw [← same], fun same => Quantity.ext same.symm⟩
  case isFalse invalid =>
    refine ⟨nofun, fun same => ?_⟩
    exact absurd (same ▸ quantity.valid) invalid

/-- The constructor returns exactly for the values of the range. -/
theorem construct_returns_iff {v : ℚ} :
    (∃ quantity : Quantity unit, construct v = .ok quantity) ↔ unit.dim.Admits v := by
  constructor
  · rintro ⟨quantity, returned⟩
    exact construct_eq_ok.mp returned ▸ quantity.valid
  · intro valid
    exact ⟨⟨v, valid⟩, construct_eq_ok.mpr rfl⟩

/-- `clamped` is `noexcept` and still validates what it clamped. -/
def clamped (v : ℚ) : Except Fault (Quantity unit) :=
  noexcept (construct (if 0 ≤ v then v else 0))

end Quantity

/-! ## Power and energy

The rule of these two dimensions is non-negativity, so the clamp is total. -/

theorem Watts.nonneg (power : Watts) : 0 ≤ power.value := power.valid

theorem Joules.nonneg (energy : Joules) : 0 ≤ energy.value := energy.valid

def Watts.zero : Watts := ⟨0, le_refl (0 : ℚ)⟩

def Joules.zero : Joules := ⟨0, le_refl (0 : ℚ)⟩

def Watts.clamped (v : ℚ) : Watts := ⟨max 0 v, le_max_left 0 v⟩

def Joules.clamped (v : ℚ) : Joules := ⟨max 0 v, le_max_left 0 v⟩

/-- What `clamped` makes of a `double` operation with this exact result: the result is
rounded, and an infinity counts as zero. -/
def Watts.clampedDouble (v : ℚ) : Watts :=
  Watts.clamped (if Binary64.Overflows v then 0 else Binary64.round v)

def Joules.clampedDouble (v : ℚ) : Joules :=
  Joules.clamped (if Binary64.Overflows v then 0 else Binary64.round v)

theorem Watts.clampedDouble_of_exact {v : ℚ} (exact : Binary64.Exact v) :
    Watts.clampedDouble v = Watts.clamped v := by
  rw [clampedDouble, if_neg exact.2, exact.1]

theorem Joules.clampedDouble_of_exact {v : ℚ} (exact : Binary64.Exact v) :
    Joules.clampedDouble v = Joules.clamped v := by
  rw [clampedDouble, if_neg exact.2, exact.1]

@[simp] theorem Joules.clampedDouble_zero : Joules.clampedDouble 0 = Joules.zero := by
  decide +kernel

theorem Watts.isDouble_clampedDouble (v : ℚ) : Binary64.IsDouble (Watts.clampedDouble v).value := by
  have zero : Binary64.IsDouble 0 := ⟨0, 0, by norm_num, by norm_num, by norm_num⟩
  show Binary64.IsDouble (max 0 _)
  rcases max_choice 0 (if Binary64.Overflows v then 0 else Binary64.round v) with same | same
  · rw [same]
    exact zero
  · rw [same]
    split
    · exact zero
    · exact Binary64.isDouble_round v

theorem Watts.clampedDouble_le {v bound : ℚ} (nonneg : 0 ≤ bound)
    (le : Binary64.round v ≤ bound) : (Watts.clampedDouble v).value ≤ bound := by
  refine max_le nonneg ?_
  split
  · exact nonneg
  · exact le

/-- `Watts(std::min(left.value(), right.value()))`. -/
def Watts.min (left right : Watts) : Watts :=
  ⟨Min.min left.value right.value, le_min left.nonneg right.nonneg⟩

@[simp] theorem Watts.zero_value : Watts.zero.value = 0 := rfl

@[simp] theorem Joules.zero_value : Joules.zero.value = 0 := rfl

@[simp] theorem Watts.min_value (left right : Watts) :
    (left.min right).value = Min.min left.value right.value := rfl

@[simp] theorem Watts.clamped_value (v : ℚ) : (Watts.clamped v).value = max 0 v := rfl

@[simp] theorem Joules.clamped_value (v : ℚ) : (Joules.clamped v).value = max 0 v := rfl

private theorem clamp_eq_max (v : ℚ) : (if 0 ≤ v then v else 0) = max 0 v := by
  split
  case isTrue nonneg => exact (max_eq_right nonneg).symm
  case isFalse negative => exact (max_eq_left (le_of_not_ge negative)).symm

/-- On power the source's clamp never throws and yields `Watts.clamped`. -/
theorem Watts.clamped_eq (v : ℚ) :
    (Quantity.clamped v : Except Fault Watts) = .ok (Watts.clamped v) := by
  rw [Quantity.clamped, noexcept_eq_ok, Quantity.construct_eq_ok]
  exact (clamp_eq_max v).symm

/-- On energy the source's clamp never throws and yields `Joules.clamped`. -/
theorem Joules.clamped_eq (v : ℚ) :
    (Quantity.clamped v : Except Fault Joules) = .ok (Joules.clamped v) := by
  rw [Quantity.clamped, noexcept_eq_ok, Quantity.construct_eq_ok]
  exact (clamp_eq_max v).symm

/-! ## Durations -/

/-- `Duration::kMaxNs`, about 146 years. -/
def kMaxNs : Int := 4611686018427387903

/-- Relative time in exact nanoseconds. -/
structure Duration where
  ns : Int
  nonneg : 0 ≤ ns
  bounded : ns ≤ kMaxNs
deriving DecidableEq

namespace Duration

@[ext] theorem ext {left right : Duration} (same : left.ns = right.ns) : left = right := by
  cases left
  cases right
  simp_all

/-- The validating constructor `Duration(std::int64_t ns)`. -/
def construct (ns : Int) : Except Fault Duration :=
  if negative : ns < 0 then .error (.invalidArgument "pg: duration must be non-negative")
  else if tooLong : kMaxNs < ns then .error (.overflowError "pg::Duration overflow")
  else .ok ⟨ns, not_lt.mp negative, not_lt.mp tooLong⟩

theorem construct_eq_ok {ns : Int} {duration : Duration} :
    construct ns = .ok duration ↔ duration.ns = ns := by
  have lower := duration.nonneg
  have upper := duration.bounded
  unfold construct
  split
  case isTrue negative =>
    refine ⟨nofun, fun same => ?_⟩
    omega
  case isFalse nonneg =>
    split
    case isTrue tooLong =>
      refine ⟨nofun, fun same => ?_⟩
      omega
    case isFalse fits =>
      rw [Except.ok.injEq]
      exact ⟨fun same => by rw [← same], fun same => Duration.ext same.symm⟩

theorem construct_returns_iff {ns : Int} :
    (∃ duration, construct ns = .ok duration) ↔ 0 ≤ ns ∧ ns ≤ kMaxNs := by
  constructor
  · rintro ⟨duration, returned⟩
    rw [← construct_eq_ok.mp returned]
    exact ⟨duration.nonneg, duration.bounded⟩
  · rintro ⟨nonneg, bounded⟩
    exact ⟨⟨ns, nonneg, bounded⟩, construct_eq_ok.mpr rfl⟩

def zero : Duration := ⟨0, le_refl 0, by decide⟩

def secondsF (duration : Duration) : ℚ := duration.ns / 1000000000

/-- `Duration::to_string`; the conversion and the division of `seconds_f` round. -/
def text (duration : Duration) : String :=
  toStringDouble (Binary64.round (Binary64.round duration.ns / 1000000000)) ++ "s"

end Duration

end PowerGovernor
