import Mathlib.Tactic.Linarith
import PowerGovernor.Library.Transition
import PowerGovernor.Units

/-!
The arithmetic of the typed quantities.

Owns the operations of `Quantity` on plain values, which the mutating operators write past
the check of the constructor, programs over variables of every unit, and the operations that
keep every value in the range of its dimension.

Arithmetic is exact, so a value is rational; an argument may also be infinite or NaN.
-/

set_option autoImplicit false

namespace PowerGovernor

/-! ## Arguments -/

/-- A `double` that a caller passes. -/
inductive Double where
  | finite (v : ℚ)
  | infinite (negative : Bool)
  | nan
deriving DecidableEq

namespace Double

/-- `v * f`. -/
def scale (v : ℚ) : Double → Double
  | .finite f => .finite (v * f)
  | .infinite negative => if v = 0 then .nan else .infinite (negative != decide (v < 0))
  | .nan => .nan

/-- `v / f`. A zero is taken as positive, which only the sign of an infinity shows. -/
def divide (v : ℚ) : Double → Double
  | .finite f =>
    if f = 0 then if v = 0 then .nan else .infinite (decide (v < 0)) else .finite (v / f)
  | .infinite _ => .finite 0
  | .nan => .nan

/-- What `clamped` validates. -/
def clamp : Double → ℚ
  | .finite v => if 0 ≤ v then v else 0
  | _ => 0

end Double

/-! ## Operations -/

def UnitTag.scaleToBase : UnitTag → ℚ
  | .milliwatts | .millijoules | .milliseconds => 1 / 1000
  | .frequencyMhz | .memoryFrequencyMhz => 1000000
  | _ => 1

theorem UnitTag.scaleToBase_pos (unit : UnitTag) : 0 < unit.scaleToBase := by
  cases unit <;> decide +kernel

/-- `validate_unit`, with the value it lets through. -/
def validateUnit (unit : UnitTag) : Double → Except Fault ℚ
  | .finite v => if unit.dim.Admits v then .ok v else .error (.invalidArgument unit.rejection)
  | _ => .error (.invalidArgument ("pg: " ++ unit.name ++ " quantity must be finite (got NaN/Inf)"))

theorem validateUnit_finite (unit : UnitTag) (v : ℚ) : validateUnit unit (.finite v) =
    if unit.dim.Admits v then .ok v else .error (.invalidArgument unit.rejection) := rfl

/-- The variables of every unit. -/
abbrev Variables := UnitTag → Nat → ℚ

/-- Default-constructed variables. -/
def Variables.blank : Variables := fun _ _ => 0

/-- A statement that sets the variable `x` of a unit. `convert` is `to<Other>`. -/
inductive QuantityOp where
  | construct (unit : UnitTag) (x : Nat) (v : Double)
  | add (unit : UnitTag) (x y z : Nat)
  | sub (unit : UnitTag) (x y z : Nat)
  | mul (unit : UnitTag) (x y : Nat) (f : Double)
  | div (unit : UnitTag) (x y : Nat) (f : Double)
  | addAssign (unit : UnitTag) (x y : Nat)
  | subAssign (unit : UnitTag) (x y : Nat)
  | clamped (unit : UnitTag) (x : Nat) (v : Double)
  | convert (source target : UnitTag) (same : source.dim = target.dim) (x y : Nat)

namespace QuantityOp

/-- The unit of the variable that is set. -/
def unit : QuantityOp → UnitTag
  | .construct unit .. | .add unit .. | .sub unit .. | .mul unit .. | .div unit ..
  | .addAssign unit .. | .subAssign unit .. | .clamped unit .. => unit
  | .convert _ target .. => target

/-- The variable that is set. -/
def target : QuantityOp → Nat
  | .construct _ x _ | .add _ x _ _ | .sub _ x _ _ | .mul _ x _ _ | .div _ x _ _
  | .addAssign _ x _ | .subAssign _ x _ | .clamped _ x _ | .convert _ _ _ x _ => x

/-- All but the constructor are declared `noexcept`. -/
def isNoexcept : QuantityOp → Bool
  | .construct .. => false
  | _ => true

/-- The value an operation computes. The operators that return a new quantity construct it;
`+=` and `-=` write the value. -/
def result (vars : Variables) : QuantityOp → Except Fault ℚ
  | .construct unit _ v => validateUnit unit v
  | .add unit _ y z => noexcept (validateUnit unit (.finite (vars unit y + vars unit z)))
  | .sub unit _ y z => noexcept (validateUnit unit (.finite (vars unit y - vars unit z)))
  | .mul unit _ y f => noexcept (validateUnit unit (.scale (vars unit y) f))
  | .div unit _ y f => noexcept (validateUnit unit (.divide (vars unit y) f))
  | .addAssign unit x y => .ok (vars unit x + vars unit y)
  | .subAssign unit x y => .ok (vars unit x - vars unit y)
  | .clamped unit _ v => noexcept (validateUnit unit (.finite v.clamp))
  | .convert source target _ _ y => noexcept (validateUnit target
      (.finite (vars source y * source.scaleToBase / target.scaleToBase)))

/-- The variables after an operation; one that throws sets nothing. -/
def after (vars : Variables) (op : QuantityOp) : Variables :=
  match op.result vars with
  | .ok v => Function.update vars op.unit (Function.update (vars op.unit) op.target v)
  | .error _ => vars

end QuantityOp

/-! ## In range -/

/-- Every variable satisfies the rule of its dimension. -/
def Variables.InRange (vars : Variables) : Prop :=
  ∀ (unit : UnitTag) (x : Nat), unit.dim.Admits (vars unit x)

/-- An operation leaves every variable in range and, where it is declared `noexcept`, does
not throw. -/
def QuantityOp.Sound (vars : Variables) (op : QuantityOp) : Prop :=
  (op.after vars).InRange ∧ (op.isNoexcept = true → ∃ v, op.result vars = .ok v)

namespace Dimension

/-- Two values may be added. -/
def Adds : Dimension → ℚ → ℚ → Prop
  | .utilization, left, right => left + right ≤ 1
  | .temperature, left, right => -27315 / 100 ≤ left + right
  | _, _, _ => True

/-- The second value may be taken from the first. -/
def Subtracts : Dimension → ℚ → ℚ → Prop
  | .power, left, right | .energy, left, right | .efficiency, left, right
  | .utilization, left, right => right ≤ left
  | .temperature, left, right => right - left ≤ 27315 / 100
  | .time, _, _ | .frequency, _, _ => True

/-- A value may be scaled by a factor. -/
def Scales : Dimension → ℚ → ℚ → Prop
  | .power, v, f | .energy, v, f | .efficiency, v, f => v = 0 ∨ 0 ≤ f
  | .utilization, v, f => v = 0 ∨ 0 ≤ f ∧ v * f ≤ 1
  | .temperature, v, f => -27315 / 100 ≤ v * f
  | .time, _, _ | .frequency, _, _ => True

end Dimension

/-- The condition under which an operation is sound: what it adds, takes away or scales by
keeps the dimension, a factor is finite and a divisor is neither zero nor NaN, and a clamped
utilization is at most one or infinite. -/
def QuantityOp.Keeps (vars : Variables) : QuantityOp → Prop
  | .construct .. | .convert .. => True
  | .add unit _ y z | .addAssign unit y z => unit.dim.Adds (vars unit y) (vars unit z)
  | .sub unit _ y z | .subAssign unit y z => unit.dim.Subtracts (vars unit y) (vars unit z)
  | .mul unit _ y f => ∃ factor, f = .finite factor ∧ unit.dim.Scales (vars unit y) factor
  | .div unit _ y f => (∃ negative, f = .infinite negative) ∨
      ∃ divisor, f = .finite divisor ∧ divisor ≠ 0 ∧ unit.dim.Scales (vars unit y) divisor⁻¹
  | .clamped unit _ v => unit.dim = .utilization → ∀ value, v = .finite value → value ≤ 1

/-! ## One operation -/

section

variable {dimension : Dimension} {unit : UnitTag} {left right v f : ℚ}

theorem Dimension.admits_zero (dimension : Dimension) : dimension.Admits 0 := by
  cases dimension <;> norm_num [Admits]

theorem Dimension.admits_add_iff (leftValid : dimension.Admits left)
    (rightValid : dimension.Admits right) :
    dimension.Admits (left + right) ↔ dimension.Adds left right := by
  cases dimension with
  | utilization => exact and_iff_right (add_nonneg leftValid.1 rightValid.1)
  | power | energy | efficiency => exact iff_of_true (add_nonneg leftValid rightValid) trivial
  | temperature | time | frequency => exact Iff.rfl

theorem Dimension.admits_sub_iff (leftValid : dimension.Admits left)
    (rightValid : dimension.Admits right) :
    dimension.Admits (left - right) ↔ dimension.Subtracts left right := by
  cases dimension with
  | power | energy | efficiency => exact sub_nonneg
  | utilization =>
      have below : left - right ≤ 1 := by
        have low := rightValid.1
        have high := leftValid.2
        linarith
      exact (and_iff_left below).trans sub_nonneg
  | temperature =>
      show -27315 / 100 ≤ left - right ↔ right - left ≤ 27315 / 100
      constructor
      · intro above
        linarith
      · intro near
        linarith
  | time | frequency => exact Iff.rfl

theorem Dimension.admits_mul_iff (valid : dimension.Admits v) :
    dimension.Admits (v * f) ↔ dimension.Scales v f := by
  have sign : 0 ≤ v → (0 ≤ v * f ↔ v = 0 ∨ 0 ≤ f) := by
    intro nonneg
    rcases nonneg.eq_or_lt with zero | positive
    · simp [← zero]
    · rw [mul_nonneg_iff_of_pos_left positive, or_iff_right positive.ne']
  cases dimension with
  | power | energy | efficiency => exact sign valid
  | utilization =>
      show 0 ≤ v * f ∧ v * f ≤ 1 ↔ v = 0 ∨ 0 ≤ f ∧ v * f ≤ 1
      rw [sign valid.1]
      constructor
      · rintro ⟨zero | nonneg, below⟩
        · exact .inl zero
        · exact .inr ⟨nonneg, below⟩
      · rintro (zero | ⟨nonneg, below⟩)
        · refine ⟨.inl zero, ?_⟩
          rw [zero, zero_mul]
          exact zero_le_one
        · exact ⟨.inr nonneg, below⟩
  | temperature | time | frequency => exact Iff.rfl

theorem validateUnit_returns_iff {v : Double} :
    (∃ value, noexcept (validateUnit unit v) = .ok value) ↔
      ∃ value, v = .finite value ∧ unit.dim.Admits value := by
  simp only [noexcept_eq_ok]
  cases v with
  | finite value =>
      rw [validateUnit_finite]
      split
      · rename_i valid
        exact ⟨fun _ => ⟨value, rfl, valid⟩, fun _ => ⟨value, rfl⟩⟩
      · rename_i invalid
        constructor
        · rintro ⟨_, returned⟩
          cases returned
        · rintro ⟨_, ⟨⟩, valid⟩
          exact absurd valid invalid
  | infinite negative =>
      constructor
      · rintro ⟨_, returned⟩
        cases returned
      · rintro ⟨_, same, _⟩
        cases same
  | nan =>
      constructor
      · rintro ⟨_, returned⟩
        cases returned
      · rintro ⟨_, same, _⟩
        cases same

/-- What the check lets through is in range. -/
theorem admits_of_validateUnit {v : Double} {value : ℚ}
    (returned : validateUnit unit v = .ok value) : unit.dim.Admits value := by
  cases v with
  | finite v =>
      rw [validateUnit_finite] at returned
      split at returned
      · rename_i valid
        obtain rfl := Except.ok.inj returned
        exact valid
      · cases returned
  | infinite negative => cases returned
  | nan => cases returned

/-- The constructor of the validated quantities makes the same check. -/
theorem Quantity.map_construct (v : ℚ) :
    (construct v : Except Fault (Quantity unit)).map value = validateUnit unit (.finite v) := by
  unfold construct
  rw [validateUnit_finite]
  split <;> rfl

end

namespace QuantityOp

variable {vars : Variables} {op : QuantityOp}

/-- Setting one variable to a value in range. -/
theorem inRange_update_iff (valid : vars.InRange) {unit : UnitTag} {x : Nat} {v : ℚ} :
    Variables.InRange (Function.update vars unit (Function.update (vars unit) x v)) ↔
      unit.dim.Admits v := by
  constructor
  · intro kept
    have set := kept unit x
    rwa [Function.update_self, Function.update_self] at set
  · intro admitted other y
    by_cases sameUnit : other = unit
    · subst sameUnit
      rw [Function.update_self]
      by_cases sameIndex : y = x
      · rw [sameIndex, Function.update_self]
        exact admitted
      · rw [Function.update_of_ne sameIndex]
        exact valid other y
    · rw [Function.update_of_ne sameUnit]
      exact valid other y

/-- An operation that constructs its result is sound exactly when it may. -/
theorem sound_iff_of_constructs (valid : vars.InRange) (quiet : op.isNoexcept = true) {v : Double}
    (constructs : op.result vars = noexcept (validateUnit op.unit v)) :
    op.Sound vars ↔ ∃ value, v = .finite value ∧ op.unit.dim.Admits value := by
  rw [← validateUnit_returns_iff]
  unfold Sound after
  rw [constructs, quiet, forall_prop_of_true rfl]
  refine and_iff_right_of_imp ?_
  rintro ⟨value, returned⟩
  rw [returned]
  exact (inRange_update_iff valid).mpr (admits_of_validateUnit (noexcept_eq_ok.mp returned))

/-- An operation that writes its result is sound exactly when that is in range. -/
theorem sound_iff_of_writes (valid : vars.InRange) {value : ℚ}
    (writes : op.result vars = .ok value) : op.Sound vars ↔ op.unit.dim.Admits value := by
  unfold Sound after
  rw [writes]
  refine Iff.trans (and_iff_left fun _ => ⟨value, rfl⟩) ?_
  exact inRange_update_iff valid

theorem divides_iff {unit : UnitTag} {y : ℚ} (valid : unit.dim.Admits y) {f : Double} :
    (∃ value, Double.divide y f = .finite value ∧ unit.dim.Admits value) ↔
      (∃ negative, f = .infinite negative) ∨
        ∃ divisor, f = .finite divisor ∧ divisor ≠ 0 ∧ unit.dim.Scales y divisor⁻¹ := by
  cases f with
  | infinite negative =>
      exact iff_of_true ⟨0, rfl, unit.dim.admits_zero⟩ (.inl ⟨negative, rfl⟩)
  | nan => simp [Double.divide]
  | finite divisor =>
      simp only [Double.divide, reduceCtorEq, exists_false, false_or, Double.finite.injEq,
        exists_eq_left']
      by_cases zero : divisor = 0
      · rw [if_pos zero]
        refine ⟨?_, fun both => absurd zero both.1⟩
        rintro ⟨value, quotient, _⟩
        split at quotient <;> cases quotient
      · rw [if_neg zero, and_iff_right zero, ← Dimension.admits_mul_iff valid, ← div_eq_mul_inv]
        simp

theorem admits_clamp_iff {unit : UnitTag} (v : Double) :
    unit.dim.Admits v.clamp ↔
      (unit.dim = .utilization → ∀ value, v = .finite value → value ≤ 1) := by
  have nonneg : 0 ≤ v.clamp := by
    cases v with
    | finite value =>
        show 0 ≤ if 0 ≤ value then value else 0
        split
        · assumption
        · exact le_refl 0
    | infinite negative => exact le_refl 0
    | nan => exact le_refl 0
  cases unit.dim with
  | utilization =>
      rw [forall_prop_of_true rfl]
      refine (and_iff_right nonneg).trans ?_
      cases v with
      | finite value =>
          simp only [Double.finite.injEq, forall_eq']
          show (if 0 ≤ value then value else 0) ≤ 1 ↔ value ≤ 1
          split
          · exact Iff.rfl
          · exact iff_of_true zero_le_one (by linarith)
      | infinite negative => exact iff_of_true zero_le_one nofun
      | nan => exact iff_of_true zero_le_one nofun
  | power | energy | efficiency => exact iff_of_true nonneg nofun
  | temperature => exact iff_of_true ((by norm_num : (-27315 / 100 : ℚ) ≤ 0).trans nonneg) nofun
  | time | frequency => exact iff_of_true trivial nofun

/-- Utilization and temperature have one unit each. -/
theorem unit_eq_of_single {source target : UnitTag} (same : source.dim = target.dim)
    (single : target.dim = .utilization ∨ target.dim = .temperature) : source = target := by
  revert same single
  cases source <;> cases target <;> decide

/-- A change of scale keeps the range of every dimension that has more than one unit. -/
theorem admits_convert {source target : UnitTag} (same : source.dim = target.dim) {v : ℚ}
    (valid : source.dim.Admits v) :
    target.dim.Admits (v * source.scaleToBase / target.scaleToBase) := by
  have positive := div_pos source.scaleToBase_pos target.scaleToBase_pos
  rw [mul_div_assoc]
  rw [same] at valid
  cases dimension : target.dim with
  | power | energy | efficiency =>
      rw [dimension] at valid
      exact mul_nonneg valid positive.le
  | time | frequency => trivial
  | utilization | temperature =>
      have one : source = target := unit_eq_of_single same (by rw [dimension]; decide)
      rw [one, div_self target.scaleToBase_pos.ne', mul_one, ← dimension]
      exact valid

/-- In range, an operation is sound exactly when it keeps the dimension. -/
theorem sound_iff (valid : vars.InRange) : op.Sound vars ↔ op.Keeps vars := by
  cases op with
  | construct unit x v =>
      refine iff_of_true ⟨?_, nofun⟩ trivial
      unfold after
      cases returned : validateUnit unit v with
      | error fault =>
          rw [show (construct unit x v).result vars = _ from returned]
          exact valid
      | ok value =>
          rw [show (construct unit x v).result vars = _ from returned]
          exact (inRange_update_iff valid).mpr (admits_of_validateUnit returned)
  | add unit x y z =>
      rw [sound_iff_of_constructs valid rfl rfl]
      simp only [Double.finite.injEq, exists_eq_left']
      exact Dimension.admits_add_iff (valid unit y) (valid unit z)
  | sub unit x y z =>
      rw [sound_iff_of_constructs valid rfl rfl]
      simp only [Double.finite.injEq, exists_eq_left']
      exact Dimension.admits_sub_iff (valid unit y) (valid unit z)
  | mul unit x y f =>
      rw [sound_iff_of_constructs valid rfl rfl]
      show (∃ value, Double.scale (vars unit y) f = .finite value ∧ unit.dim.Admits value) ↔
        ∃ factor, f = .finite factor ∧ unit.dim.Scales (vars unit y) factor
      cases f with
      | finite factor => simp [Double.scale, Dimension.admits_mul_iff (valid unit y)]
      | infinite negative =>
          show (∃ value, (if vars unit y = 0 then Double.nan else _) = .finite value ∧ _) ↔ _
          split <;> simp
      | nan => simp [Double.scale]
  | div unit x y f =>
      rw [sound_iff_of_constructs valid rfl rfl]
      exact divides_iff (valid unit y)
  | addAssign unit x y =>
      rw [sound_iff_of_writes valid rfl]
      exact Dimension.admits_add_iff (valid unit x) (valid unit y)
  | subAssign unit x y =>
      rw [sound_iff_of_writes valid rfl]
      exact Dimension.admits_sub_iff (valid unit x) (valid unit y)
  | clamped unit x v =>
      rw [sound_iff_of_constructs valid rfl rfl]
      simp only [Double.finite.injEq, exists_eq_left']
      exact admits_clamp_iff v
  | convert source target same x y =>
      rw [sound_iff_of_constructs valid rfl rfl]
      exact iff_of_true ⟨_, rfl, admits_convert same (valid source y)⟩ trivial

/-! ## Programs -/

/-- Along every program that starts with default-constructed variables all values stay in range
and nothing declared `noexcept` throws exactly when every operation keeps the dimension. -/
theorem quantities_in_range_iff (ops : List QuantityOp) :
    Along after Sound Variables.blank ops ↔ Along after Keeps Variables.blank ops :=
  along_congr_of_invariant Variables.InRange (fun _ _ valid => sound_iff valid)
    (fun _ _ _ sound => sound.1) (fun unit _ => unit.dim.admits_zero) ops

/-- 5 W less 10 W: `-=` completes with a negative power, and `-` throws out of a function
that is declared `noexcept`. -/
theorem quantity_leaves_range :
    let load : List QuantityOp :=
      [.construct .watts 0 (.finite 5), .construct .watts 1 (.finite 10)]
    let loaded := load.foldl after Variables.blank
    (subAssign .watts 0 1).result loaded = .ok (-5) ∧
      (sub .watts 2 0 1).result loaded = .error .terminate ∧
      ¬ Along after Sound Variables.blank (load ++ [.subAssign .watts 0 1]) ∧
      ¬ Along after Sound Variables.blank (load ++ [.sub .watts 2 0 1]) := by
  intro load loaded
  have negative : (subAssign .watts 0 1).result loaded = .ok (-5) := by decide +kernel
  have throws : (sub .watts 2 0 1).result loaded = .error .terminate := by decide +kernel
  refine ⟨negative, throws, ?_, ?_⟩
  · rintro ⟨_, _, ⟨kept, _⟩, _⟩
    have left : (0 : ℚ) ≤ (subAssign .watts 0 1).after loaded .watts 0 := kept .watts 0
    unfold after at left
    rw [negative] at left
    exact absurd left (by decide +kernel)
  · rintro ⟨_, _, ⟨_, quiet⟩, _⟩
    obtain ⟨v, returned⟩ := quiet rfl
    cases throws.symm.trans returned

end QuantityOp

end PowerGovernor
