import PowerGovernor.Governor.EnergyWindow
import PowerGovernor.Persistence.Digest

/-!
The energy accounting across save and load.

Owns the balance of the meters over a run, what a fresh Governor reports of the
accounted energy once it has loaded the saved state, and the exact condition under
which it reports the same: a meter is stored as its total alone and comes back as
derived energy, and the total meter is not stored.
-/

set_option autoImplicit false

namespace PowerGovernor

def EnergyProvenance.all : List EnergyProvenance :=
  [.measured, .reported, .derived, .estimated, .unknown]

/-! ## One meter -/

namespace EnergyMeter

/-- The total is the sum over the five provenances. -/
def Balanced (meter : EnergyMeter) : Prop :=
  meter.total.value = (EnergyProvenance.all.map fun p => (meter.byProvenance p).value).sum

theorem balanced_blank : blank.Balanced := by
  unfold Balanced blank EnergyProvenance.all
  simp

theorem total_add (meter : EnergyMeter) (j : Joules) (p : EnergyProvenance) (now : Timestamp)
    (exact : Binary64.Exact (meter.total.value + j.value)) :
    (meter.add j p now).total.value = meter.total.value + j.value := by
  change (Joules.clampedDouble _).value = _
  rw [Joules.clampedDouble_of_exact exact]
  exact max_eq_right (add_nonneg meter.total.nonneg j.nonneg)

theorem byProvenance_add (meter : EnergyMeter) (j : Joules) (p q : EnergyProvenance)
    (now : Timestamp) (exact : Binary64.Exact ((meter.byProvenance p).value + j.value)) :
    ((meter.add j p now).byProvenance q).value =
      (meter.byProvenance q).value + if q = p then j.value else 0 := by
  unfold add
  dsimp only
  by_cases same : q = p
  · rw [same, Function.update_self, if_pos rfl, Joules.clampedDouble_of_exact exact]
    exact max_eq_right (add_nonneg (meter.byProvenance p).nonneg j.nonneg)
  · rw [Function.update_of_ne same, if_neg same, add_zero]

theorem Balanced.add {meter : EnergyMeter} (balanced : meter.Balanced) (j : Joules)
    (p : EnergyProvenance) (now : Timestamp)
    (total : Binary64.Exact (meter.total.value + j.value))
    (part : Binary64.Exact ((meter.byProvenance p).value + j.value)) :
    (meter.add j p now).Balanced := by
  unfold Balanced at balanced ⊢
  rw [total_add meter j p now total, balanced]
  simp only [byProvenance_add meter j p _ now part, List.sum_map_add]
  have once : (EnergyProvenance.all.map fun q => if q = p then j.value else 0).sum = j.value := by
    cases p <;> simp [EnergyProvenance.all]
  rw [once]

/-- No provenance carries more than the total. -/
theorem Balanced.byProvenance_le {meter : EnergyMeter} (balanced : meter.Balanced)
    (p : EnergyProvenance) : (meter.byProvenance p).value ≤ meter.total.value := by
  rw [balanced]
  apply List.single_le_sum
  · intro x member
    obtain ⟨q, _, rfl⟩ := List.mem_map.mp member
    exact (meter.byProvenance q).nonneg
  · cases p <;> simp [EnergyProvenance.all]

/-- The meter shows no energy. -/
structure Idle (meter : EnergyMeter) : Prop where
  total : meter.total = Joules.zero
  parts : ∀ p, meter.byProvenance p = Joules.zero

theorem idle_blank : blank.Idle := ⟨rfl, fun _ => rfl⟩

theorem Idle.balanced {meter : EnergyMeter} (idle : meter.Idle) : meter.Balanced := by
  unfold Balanced
  simp [idle.total, idle.parts, EnergyProvenance.all]

theorem Idle.add {meter : EnergyMeter} (idle : meter.Idle) (p : EnergyProvenance)
    (now : Timestamp) : (meter.add Joules.zero p now).Idle where
  total := by
    show Joules.clampedDouble (meter.total.value + 0) = Joules.zero
    rw [idle.total, Joules.zero_value, add_zero]
    exact Joules.clampedDouble_zero
  parts q := by
    show Function.update meter.byProvenance p
      (Joules.clampedDouble ((meter.byProvenance p).value + 0)) q = Joules.zero
    rw [idle.parts p, Joules.zero_value, add_zero]
    by_cases same : q = p
    · rw [same, Function.update_self]
      exact Joules.clampedDouble_zero
    · rw [Function.update_of_ne same]
      exact idle.parts q

/-- Every total lies on a grid of doubles. -/
structure OnGrid (k : ℤ) (meter : EnergyMeter) : Prop where
  total : Binary64.OnGrid k meter.total.value
  parts : ∀ p, Binary64.OnGrid k (meter.byProvenance p).value

theorem onGrid_blank (k : ℤ) : blank.OnGrid k :=
  ⟨Binary64.onGrid_zero, fun _ => Binary64.onGrid_zero⟩

section OnGrid

variable {k : ℤ} {meter : EnergyMeter} {j : Joules} {p : EnergyProvenance} {now : Timestamp}

/-- Below the end of the grid a meter adds without rounding. -/
theorem OnGrid.sums (grid : meter.OnGrid k) (balanced : meter.Balanced)
    (amount : Binary64.OnGrid k j.value) (below : meter.total.value + j.value < 2 ^ (k + 52)) :
    Binary64.OnGrid k (meter.total.value + j.value) ∧
      Binary64.OnGrid k ((meter.byProvenance p).value + j.value) := by
  have part := balanced.byProvenance_le p
  exact ⟨grid.total.add amount below, (grid.parts p).add amount (by linarith)⟩

theorem OnGrid.add (p : EnergyProvenance) (now : Timestamp) (grid : meter.OnGrid k)
    (balanced : meter.Balanced) (least : -1073 ≤ k) (finite : k ≤ 971)
    (amount : Binary64.OnGrid k j.value) (below : meter.total.value + j.value < 2 ^ (k + 52)) :
    (meter.add j p now).OnGrid k ∧ (meter.add j p now).Balanced ∧
      (meter.add j p now).total.value = meter.total.value + j.value := by
  obtain ⟨total, part⟩ := grid.sums (p := p) balanced amount below
  have totalExact := total.exact least finite
  have partExact := part.exact least finite
  have sum := meter.total_add j p now totalExact
  refine ⟨⟨sum ▸ total, fun q => ?_⟩, balanced.add j p now totalExact partExact, sum⟩
  rw [meter.byProvenance_add j p q now partExact]
  by_cases same : q = p
  · rw [if_pos same, same]
    exact part
  · rw [if_neg same, add_zero]
    exact grid.parts q

end OnGrid

end EnergyMeter

/-- The charges lie on one grid of doubles, and so does their sum. -/
structure Charge.OnGrid (k : ℤ) (charges : List Charge) : Prop where
  least : -1073 ≤ k
  finite : k ≤ 971
  amounts : ∀ charge ∈ charges, Binary64.OnGrid k charge.energy.value
  below : Charge.total charges < 2 ^ (k + 52)

theorem Charge.total_append (left right : List Charge) :
    Charge.total (left ++ right) = Charge.total left + Charge.total right := by
  unfold Charge.total
  rw [List.map_append, List.sum_append]

theorem Charge.total_nonneg (charges : List Charge) : 0 ≤ Charge.total charges := by
  apply List.sum_nonneg
  intro x member
  obtain ⟨charge, _, rfl⟩ := List.mem_map.mp member
  exact charge.energy.nonneg

theorem Charge.OnGrid.of_append {k : ℤ} {left right : List Charge}
    (grid : Charge.OnGrid k (left ++ right)) : Charge.OnGrid k left where
  least := grid.least
  finite := grid.finite
  amounts := fun charge member => grid.amounts charge (List.mem_append_left _ member)
  below := by
    have below := grid.below
    rw [Charge.total_append] at below
    have rest := Charge.total_nonneg right
    linarith

namespace Charge

/-- The amounts are doubles of at most `2 ^ 100` J, and there are at most `2 ^ 50`. -/
structure Moderate (charges : List Charge) : Prop where
  few : charges.length ≤ 2 ^ 50
  amounts : ∀ charge ∈ charges,
    Binary64.IsDouble charge.energy.value ∧ charge.energy.value ≤ 2 ^ 100

theorem Moderate.of_append {left right : List Charge} (moderate : Moderate (left ++ right)) :
    Moderate left where
  few := by
    have few := moderate.few
    rw [List.length_append] at few
    omega
  amounts := fun charge member => moderate.amounts charge (List.mem_append_left _ member)

/-- A total that the charges have been added to, and that has not overflowed. -/
structure Carries (charges : List Charge) (total : Joules) : Prop where
  double : Binary64.IsDouble total.value
  bounded : total.value ≤ charges.length * 2 ^ 100
  covers : ∀ charge ∈ charges, charge.energy.value ≤ total.value

theorem Carries.nil : Carries [] Joules.zero where
  double := ⟨0, 0, by norm_num, by norm_num, by norm_num⟩
  bounded := by simp
  covers _ member := absurd member List.not_mem_nil

/-- A rounded sum is not below its parts. -/
theorem Carries.add {charges : List Charge} {total energy : Joules} {now : Timestamp}
    (carries : Carries charges total) (moderate : Moderate (charges ++ [⟨energy, now⟩])) :
    Carries (charges ++ [⟨energy, now⟩]) (Joules.clampedDouble (total.value + energy.value)) := by
  obtain ⟨double, small⟩ :=
    moderate.amounts ⟨energy, now⟩ (List.mem_append_right _ List.mem_cons_self)
  have few := moderate.few
  have length : (charges ++ [(⟨energy, now⟩ : Charge)]).length = charges.length + 1 :=
    List.length_append
  rw [length] at few
  have nonneg : 0 ≤ total.value + energy.value := add_nonneg total.nonneg energy.nonneg
  have next : total.value + energy.value ≤ (charges.length + 1 : ℕ) * 2 ^ 100 := by
    have bounded := carries.bounded
    push_cast
    linarith
  obtain ⟨bound, most⟩ := Binary64.isDouble_mul_two_pow few 100
  have finite : ¬ Binary64.Overflows (total.value + energy.value) :=
    Binary64.not_overflows_of_le nonneg (next.trans most) (by norm_num)
  have value : (Joules.clampedDouble (total.value + energy.value)).value =
      Binary64.round (total.value + energy.value) := by
    rw [Joules.clampedDouble, if_neg finite]
    exact max_eq_right (Binary64.round_nonneg nonneg)
  have above : ∀ part, Binary64.IsDouble part → part ≤ total.value + energy.value →
      part ≤ (Joules.clampedDouble (total.value + energy.value)).value := fun part exact le =>
    value ▸ Binary64.le_round exact le
  refine ⟨value ▸ Binary64.isDouble_round _, ?_, ?_⟩
  · rw [value, length]
    exact Binary64.round_le bound next
  · intro charge member
    rcases List.mem_append.mp member with before | new
    · exact (carries.covers charge before).trans
        (above total.value carries.double (le_add_of_nonneg_right energy.nonneg))
    · rw [List.mem_singleton.mp new]
      exact above energy.value double (le_add_of_nonneg_left total.nonneg)

end Charge

namespace Governor

/-! ## The meters of a run -/

/-- `total_energy`. -/
def totalEnergy (g : Governor) : Joules := g.totalMeter.total

/-- Every meter adds up, and the total energy is that of all workloads. -/
structure Balanced (g : Governor) : Prop where
  meters : ∀ m ∈ g.workloadMeters.entries, m.meter.Balanced
  total : g.totalEnergy.value = g.workloadMeters.total fun m => m.meter.total.value

variable {g : Governor}

/-- What holds of every meter and of a blank one holds of the meter of a workload. -/
theorem meterOf_of_forall {P : EnergyMeter → Prop} (blank : P .blank)
    (all : ∀ m ∈ g.workloadMeters.entries, P m.meter) (workload : WorkloadId) :
    P (g.meterOf workload) := by
  unfold meterOf
  cases found : g.workloadMeters.find? workload with
  | none => exact blank
  | some m => exact all m (Keyed.mem_of_find? found)

/-- After accounting, a meter is the one written or one from before. -/
theorem forall_accountEnergy {P : EnergyMeter → Prop} {workload : WorkloadId} {energy : Joules}
    {provenance : EnergyProvenance} {now : Timestamp}
    (all : ∀ m ∈ g.workloadMeters.entries, P m.meter)
    (written : P ((g.meterOf workload).add energy provenance now)) :
    ∀ m ∈ (g.accountEnergy workload energy provenance now).workloadMeters.entries, P m.meter := by
  intro m member
  have found := Keyed.find?_of_mem member
  change (g.workloadMeters.assign _).find? m.workload = some m at found
  rw [Keyed.find?_assign] at found
  split at found
  · obtain rfl := Option.some.inj found
    exact written
  · exact all m (Keyed.mem_of_find? found)

/-- The meters are balanced, lie on a grid, and carry what was charged. -/
structure Metered (k : ℤ) (charged : ℚ) (g : Governor) : Prop where
  balanced : g.Balanced
  grid : ∀ m ∈ g.workloadMeters.entries, m.meter.OnGrid k
  onTotal : Binary64.OnGrid k g.totalEnergy.value
  charged : g.totalEnergy.value = charged

/-- No workload has more than there is. -/
theorem Balanced.meterOf_le (balanced : g.Balanced) (workload : WorkloadId) :
    (g.meterOf workload).total.value ≤ g.totalEnergy.value := by
  rw [balanced.total]
  unfold meterOf
  cases found : g.workloadMeters.find? workload with
  | none =>
      exact List.sum_nonneg fun x member => by
        obtain ⟨m, _, rfl⟩ := List.mem_map.mp member
        exact m.meter.total.nonneg
  | some m => exact Keyed.weight_le_total found fun m => m.meter.total.nonneg

theorem Metered.accountEnergy {k : ℤ} {charged : ℚ} (metered : Metered k charged g)
    (least : -1073 ≤ k) (finite : k ≤ 971) {energy : Joules}
    (amount : Binary64.OnGrid k energy.value) (below : charged + energy.value < 2 ^ (k + 52))
    (workload : WorkloadId) (provenance : EnergyProvenance) (now : Timestamp) :
    Metered k (charged + energy.value) (g.accountEnergy workload energy provenance now) := by
  have balanced := metered.balanced
  have all : ∀ m ∈ g.workloadMeters.entries, m.meter.OnGrid k ∧ m.meter.Balanced :=
    fun m member => ⟨metered.grid m member, balanced.meters m member⟩
  have own := meterOf_of_forall (P := fun meter => meter.OnGrid k ∧ meter.Balanced)
    ⟨EnergyMeter.onGrid_blank k, EnergyMeter.balanced_blank⟩ all workload
  have least' := balanced.meterOf_le workload
  rw [metered.charged] at least'
  obtain ⟨grid, adds, sum⟩ := own.1.add provenance now own.2 least finite amount (by linarith)
  have total : Binary64.OnGrid k (g.totalEnergy.value + energy.value) :=
    metered.onTotal.add amount (by rw [metered.charged]; exact below)
  have whole : (g.totalMeter.add energy provenance now).total.value =
      g.totalEnergy.value + energy.value :=
    g.totalMeter.total_add energy provenance now (total.exact least finite)
  have written : ∀ m ∈ (g.accountEnergy workload energy provenance now).workloadMeters.entries,
      m.meter.OnGrid k ∧ m.meter.Balanced :=
    forall_accountEnergy (P := fun meter => meter.OnGrid k ∧ meter.Balanced) all ⟨grid, adds⟩
  refine ⟨⟨fun m member => (written m member).2, ?_⟩, fun m member => (written m member).1,
    whole ▸ total, whole.trans (by rw [metered.charged])⟩
  have before : ((g.workloadMeters.find? workload).map fun m => m.meter.total.value).getD 0 =
      (g.meterOf workload).total.value := by
    unfold meterOf
    cases g.workloadMeters.find? workload <;> rfl
  show (g.totalMeter.add energy provenance now).total.value =
    (g.workloadMeters.assign _).total fun m => m.meter.total.value
  rw [whole, Keyed.total_assign]
  show g.totalEnergy.value + energy.value = _ +
    (((g.meterOf workload).add energy provenance now).total.value -
      ((g.workloadMeters.find? workload).map fun m => m.meter.total.value).getD 0)
  rw [before, sum, balanced.total]
  ring

section Run

variable {cfg : GovernorConfig} {ids : Allocators} {calls : List GovernorCall}

/-- Where nothing rounds, the meters of a run without a load carry what was charged. -/
theorem metered_runOf {k : ℤ} (noLoads : ∀ call ∈ calls, call.isLoad = false)
    (grid : Charge.OnGrid k (charges calls)) :
    Metered k (Charge.total (charges calls)) (runOf cfg ids calls) := by
  induction calls using List.reverseRecOn with
  | nil =>
      exact ⟨⟨fun _ member => absurd member List.not_mem_nil, rfl⟩,
        fun _ member => absurd member List.not_mem_nil, Binary64.onGrid_zero, rfl⟩
  | append_singleton calls call inductionHypothesis =>
      have split : charges (calls ++ [call]) = charges calls ++ charges [call] :=
        List.filterMap_append
      rw [split] at grid ⊢
      have before := inductionHypothesis
        (fun other member => noLoads other (List.mem_append_left _ member)) grid.of_append
      have noLoad := noLoads call (List.mem_append_right _ List.mem_cons_self)
      rw [runOf_append, Charge.total_append]
      have other : call.charge = none → Metered k (Charge.total (charges calls) +
          Charge.total (charges [call])) (call.after (runOf cfg ids calls)) := by
        intro nothing
        obtain ⟨meters, total⟩ :=
          Prod.mk.inj (meters_after (runOf cfg ids calls) nothing noLoad)
        have none : Charge.total (charges [call]) = 0 := by
          rw [charges, List.filterMap_cons_none nothing]
          rfl
        rw [none, add_zero]
        refine ⟨⟨?_, ?_⟩, ?_, ?_, ?_⟩
        · rw [meters]
          exact before.balanced.meters
        · unfold totalEnergy
          rw [meters, total]
          exact before.balanced.total
        · rw [meters]
          exact before.grid
        · unfold totalEnergy
          rw [total]
          exact before.onTotal
        · unfold totalEnergy
          rw [total]
          exact before.charged
      cases call with
      | accountEnergy workload energy provenance now =>
          have alone : Charge.total (charges [.accountEnergy workload energy provenance now]) =
              energy.value := add_zero energy.value
          have below := grid.below
          rw [Charge.total_append, alone] at below
          rw [alone]
          exact before.accountEnergy grid.least grid.finite
            (grid.amounts ⟨energy, now⟩ (List.mem_append_right _ List.mem_cons_self)) below
            workload provenance now
      | _ => exact other rfl

end Run

/-! ## The meters of a recovered Governor -/

/-- A recovered meter carries the stored total as derived energy. -/
theorem meterOf_reloaded {g : Governor} {bytes : Bytes} (saved : g.save = .ok bytes)
    (g₀ : Governor) (now : Timestamp) (workload : WorkloadId) :
    ((reloaded g₀ g now).meterOf workload).total = (g.meterOf workload).total.truncated ∧
      ∀ p, (((reloaded g₀ g now).meterOf workload).byProvenance p).value =
        if p = .derived then (g.meterOf workload).total.truncated.value else 0 := by
  have found : (g.storedMeters now).find? workload =
      (g.workloadMeters.find? workload).map fun m => restoredMeter now m.stored :=
    Keyed.find?_of_perm_map _ (fun _ => rfl) (.of_eq (entries_storedMeters g now)) workload
  have same : (reloaded g₀ g now).meterOf workload =
      (((g.storedMeters now).find? workload).map WorkloadMeter.meter).getD EnergyMeter.blank := rfl
  rw [same, found]
  unfold meterOf
  cases known : g.workloadMeters.find? workload with
  | none =>
      have nothing : Joules.zero.truncated = Joules.zero := by decide +kernel
      refine ⟨nothing.symm, fun p => ?_⟩
      show 0 = if p = .derived then Joules.zero.truncated.value else 0
      rw [nothing]
      exact (ite_self 0).symm
  | some m =>
      have exact := exact_truncated_of_save saved (Keyed.mem_of_find? known)
      refine ⟨total_restoredMeter now exact, fun p => ?_⟩
      show ((EnergyMeter.blank.add m.meter.total.truncated .derived now).byProvenance p).value = _
      rw [EnergyMeter.byProvenance_add]
      · exact zero_add _
      · exact (zero_add m.meter.total.truncated.value).symm ▸ exact

/-- The workloads' totals, their parts and the total energy are the same. -/
structure SameEnergies (g g₂ : Governor) : Prop where
  totals : ∀ workload, (g₂.meterOf workload).total = (g.meterOf workload).total
  provenances : ∀ workload p,
    (g₂.meterOf workload).byProvenance p = (g.meterOf workload).byProvenance p
  total : g₂.totalEnergy = g.totalEnergy

/-! ## Runs without energy -/

/-- No meter shows any energy. -/
structure Unmetered (g : Governor) : Prop where
  total : g.totalEnergy = Joules.zero
  meters : ∀ m ∈ g.workloadMeters.entries, m.meter.Idle

/-- Without energy a balanced Governor has nothing on any meter. -/
theorem Balanced.unmetered (balanced : g.Balanced) (none : g.totalEnergy = Joules.zero) :
    g.Unmetered where
  total := none
  meters := by
    intro m member
    have own : g.meterOf m.workload = m.meter := by
      unfold meterOf
      rw [Keyed.find?_of_mem member]
      rfl
    have least := balanced.meterOf_le m.workload
    rw [own, none] at least
    have noTotal : m.meter.total.value = 0 := le_antisymm least m.meter.total.nonneg
    refine ⟨Quantity.ext noTotal, fun p => Quantity.ext ?_⟩
    exact le_antisymm (((balanced.meters m member).byProvenance_le p).trans noTotal.le)
      (m.meter.byProvenance p).nonneg

theorem Unmetered.meterOf (unmetered : g.Unmetered) (workload : WorkloadId) :
    (g.meterOf workload).Idle :=
  meterOf_of_forall EnergyMeter.idle_blank unmetered.meters workload

theorem Unmetered.balanced (unmetered : g.Unmetered) : g.Balanced where
  meters m member := (unmetered.meters m member).balanced
  total := by
    rw [unmetered.total]
    refine (List.sum_eq_zero fun x member => ?_).symm
    obtain ⟨m, entry, rfl⟩ := List.mem_map.mp member
    exact congrArg Quantity.value (unmetered.meters m entry).total

variable {cfg cfg' : GovernorConfig} {ids ids' : Allocators} {calls : List GovernorCall}
  {bytes : Bytes} {now : Timestamp} {g₂ : Governor}

/-- A balanced Governor is reported as it was saved exactly when it shows no energy. -/
theorem recovered_iff (saved : g.save = .ok bytes)
    (loaded : (construct cfg' ids').load (some bytes) now = (.ok true, g₂)) :
    g.Balanced ∧ SameEnergies g g₂ ↔ g.Unmetered := by
  have recovered := eq_reloaded saved loaded
  constructor
  · rintro ⟨balanced, same⟩
    have total := same.total
    rw [recovered] at total
    exact balanced.unmetered total.symm
  · intro unmetered
    have truncated : Joules.zero.truncated = Joules.zero := by decide +kernel
    refine ⟨unmetered.balanced, fun workload => ?_, fun workload p => ?_, ?_⟩
    · rw [recovered, (meterOf_reloaded saved _ now workload).1, (unmetered.meterOf workload).total,
        truncated]
    · apply Quantity.ext
      rw [recovered, (meterOf_reloaded saved _ now workload).2 p,
        (unmetered.meterOf workload).total, (unmetered.meterOf workload).parts p, truncated]
      exact ite_self 0
    · rw [recovered]
      exact unmetered.total.symm

/-- A run that accounts no energy shows none. -/
theorem unmetered_runOf (noLoads : ∀ call ∈ calls, call.isLoad = false)
    (idle : ∀ charge ∈ charges calls, charge.energy = Joules.zero) :
    (runOf cfg ids calls).Unmetered := by
  induction calls using List.reverseRecOn with
  | nil => exact ⟨rfl, fun _ member => absurd member List.not_mem_nil⟩
  | append_singleton calls call inductionHypothesis =>
      have split : charges (calls ++ [call]) = charges calls ++ charges [call] :=
        List.filterMap_append
      rw [split] at idle
      have before := inductionHypothesis
        (fun other member => noLoads other (List.mem_append_left _ member))
        (fun charge member => idle charge (List.mem_append_left _ member))
      have noLoad := noLoads call (List.mem_append_right _ List.mem_cons_self)
      rw [runOf_append]
      have other : call.charge = none → (call.after (runOf cfg ids calls)).Unmetered := by
        intro nothing
        obtain ⟨meters, total⟩ := Prod.mk.inj (meters_after (runOf cfg ids calls) nothing noLoad)
        exact ⟨(congrArg EnergyMeter.total total).trans before.total, meters ▸ before.meters⟩
      cases call with
      | accountEnergy workload energy provenance now =>
          have nothing : energy = Joules.zero :=
            idle ⟨energy, now⟩ (List.mem_append_right _ List.mem_cons_self)
          subst nothing
          refine ⟨?_, forall_accountEnergy before.meters
            ((before.meterOf workload).add provenance now)⟩
          show Joules.clampedDouble ((runOf cfg ids calls).totalEnergy.value + 0) = Joules.zero
          rw [before.total, Joules.zero_value, add_zero]
          exact Joules.clampedDouble_zero
      | _ => exact other rfl

/-- The total meter of a run shows at least each amount that was charged. -/
theorem carries_runOf (noLoads : ∀ call ∈ calls, call.isLoad = false)
    (moderate : Charge.Moderate (charges calls)) :
    Charge.Carries (charges calls) (runOf cfg ids calls).totalEnergy := by
  induction calls using List.reverseRecOn with
  | nil => exact .nil
  | append_singleton calls call inductionHypothesis =>
      have split : charges (calls ++ [call]) = charges calls ++ charges [call] :=
        List.filterMap_append
      rw [split] at moderate ⊢
      have before := inductionHypothesis
        (fun other member => noLoads other (List.mem_append_left _ member)) moderate.of_append
      have noLoad := noLoads call (List.mem_append_right _ List.mem_cons_self)
      rw [runOf_append]
      have other : call.charge = none →
          Charge.Carries (charges calls ++ charges [call])
            (call.after (runOf cfg ids calls)).totalEnergy := by
        intro nothing
        have total : (call.after (runOf cfg ids calls)).totalEnergy =
            (runOf cfg ids calls).totalEnergy := congrArg (fun meters => meters.2.total)
          (meters_after (runOf cfg ids calls) nothing noLoad)
        have none : charges [call] = [] := List.filterMap_cons_none nothing
        rw [total, none, List.append_nil]
        exact before
      cases call with
      | accountEnergy workload energy provenance now => exact before.add moderate
      | _ => exact other rfl

/-- For every run without a load: the meters add up and a fresh Governor that loads the saved
state reports all the energy as it was accounted exactly when the meters show none. Where the
amounts are moderate, that is when none was accounted; and where nothing rounds, the meters
always add up. -/
theorem energy_recovered_iff (noLoads : ∀ call ∈ calls, call.isLoad = false) :
    ((runOf cfg ids calls).save = .ok bytes →
      (construct cfg' ids').load (some bytes) now = (.ok true, g₂) →
        ((runOf cfg ids calls).Balanced ∧ SameEnergies (runOf cfg ids calls) g₂ ↔
          (runOf cfg ids calls).Unmetered)) ∧
    (Charge.Moderate (charges calls) → ((runOf cfg ids calls).Unmetered ↔
      ∀ charge ∈ charges calls, charge.energy = Joules.zero)) ∧
    ∀ k, Charge.OnGrid k (charges calls) → (runOf cfg ids calls).Balanced := by
  refine ⟨recovered_iff, fun moderate => ⟨fun unmetered charge member => ?_,
    unmetered_runOf noLoads⟩, fun k grid => (metered_runOf noLoads grid).balanced⟩
  have carries : Charge.Carries (charges calls) (runOf cfg ids calls).totalEnergy :=
    carries_runOf noLoads moderate
  have least := carries.covers charge member
  rw [unmetered.total] at least
  exact Quantity.ext (le_antisymm least charge.energy.nonneg)

/-- Estimated energy of workload 7. -/
def estimated (energy : Joules) : List GovernorCall :=
  [.accountEnergy ⟨7⟩ energy .estimated Timestamp.zero]

/-- The Governor that accounted it. -/
def estimatedRun (energy : Joules) : Governor :=
  runOf ⟨⟨1⟩, ⟨1⟩, .first⟩ .start (estimated energy)

/-- A meter without energy is recovered as it was. -/
theorem energy_recovered_iff_none : ∃ bytes g₂, (estimatedRun Joules.zero).save = .ok bytes ∧
    firstGovernor.load (some bytes) Timestamp.zero = (.ok true, g₂) ∧
      SameEnergies (estimatedRun Joules.zero) g₂ := by
  have loadable : (estimatedRun Joules.zero).Loadable := by
    constructor <;> decide +kernel
  obtain ⟨bytes, g₂, saved, loaded⟩ := loads_of_loadable loadable (by decide +kernel)
    ⟨⟨1⟩, ⟨1⟩, .first⟩ .start Timestamp.zero
  refine ⟨bytes, g₂, saved, loaded, ?_⟩
  have unmetered : (estimatedRun Joules.zero).Unmetered := by
    refine unmetered_runOf (by decide) fun charge member => ?_
    rw [List.mem_singleton.mp member]
  exact (((energy_recovered_iff (by decide)).1 saved loaded).mpr unmetered).2

/-- One estimated joule comes back as a derived one. -/
theorem estimate_becomes_derived :
    ¬ ∀ (cfg cfg' : GovernorConfig) (ids ids' : Allocators) (calls : List GovernorCall)
      (bytes : Bytes) (now : Timestamp) (g₂ : Governor),
      (∀ call ∈ calls, call.isLoad = false) →
      (∀ charge ∈ charges calls, Storable charge.energy.value) →
      (runOf cfg ids calls).save = .ok bytes →
      (construct cfg' ids').load (some bytes) now = (.ok true, g₂) →
        SameEnergies (runOf cfg ids calls) g₂ := by
  intro recovers
  have loadable : (estimatedRun (Joules.clamped 1)).Loadable := by
    constructor <;> decide +kernel
  obtain ⟨bytes, g₂, saved, loaded⟩ := loads_of_loadable loadable (by decide +kernel)
    ⟨⟨1⟩, ⟨1⟩, .first⟩ .start Timestamp.zero
  have same := recovers _ _ _ _ (estimated (Joules.clamped 1)) bytes _ g₂ (by decide)
    (by decide +kernel) saved loaded
  have part := congrArg Quantity.value (same.provenances ⟨7⟩ .derived)
  rw [eq_reloaded saved loaded, (meterOf_reloaded saved _ _ _).2, if_pos rfl] at part
  exact absurd part (by decide +kernel)

end Governor

end PowerGovernor
