import Mathlib.Tactic.Linarith
import Mathlib.Tactic.Ring
import PowerGovernor.Budget.Chain
import PowerGovernor.Library.Transition

/-!
Capacity safety of the budget hierarchy.

Owns the runs that grow a budget forest from nothing while power is reserved,
released, activated and deactivated on it, and the bound that holds after every
step: no budget, at any level, is booked beyond its hard maximum by more than
one tolerance for each booking granted so far. The forest may have any depth.
-/

set_option autoImplicit false

namespace PowerGovernor

open ParentPath

/-! ## One budget -/

namespace BudgetState

/-- All power booked on one budget. -/
def booked (s : BudgetState) : ℚ := s.reserved.value + s.used.value

theorem booked_eq (s : BudgetState) (counter : Counter) :
    ∃ other : Watts, s.booked = (s.get counter).value + other.value ∧
      ∀ amount, (s.set counter amount).booked = amount.value + other.value := by
  cases counter with
  | reserved => exact ⟨s.used, rfl, fun _ => rfl⟩
  | used => exact ⟨s.reserved, add_comm _ _, fun _ => add_comm _ _⟩

/-- Booking more adds the amount: the clamp has no effect. -/
theorem booked_bump_of_nonneg (s : BudgetState) (counter : Counter) {delta : ℚ}
    (nonneg : 0 ≤ delta) : (s.bump counter delta).booked = s.booked + delta := by
  obtain ⟨other, before, after⟩ := s.booked_eq counter
  have present := (s.get counter).nonneg
  rw [bump, after, before, Watts.clamped_value, max_eq_right (by linarith)]
  ring

/-- Returning power never books more, also where the clamp cuts it off. -/
theorem booked_bump_le (s : BudgetState) (counter : Counter) {delta : ℚ} (nonpos : delta ≤ 0) :
    (s.bump counter delta).booked ≤ s.booked := by
  obtain ⟨other, before, after⟩ := s.booked_eq counter
  have present := (s.get counter).nonneg
  have clamped : max 0 ((s.get counter).value + delta) ≤ (s.get counter).value :=
    max_le present (by linarith)
  rw [bump, after, before, Watts.clamped_value]
  linarith

/-- Room for an amount, up to the tolerance, keeps the bound with one more
tolerance. When the budget is already over its maximum the room is empty and
the amount itself is at most the tolerance. -/
theorem booked_add_le {s : BudgetState} {granted : Nat} {amount : ℚ}
    (bounded : s.booked ≤ s.cfg.hardMax.value + granted * slack)
    (room : amount ≤ s.ownAvailable.value + slack) :
    s.booked + amount ≤ s.cfg.hardMax.value + (granted + 1 : Nat) * slack := by
  have grantedNonneg : 0 ≤ (granted : ℚ) * slack :=
    mul_nonneg (Nat.cast_nonneg _) slack_nonneg
  have next : ((granted + 1 : Nat) : ℚ) * slack = granted * slack + slack := by
    push_cast
    ring
  have own : s.ownAvailable.value = max 0 (s.cfg.hardMax.value - s.booked) := by
    rw [ownAvailable, Watts.clamped_value, booked]
    ring_nf
  rw [own] at room
  rw [next]
  rcases max_choice 0 (s.cfg.hardMax.value - s.booked) with exhausted | free
  · rw [exhausted] at room
    linarith
  · rw [free] at room
    linarith

end BudgetState

/-! ## Growing a forest -/

/-- A call that keeps the budgets a forest: an install names a fresh id and no
parent, or a parent that is installed already. Every other call is free. -/
def BudgetCall.GrowsForest (m : BudgetManager) : BudgetCall → Prop
  | .install b => m.state? b.id = none ∧
      ∀ p, b.parent = some p → p.isValid = true → m.has p = true
  | _ => True

/-- Runs of the budget interface from no budgets, counting the granted
bookings. -/
def forestRuns : TransitionSystem (BudgetManager × Nat) BudgetCall where
  init := fun s => s = (BudgetManager.empty, 0)
  step := fun s call s' => call.GrowsForest s.1 ∧ s'.1 = (call.exec s.1).1 ∧
    s'.2 = s.2 + if call.books && (call.exec s.1).2 then 1 else 0

namespace BudgetManager

variable {m : BudgetManager}

/-- The invariant of `forestRuns`. -/
structure Sound (m : BudgetManager) (granted : Nat) : Prop where
  acyclic : m.Acyclic
  parentsInstalled : ∀ b p, m.parentOf b = some p → m.has p = true
  bounded : ∀ id s, m.state? id = some s → s.booked ≤ s.cfg.hardMax.value + granted * slack

theorem has_iff {id : BudgetId} : m.has id = true ↔ ∃ s, m.state? id = some s :=
  Option.isSome_iff_exists

theorem sound_empty : empty.Sound 0 where
  acyclic := ⟨fun _ => 0, fun child up parent => by cases parent⟩
  parentsInstalled := fun b p parent => by cases parent
  bounded := fun id s installed => by cases installed

private theorem sound_adjustChain {granted granted' : Nat} (sound : m.Sound granted)
    (counter : Counter) (delta : ℚ) (ids : List BudgetId)
    (bounded : ∀ id s, (m.adjustChain counter delta ids).state? id = some s →
      s.booked ≤ s.cfg.hardMax.value + granted' * slack) :
    (m.adjustChain counter delta ids).Sound granted' where
  acyclic := by
    unfold Acyclic
    rw [parentOf_adjustChain]
    exact sound.acyclic
  parentsInstalled := by
    intro b p parent
    rw [parentOf_adjustChain] at parent
    rw [has_adjustChain]
    exact sound.parentsInstalled b p parent
  bounded := bounded

private theorem bound_weaken {granted : Nat} {s : BudgetState}
    (bounded : s.booked ≤ s.cfg.hardMax.value + granted * slack) :
    s.booked ≤ s.cfg.hardMax.value + (granted + 1 : Nat) * slack := by
  have room : (0 : ℚ) ≤ s.ownAvailable.value + slack :=
    add_nonneg s.ownAvailable.nonneg slack_nonneg
  simpa using s.booked_add_le bounded room

/-- More granted bookings allow more. -/
theorem Sound.mono {granted granted' : Nat} (sound : m.Sound granted)
    (more : granted ≤ granted') : m.Sound granted' where
  acyclic := sound.acyclic
  parentsInstalled := sound.parentsInstalled
  bounded := fun id s installed => by
    have tolerances : (granted : ℚ) * slack ≤ granted' * slack :=
      mul_le_mul_of_nonneg_right (Nat.cast_le.mpr more) slack_nonneg
    have bounded := sound.bounded id s installed
    linarith

/-- A granted booking costs one tolerance on each budget of the chain. -/
theorem sound_book {granted : Nat} (sound : m.Sound granted) (counter : Counter)
    {needsAuthority : Bool} {id : BudgetId} {amount : Watts} {budgetGen : BudgetGeneration}
    (bookable : m.Bookable needsAuthority id amount budgetGen) :
    (m.adjustChain counter amount.value (m.chain id)).Sound (granted + 1) := by
  refine sound_adjustChain sound counter _ _ fun k s' after => ?_
  by_cases onChain : k ∈ m.chain id
  · rw [state?_adjustChain_of_mem (nodup_chain sound.acyclic id) onChain] at after
    obtain ⟨s, installed, room⟩ := bookable.room k onChain
    rw [installed] at after
    obtain rfl := Option.some.inj after
    rw [BudgetState.booked_bump_of_nonneg s counter amount.nonneg, BudgetState.bump_cfg]
    exact BudgetState.booked_add_le (sound.bounded k s installed) room
  · rw [state?_adjustChain_of_notMem onChain] at after
    exact bound_weaken (sound.bounded k s' after)

/-- Returning power keeps the bound. -/
theorem sound_unbook {granted : Nat} (sound : m.Sound granted) (counter : Counter)
    (id : BudgetId) (amount : Watts) :
    (m.adjustChain counter (-amount.value) (m.chain id)).Sound granted := by
  refine sound_adjustChain sound counter _ _ fun k s' after => ?_
  by_cases onChain : k ∈ m.chain id
  · rw [state?_adjustChain_of_mem (nodup_chain sound.acyclic id) onChain] at after
    obtain ⟨s, installed, rfl⟩ := Option.map_eq_some_iff.mp after
    have returned := s.booked_bump_le counter (neg_nonpos.mpr amount.nonneg)
    rw [BudgetState.bump_cfg]
    exact returned.trans (sound.bounded k s installed)
  · rw [state?_adjustChain_of_notMem onChain] at after
    exact sound.bounded k s' after

/-- The rank of a fresh budget is one above its parent's; nobody names the
fresh budget as a parent yet. -/
theorem sound_install {granted : Nat} (sound : m.Sound granted) {b : PowerBudget}
    (grows : (BudgetCall.install b).GrowsForest m) : (m.install b).1.Sound granted := by
  obtain ⟨fresh, parentInstalled⟩ := grows
  obtain ⟨_, states⟩ := install_fresh fresh
  have parents : ∀ k, (m.install b).1.parentOf k =
      if k = b.id then b.parent.filter StrongId.isValid else m.parentOf k := by
    intro k
    rw [parentOf, states]
    split <;> rfl
  have ownParent : ∀ p, b.parent.filter StrongId.isValid = some p → m.has p = true := by
    intro p parent
    obtain ⟨named, valid⟩ := Option.filter_eq_some_iff.mp parent
    exact parentInstalled p named valid
  have keeps : ∀ k, m.has k = true → (m.install b).1.has k = true := by
    intro k installed
    obtain ⟨s, found⟩ := has_iff.mp installed
    refine has_iff.mpr ⟨if k = b.id then ⟨b, Watts.zero, Watts.zero⟩ else s, ?_⟩
    rw [states, found]
    split <;> rfl
  have notFresh : ∀ k, m.has k = true → k ≠ b.id := by
    rintro k installed rfl
    obtain ⟨s, found⟩ := has_iff.mp installed
    rw [fresh] at found
    cases found
  refine ⟨?_, ?_, ?_⟩
  · obtain ⟨rank, ranked⟩ := sound.acyclic
    let ownRank := ((b.parent.filter StrongId.isValid).map fun p => rank p + 1).getD 0
    refine ⟨fun k => if k = b.id then ownRank else rank k, fun child up parent => ?_⟩
    rw [parents] at parent
    by_cases isNew : child = b.id
    · rw [if_pos isNew] at parent
      simp [isNew, notFresh up (ownParent up parent), ownRank, parent]
    · rw [if_neg isNew] at parent
      have installed := sound.parentsInstalled child up parent
      simpa [isNew, notFresh up installed] using ranked child up parent
  · intro k p parent
    rw [parents] at parent
    split at parent
    · exact keeps p (ownParent p parent)
    · exact keeps p (sound.parentsInstalled k p parent)
  · intro k s installed
    rw [states] at installed
    split at installed
    · obtain rfl := Option.some.inj installed
      have unbooked : (0 : ℚ) ≤ b.hardMax.value + granted * slack :=
        add_nonneg b.hardMax.nonneg (mul_nonneg (Nat.cast_nonneg _) slack_nonneg)
      simpa [BudgetState.booked] using unbooked
    · exact sound.bounded k s installed

/-- Every step of `forestRuns` keeps the invariant. -/
theorem sound_step {s s' : BudgetManager × Nat} {call : BudgetCall} (sound : s.1.Sound s.2)
    (step : forestRuns.step s call s') : s'.1.Sound s'.2 := by
  obtain ⟨m, granted⟩ := s
  obtain ⟨m', granted'⟩ := s'
  obtain ⟨grows, rfl, rfl⟩ := step
  have booking : ∀ counter needsAuthority id amount budgetGen,
      (book counter needsAuthority m id amount budgetGen).1.Sound
        (granted + if (book counter needsAuthority m id amount budgetGen).2 then 1 else 0) := by
    intro counter needsAuthority id amount budgetGen
    rcases book_cases counter needsAuthority m id amount budgetGen with
      ⟨refused, _⟩ | ⟨taken, bookable⟩
    · simpa [refused] using sound
    · simpa [taken] using sound_book sound counter bookable
  have returning : ∀ counter id amount budgetGen,
      (unbook counter m id amount budgetGen).1.Sound granted := by
    intro counter id amount budgetGen
    rcases unbook_cases counter m id amount budgetGen with ⟨refused, _⟩ | ⟨taken, _⟩
    · simpa [refused] using sound
    · simpa [taken] using sound_unbook sound counter id amount
  cases call with
  | install b => exact sound_install sound grows
  | reserve id amount rid budgetGen => exact booking .reserved true id amount budgetGen
  | release id amount rid budgetGen => exact returning .reserved id amount budgetGen
  | activate id amount rid budgetGen => exact booking .used false id amount budgetGen
  | deactivate id amount rid budgetGen => exact returning .used id amount budgetGen

theorem sound_of_reachable {s : BudgetManager × Nat} (reached : forestRuns.Reachable s) :
    s.1.Sound s.2 := by
  refine reached.invariant (fun s => s.1.Sound s.2) ?_ ?_
  · rintro _ rfl
    exact sound_empty
  · intro s call s' sound step
    exact sound_step sound step

/-- Capacity safety: after every step of every run, at every level, both
counters are non-negative and together exceed the hard maximum by at most one
tolerance for each booking granted so far. -/
theorem booked_within_hardMax {m : BudgetManager} {granted : Nat}
    (reached : forestRuns.Reachable (m, granted)) {id : BudgetId} {s : BudgetState}
    (installed : m.state? id = some s) :
    0 ≤ s.reserved.value ∧ 0 ≤ s.used.value ∧
      s.reserved.value + s.used.value ≤ s.cfg.hardMax.value + granted * (1 / 1000000000) :=
  ⟨s.reserved.nonneg, s.used.nonneg, (sound_of_reachable reached).bounded id s installed⟩

/-! A node of 300 W over an accelerator of 200 W, with 150 W reserved on the
accelerator. -/

def nodeBudget : PowerBudget :=
  { PowerBudget.blank with id := ⟨1⟩, generation := .first, hardMax := Watts.clamped 300 }

def gpuBudget : PowerBudget :=
  { PowerBudget.blank with
    id := ⟨2⟩, generation := .first, parent := some ⟨1⟩, hardMax := Watts.clamped 200 }

/-- The two budgets, not booked yet. -/
def twoLevels : BudgetManager := ((empty.install nodeBudget).1.install gpuBudget).1

/-- The two budgets with the reservation. -/
def twoLevelsBooked : BudgetManager :=
  (twoLevels.reserve ⟨2⟩ (Watts.clamped 150) ⟨1⟩ .first).1

theorem twoLevels_reachable : forestRuns.Reachable (twoLevels, 0) := by
  have nodeGrows : (BudgetCall.install nodeBudget).GrowsForest empty :=
    ⟨rfl, fun p named => by cases named⟩
  have gpuGrows : (BudgetCall.install gpuBudget).GrowsForest (empty.install nodeBudget).1 := by
    refine ⟨by decide +kernel, fun p named _ => ?_⟩
    obtain rfl := Option.some.inj named
    decide +kernel
  have node : forestRuns.Reachable ((empty.install nodeBudget).1, 0) :=
    .step (BudgetCall.install nodeBudget) (.start rfl) ⟨nodeGrows, rfl, rfl⟩
  exact .step (BudgetCall.install gpuBudget) node ⟨gpuGrows, rfl, rfl⟩

theorem twoLevels_acyclic : twoLevels.Acyclic := (sound_of_reachable twoLevels_reachable).acyclic

theorem booked_within_hardMax_twoLevels :
    0 ≤ (150 : ℚ) ∧ 0 ≤ (0 : ℚ) ∧ (150 : ℚ) + 0 ≤ 300 + (1 : Nat) * (1 / 1000000000) := by
  have reached : forestRuns.Reachable (twoLevelsBooked, 1) :=
    .step (BudgetCall.reserve ⟨2⟩ (Watts.clamped 150) ⟨1⟩ .first) twoLevels_reachable
      ⟨trivial, rfl, by decide +kernel⟩
  have node : twoLevelsBooked.state? ⟨1⟩ =
      some ⟨nodeBudget, Watts.clamped 150, Watts.clamped 0⟩ := by decide +kernel
  exact booked_within_hardMax reached node

end BudgetManager

end PowerGovernor
