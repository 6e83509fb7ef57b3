import Mathlib.Data.List.MinMax
import PowerGovernor.Budget.Doubles
import PowerGovernor.Budget.Forest

/-!
What a granted reservation says about the budgets.

Owns the two readings of a `true` from `reserve` that the walk of the chain does not
bear out everywhere: that the amount is booked on the budget it names, and that only
the authoritative budgets above it had to have room. The second is about the operation
in doubles, and compares two limits: the room of the budgets the walk meets, and the room
of the authoritative budgets up to the root.
-/

set_option autoImplicit false

namespace PowerGovernor

open ParentPath

/-! ## The budget a reservation names -/

/-- Bookings on one counter add up. -/
theorem BudgetState.get_bump_iterate (s : BudgetState) (counter : Counter) (amount : Watts)
    (n : Nat) : (((BudgetState.bump counter amount.value)^[n] s).get counter).value =
      (s.get counter).value + n * amount.value := by
  induction n with
  | zero => simp
  | succ n inductionHypothesis =>
      have booked := (((BudgetState.bump counter amount.value)^[n] s).get counter).nonneg
      rw [Function.iterate_succ_apply', bump, get_set, Watts.clamped_value,
        max_eq_right (add_nonneg booked amount.nonneg), inductionHypothesis]
      push_cast
      ring

namespace BudgetManager

variable {m : BudgetManager}

/-- What a budget has left of its own maximum, below zero when it is over-booked. -/
def margin (m : BudgetManager) (id : BudgetId) : ℚ :=
  (m.hardMax id).value - (m.reserved id).value - (m.used id).value

theorem margin_of_state? {id : BudgetId} {s : BudgetState} (found : m.state? id = some s) :
    m.margin id = s.cfg.hardMax.value - s.reserved.value - s.used.value := by
  unfold margin hardMax reserved used
  rw [found]
  rfl

theorem ownAvailable_of_state? {id : BudgetId} {s : BudgetState} (found : m.state? id = some s) :
    s.ownAvailable.value = max 0 (m.margin id) := by
  rw [margin_of_state? found, BudgetState.ownAvailable, Watts.clamped_value]

/-- A granted reservation is booked on its budget once for each time its chain meets it. -/
theorem reserved_of_booked {id : BudgetId} (present : m.has id = true) (amount : Watts) :
    ((m.adjustChain .reserved amount.value (m.chain id)).reserved id).value =
      (m.reserved id).value + (m.chain id).count id * amount.value := by
  obtain ⟨s, found⟩ := has_iff.mp present
  unfold reserved
  rw [state?_adjustChain, found]
  exact s.get_bump_iterate .reserved amount _

end BudgetManager

namespace BudgetCall

/-- A granted reservation was within what its budget had left, and is booked on it. -/
def BooksNamed (m : BudgetManager) : BudgetCall → Prop
  | .reserve id amount rid budgetGen =>
    (m.reserve id amount rid budgetGen).2 = true →
      amount.value ≤ m.margin id + 1 / 1000000000 ∧
        ((m.reserve id amount rid budgetGen).1.reserved id).value =
          (m.reserved id).value + amount.value
  | _ => True

/-- A reservation that the budgets admit names a budget that its own chain meets once, and
one that is not over-booked, or not beyond what the tolerance leaves for the amount. -/
def NamesOnce (m : BudgetManager) : BudgetCall → Prop
  | .reserve id amount _ budgetGen =>
    m.Bookable true id amount budgetGen →
      (amount.value = 0 ∨ (m.chain id).count id = 1) ∧
        (0 ≤ m.margin id ∨ amount.value ≤ m.margin id + slack)
  | _ => True

end BudgetCall

namespace BudgetManager

variable {m : BudgetManager}

theorem booksNamed_iff (m : BudgetManager) (call : BudgetCall) :
    call.BooksNamed m ↔ call.NamesOnce m := by
  cases call with
  | reserve id amount rid budgetGen =>
      unfold BudgetCall.BooksNamed BudgetCall.NamesOnce
      dsimp only
      unfold reserve
      rcases book_cases .reserved true m id amount budgetGen with
        ⟨refused, unbookable⟩ | ⟨taken, bookable⟩
      · rw [refused]
        exact iff_of_true nofun fun bookable => absurd bookable unbookable
      · obtain ⟨s, found, _⟩ := bookable.installed
        rw [taken, forall_prop_of_true rfl, forall_prop_of_true bookable,
          reserved_of_booked (has_iff.mpr ⟨s, found⟩), and_comm]
        have booked : (m.reserved id).value + (m.chain id).count id * amount.value =
            (m.reserved id).value + amount.value ↔
              amount.value = 0 ∨ (m.chain id).count id = 1 := by
          rw [add_right_inj, mul_left_eq_self₀, Nat.cast_eq_one, or_comm]
        rw [booked]
        refine and_congr_right fun once => ⟨.inr, ?_⟩
        rintro (free | fits)
        · rcases once with nothing | once
          · rw [nothing]
            exact add_nonneg free slack_nonneg
          · have onChain : id ∈ m.chain id := List.count_pos_iff.mp (by omega)
            obtain ⟨t, same, enough⟩ := bookable.room id onChain
            rwa [ownAvailable_of_state? same, max_eq_right free] at enough
        · exact fits
  | _ => exact iff_of_true trivial trivial

/-- In every run of the interface each granted reservation is booked on the budget it
names exactly when each of them names a budget that its chain meets once and that is not
over-booked. -/
theorem reservations_booked_iff (calls : List BudgetCall) :
    Along (fun m call => (BudgetCall.exec m call).1) (fun m call => call.BooksNamed m) empty
        calls ↔
      Along (fun m call => (BudgetCall.exec m call).1) (fun m call => call.NamesOnce m) empty
        calls :=
  along_congr booksNamed_iff empty calls

/-- A budget of 100 W under the null id. -/
def nullBudget : PowerBudget :=
  { PowerBudget.blank with generation := .first, hardMax := Watts.clamped 100 }

/-- The null budget grants 1000 W and books nothing: its chain is empty. -/
theorem reservation_unbooked :
    ¬ ∀ calls, Along (fun m call => (BudgetCall.exec m call).1)
      (fun m call => call.BooksNamed m) empty calls := by
  intro claimed
  have along := claimed [.install nullBudget, .reserve ⟨0⟩ (Watts.clamped 1000) ⟨1⟩ .first]
  obtain ⟨_, books, _⟩ := along
  have granted : ((empty.install nullBudget).1.reserve ⟨0⟩ (Watts.clamped 1000) ⟨1⟩ .first).2 =
      true := by decide +kernel
  have within := (books granted).1
  have room : (empty.install nullBudget).1.margin ⟨0⟩ + 1 / 1000000000 <
      (Watts.clamped 1000).value := by decide +kernel
  exact absurd within (not_le.mpr room)

end BudgetManager

/-! ## The room of one budget -/

namespace InDoubles

/-- `hard_max - reserved - used`. Only minus infinity is out of range. -/
def left (s : BudgetState) : ℚ :=
  let difference := Binary64.round (s.cfg.hardMax.value - s.reserved.value) - s.used.value
  if Binary64.Overflows difference then min 0 difference else Binary64.round difference

/-- `hard_max - reserved - used + 1e-9`. -/
def room (s : BudgetState) : ℚ := Binary64.round (left s + tolerance)

/-- What the capacity check takes for it: an over-booked budget counts as exhausted. -/
def checkedRoom (s : BudgetState) : ℚ := Binary64.round (max 0 (left s) + tolerance)

variable {s : BudgetState}

theorem ownAvailable_value (s : BudgetState) : (ownAvailable s).value = max 0 (left s) := by
  unfold ownAvailable left Watts.clampedDouble
  rw [Watts.clamped_value]
  dsimp only
  split
  · rw [max_self, max_eq_left (min_le_left 0 _)]
  · rfl

theorem lacksRoom_iff_checkedRoom (s : BudgetState) (amount : Watts) :
    LacksRoom s amount ↔ checkedRoom s < amount.value := by
  rw [LacksRoom, ownAvailable_value, checkedRoom]

theorem room_le_checkedRoom (s : BudgetState) : room s ≤ checkedRoom s :=
  Binary64.round_mono (add_le_add_left (le_max_right 0 (left s)) _)

theorem tolerance_le_checkedRoom (s : BudgetState) : tolerance ≤ checkedRoom s := by
  have double : Binary64.IsDouble tolerance := Binary64.isDouble_round slack
  exact Binary64.le_round double (le_add_of_nonneg_left (le_max_left 0 (left s)))

/-- Where a budget is not over-booked, or by less than the sum can show, both are the same. -/
theorem checkedRoom_le_room (booked : tolerance ≤ room s) : checkedRoom s ≤ room s := by
  rcases le_total 0 (left s) with free | negative
  · rw [checkedRoom, max_eq_right free, room]
  · rw [checkedRoom, max_eq_left negative, zero_add, tolerance, Binary64.round_round]
    exact booked

end InDoubles

/-! ## Informational budgets -/

namespace BudgetManager

variable {m : BudgetManager} {id : BudgetId} {path : List BudgetId}

/-- An installed budget that enforces its capacity. -/
def enforces (m : BudgetManager) (b : BudgetId) : Bool :=
  match m.state? b with
  | none => false
  | some s => s.cfg.authoritative

def ownRoom (m : BudgetManager) (b : BudgetId) : ℚ :=
  match m.state? b with
  | none => 0
  | some s => InDoubles.room s

def checkedRoom (m : BudgetManager) (b : BudgetId) : ℚ :=
  match m.state? b with
  | none => 0
  | some s => InDoubles.checkedRoom s

/-- The part of a path that the walk meets: none of it from the null id, and otherwise the
first 65 budgets, informational ones among them. -/
def walked (id : BudgetId) (path : List BudgetId) : List BudgetId :=
  if id.isValid then path.take 65 else []

/-- The room of the budgets the walk meets. -/
def walkLimit (m : BudgetManager) (id : BudgetId) (path : List BudgetId) : WithTop ℚ :=
  ((walked id path).map m.checkedRoom).minimum

/-- The room of the authoritative budgets of the path. -/
def flagLimit (m : BudgetManager) (path : List BudgetId) : WithTop ℚ :=
  ((path.filter m.enforces).map m.ownRoom).minimum

/-- The flags count as they should for every amount: the walk starts, no authoritative budget
is over-booked, no informational budget on the walk is tighter than all authoritative ones,
and no authoritative budget beyond the walk is tighter than all of the walk. -/
structure FlagsHonoured (m : BudgetManager) (id : BudgetId) (path : List BudgetId) : Prop where
  named : id.isValid = true
  booked : ∀ a ∈ path, m.enforces a = true → InDoubles.tolerance ≤ m.ownRoom a
  informational : ∀ b ∈ path.take 65, m.enforces b = false →
    ∃ a ∈ path, m.enforces a = true ∧ m.ownRoom a ≤ m.checkedRoom b
  beyond : ∀ a ∈ path.drop 65, m.enforces a = true →
    ∃ b ∈ path.take 65, m.checkedRoom b ≤ m.ownRoom a

theorem le_minimum_iff {l : List BudgetId} {f : BudgetId → ℚ} {x : ℚ} :
    (x : WithTop ℚ) ≤ (l.map f).minimum ↔ ∀ b ∈ l, x ≤ f b := by
  constructor
  · intro below b member
    have least : (l.map f).minimum ≤ (f b : WithTop ℚ) :=
      List.minimum_le_of_mem' (List.mem_map_of_mem member)
    exact WithTop.coe_le_coe.mp (below.trans least)
  · intro below
    refine List.le_minimum_of_forall_le fun room member => ?_
    obtain ⟨b, listed, rfl⟩ := List.mem_map.mp member
    exact WithTop.coe_le_coe.mpr (below b listed)

theorem chain_eq_walked (isPath : IsPath m.parentOf id path) : m.chain id = walked id path := by
  rw [chain_eq_climb, Option.filter_some, walked]
  split
  · exact isPath.climb_eq 65
  · rfl

/-- The walk grants what stays within its limit. -/
theorem granted_iff (forest : m.Forest) {s : BudgetState} (installed : m.state? id = some s)
    (authoritative : s.cfg.authoritative = true) (isPath : IsPath m.parentOf id path)
    (amount : Watts) (rid : ReservationId) :
    (InDoubles.reserve m id amount rid s.cfg.generation).2 = true ↔
      (amount.value : WithTop ℚ) ≤ m.walkLimit id path := by
  have fits : (amount.value : WithTop ℚ) ≤ m.walkLimit id path ↔
      ∀ b ∈ m.chain id, ∃ t, m.state? b = some t ∧ ¬ InDoubles.LacksRoom t amount := by
    rw [walkLimit, le_minimum_iff, ← chain_eq_walked isPath]
    refine forall₂_congr fun b onChain => ?_
    obtain ⟨t, found⟩ := has_iff.mp (forest.has_of_mem_chain (has_iff.mpr ⟨s, installed⟩) onChain)
    rw [checkedRoom, found]
    simp only [Option.some.injEq, exists_eq_left', InDoubles.lacksRoom_iff_checkedRoom, not_lt]
  rw [fits]
  unfold InDoubles.reserve
  rcases InDoubles.book_cases .reserved true m id amount s.cfg.generation with
    ⟨refused, unbookable⟩ | ⟨taken, bookable⟩
  · rw [refused]
    exact iff_of_false nofun fun room =>
      unbookable ⟨⟨s, installed, rfl, fun _ => authoritative⟩, room⟩
  · rw [taken]
    exact iff_of_true rfl bookable.room

theorem le_flagLimit_iff {x : ℚ} : (x : WithTop ℚ) ≤ m.flagLimit path ↔
    ∀ b ∈ path, m.enforces b = true → x ≤ m.ownRoom b := by
  rw [flagLimit, le_minimum_iff]
  simp only [List.mem_filter, and_imp]

/-- The budget itself is authoritative, so its path has a limit. -/
theorem flagLimit_ne_top (isPath : IsPath m.parentOf id path) (enforced : m.enforces id = true) :
    m.flagLimit path ≠ ⊤ := by
  intro unlimited
  have self : id ∈ path := isPath.mem_iff.mpr .refl
  have within := le_flagLimit_iff.mp
    (unlimited ▸ le_top : ((m.ownRoom id + 1 : ℚ) : WithTop ℚ) ≤ m.flagLimit path) id self enforced
  linarith

/-- Two limits agree on an amount that is not between them. -/
theorem agree_iff (x walk flag : WithTop ℚ) :
    (x ≤ walk ↔ x ≤ flag) ↔ ¬ (min walk flag < x ∧ x ≤ max walk flag) := by
  rcases le_total walk flag with tighter | looser
  · rw [min_eq_left tighter, max_eq_right tighter, not_and, not_le]
    constructor
    · exact fun agree above => not_le.mp fun within => absurd (agree.mpr within) (not_le.mpr above)
    · refine fun apart => ⟨fun within => within.trans tighter, fun within => ?_⟩
      exact not_lt.mp fun above => absurd within (not_le.mpr (apart above))
  · rw [min_eq_right looser, max_eq_left looser, not_and, not_le]
    constructor
    · exact fun agree above => not_le.mp fun within => absurd (agree.mp within) (not_le.mpr above)
    · refine fun apart => ⟨fun within => ?_, fun within => within.trans looser⟩
      exact not_lt.mp fun above => absurd within (not_le.mpr (apart above))

/-- Limits that agree on every amount are equal, if the first is an amount and the second
is finite. -/
theorem eq_of_agree {walk flag : WithTop ℚ} (nonneg : 0 ≤ walk) (finite : flag ≠ ⊤)
    (agree : ∀ amount : Watts, (amount.value : WithTop ℚ) ≤ walk ↔
      (amount.value : WithTop ℚ) ≤ flag) : walk = flag := by
  obtain ⟨f, rfl⟩ := WithTop.ne_top_iff_exists.mp finite
  induction walk with
  | top =>
      -- An amount beyond the second limit.
      have above : (Watts.clamped (f + 1)).value ≤ f :=
        WithTop.coe_le_coe.mp ((agree (Watts.clamped (f + 1))).mp le_top)
      rw [Watts.clamped_value] at above
      have least := le_max_right 0 (f + 1)
      linarith
  | coe w =>
      have positive : 0 ≤ w := WithTop.coe_le_coe.mp nonneg
      have within : w ≤ f := WithTop.coe_le_coe.mp ((agree ⟨w, positive⟩).mp le_rfl)
      have back : f ≤ w :=
        WithTop.coe_le_coe.mp ((agree ⟨f, positive.trans within⟩).mpr le_rfl)
      rw [le_antisymm within back]

theorem zero_le_walkLimit (forest : m.Forest) (installed : m.has id = true)
    (isPath : IsPath m.parentOf id path) : 0 ≤ m.walkLimit id path := by
  have nonneg : ((0 : ℚ) : WithTop ℚ) ≤ m.walkLimit id path := by
    rw [walkLimit, le_minimum_iff, ← chain_eq_walked isPath]
    intro b onChain
    obtain ⟨t, found⟩ := has_iff.mp (forest.has_of_mem_chain installed onChain)
    rw [checkedRoom, found]
    have positive : (0 : ℚ) < 2 ^ (-30 : ℤ) := zpow_pos (by norm_num) _
    exact (positive.trans InDoubles.tolerance_bounds.1).le.trans
      (InDoubles.tolerance_le_checkedRoom t)
  exact nonneg

/-- The two limits are equal exactly when the flags count as they should. -/
theorem flagsHonoured_iff (forest : m.Forest) (installed : m.has id = true)
    (enforced : m.enforces id = true) (isPath : IsPath m.parentOf id path) :
    m.walkLimit id path = m.flagLimit path ↔ m.FlagsHonoured id path := by
  have checked : ∀ b ∈ path, InDoubles.tolerance ≤ m.checkedRoom b ∧
      m.ownRoom b ≤ m.checkedRoom b ∧
        (InDoubles.tolerance ≤ m.ownRoom b → m.checkedRoom b ≤ m.ownRoom b) := by
    intro b onPath
    obtain ⟨t, found⟩ :=
      has_iff.mp (forest.has_of_inSubtree installed (isPath.mem_iff.mp onPath))
    rw [checkedRoom, ownRoom, found]
    exact ⟨InDoubles.tolerance_le_checkedRoom t, InDoubles.room_le_checkedRoom t,
      InDoubles.checkedRoom_le_room⟩
  have taken : ∀ b ∈ path.take 65, b ∈ path := fun b member => List.mem_of_mem_take member
  constructor
  · intro same
    -- Both limits are attained.
    obtain ⟨limit, value⟩ := WithTop.ne_top_iff_exists.mp (flagLimit_ne_top isPath enforced)
    have walkValue : m.walkLimit id path = limit := same.trans value.symm
    obtain ⟨a, flagged, roomA⟩ := List.mem_map.mp (List.minimum_mem value.symm)
    obtain ⟨b, walkedB, roomB⟩ := List.mem_map.mp (List.minimum_mem walkValue)
    obtain ⟨onPath, enforcedA⟩ := List.mem_filter.mp flagged
    have named : id.isValid = true := by
      by_contra invalid
      rw [walked, if_neg invalid] at walkedB
      cases walkedB
    rw [walked, if_pos named] at walkedB
    have flags := le_flagLimit_iff.mp value.le
    have walk := le_minimum_iff.mp walkValue.ge
    rw [walked, if_pos named] at walk
    refine ⟨named, fun c onPath enforces => ?_, fun c walks _ => ?_, fun c far enforces => ?_⟩
    · exact ((checked b (taken b walkedB)).1.trans_eq roomB).trans (flags c onPath enforces)
    · exact ⟨a, onPath, enforcedA, roomA.trans_le (walk c walks)⟩
    · exact ⟨b, walkedB, roomB.trans_le (flags c (List.mem_of_mem_drop far) enforces)⟩
  · intro honoured
    have walks : walked id path = path.take 65 := if_pos honoured.named
    rw [walkLimit, walks]
    apply le_antisymm
    · refine List.le_minimum_of_forall_le fun room member => ?_
      obtain ⟨a, flagged, rfl⟩ := List.mem_map.mp member
      obtain ⟨onPath, enforces⟩ := List.mem_filter.mp flagged
      have met : ∃ b ∈ path.take 65, m.checkedRoom b ≤ m.ownRoom a := by
        rw [← List.take_append_drop 65 path, List.mem_append] at onPath
        rcases onPath with near | far
        · have booked := honoured.booked a (taken a near) enforces
          exact ⟨a, near, (checked a (taken a near)).2.2 booked⟩
        · exact honoured.beyond a far enforces
      obtain ⟨b, walksB, tighter⟩ := met
      exact (List.minimum_le_of_mem' (List.mem_map_of_mem walksB)).trans
        (WithTop.coe_le_coe.mpr tighter)
    · refine List.le_minimum_of_forall_le fun room member => ?_
      obtain ⟨b, walksB, rfl⟩ := List.mem_map.mp member
      have met : ∃ a ∈ path, m.enforces a = true ∧ m.ownRoom a ≤ m.checkedRoom b := by
        cases enforces : m.enforces b with
        | true => exact ⟨b, taken b walksB, enforces, (checked b (taken b walksB)).2.1⟩
        | false => exact honoured.informational b walksB enforces
      obtain ⟨a, onPath, enforces, tighter⟩ := met
      have flagged : m.ownRoom a ∈ (path.filter m.enforces).map m.ownRoom :=
        List.mem_map_of_mem (List.mem_filter.mpr ⟨onPath, enforces⟩)
      exact (List.minimum_le_of_mem' flagged).trans (WithTop.coe_le_coe.mpr tighter)

/-- In every forest a reservation succeeds exactly when the authoritative budgets up to the
root have room, unless the amount lies between the limit of the walk and the limit of these
budgets. It does so for every amount exactly when the flags count as they should. -/
theorem reserve_iff_authoritative_room (forest : m.Forest) (id : BudgetId) (s : BudgetState)
    (installed : m.state? id = some s) (authoritative : s.cfg.authoritative = true)
    (path : List BudgetId) (isPath : IsPath m.parentOf id path) (rid : ReservationId) :
    (∀ amount : Watts, ((InDoubles.reserve m id amount rid s.cfg.generation).2 = true ↔
        ∀ b ∈ path, m.enforces b = true → amount.value ≤ m.ownRoom b) ↔
      ¬ (min (m.walkLimit id path) (m.flagLimit path) < (amount.value : WithTop ℚ) ∧
        (amount.value : WithTop ℚ) ≤ max (m.walkLimit id path) (m.flagLimit path))) ∧
    ((∀ amount : Watts, (InDoubles.reserve m id amount rid s.cfg.generation).2 = true ↔
        ∀ b ∈ path, m.enforces b = true → amount.value ≤ m.ownRoom b) ↔
      m.FlagsHonoured id path) := by
  have present : m.has id = true := has_iff.mpr ⟨s, installed⟩
  have enforced : m.enforces id = true := by
    rw [enforces, installed]
    exact authoritative
  have decides : ∀ amount : Watts,
      ((InDoubles.reserve m id amount rid s.cfg.generation).2 = true ↔
        ∀ b ∈ path, m.enforces b = true → amount.value ≤ m.ownRoom b) ↔
      ((amount.value : WithTop ℚ) ≤ m.walkLimit id path ↔
        (amount.value : WithTop ℚ) ≤ m.flagLimit path) := by
    intro amount
    rw [granted_iff forest installed authoritative isPath, le_flagLimit_iff]
  refine ⟨fun amount => (decides amount).trans (agree_iff _ _ _), ?_⟩
  rw [← flagsHonoured_iff forest present enforced isPath, forall_congr' decides]
  constructor
  · exact eq_of_agree (zero_le_walkLimit forest present isPath) (flagLimit_ne_top isPath enforced)
  · intro same amount
    rw [same]

/-- The accelerator under its node, both authoritative. -/
theorem reserve_iff_authoritative_room_twoLevels :
    ((∀ amount : Watts, (InDoubles.reserve twoLevels ⟨2⟩ amount ⟨1⟩ .first).2 = true ↔
        ∀ b ∈ [(⟨2⟩ : BudgetId), ⟨1⟩], twoLevels.enforces b = true →
          amount.value ≤ twoLevels.ownRoom b) ↔
      twoLevels.FlagsHonoured ⟨2⟩ [⟨2⟩, ⟨1⟩]) := by
  have installed : twoLevels.state? ⟨2⟩ = some ⟨gpuBudget, Watts.zero, Watts.zero⟩ := by
    decide +kernel
  have isPath : IsPath twoLevels.parentOf ⟨2⟩ [⟨2⟩, ⟨1⟩] :=
    .step (by decide +kernel) (.root (by decide +kernel))
  exact (reserve_iff_authoritative_room (sound_of_reachable twoLevels_reachable).forest ⟨2⟩ _
    installed rfl _ isPath ⟨1⟩).2

/-- The accelerator of 200 W under an informational node of 100 W. -/
def underInformational : BudgetManager :=
  let node := { nodeBudget with hardMax := Watts.clamped 100, authoritative := false }
  ((empty.install node).1.install gpuBudget).1

/-- The informational node refuses 150 W to the accelerator. -/
theorem informational_refuses :
    ¬ ∀ (m : BudgetManager) (id : BudgetId) (s : BudgetState) (path : List BudgetId)
      (amount : Watts) (rid : ReservationId), m.Forest → m.state? id = some s →
      s.cfg.authoritative = true → IsPath m.parentOf id path →
      ((InDoubles.reserve m id amount rid s.cfg.generation).2 = true ↔
        ∀ b ∈ path, m.enforces b = true → amount.value ≤ m.ownRoom b) := by
  intro claimed
  have forest : underInformational.Forest := forest_of_ordered (by decide +kernel)
  have installed : underInformational.state? ⟨2⟩ =
      some ⟨gpuBudget, Watts.zero, Watts.zero⟩ := by decide +kernel
  have isPath : IsPath underInformational.parentOf ⟨2⟩ [⟨2⟩, ⟨1⟩] :=
    .step (by decide +kernel) (.root (by decide +kernel))
  have decides := claimed underInformational ⟨2⟩ _ _ (Watts.clamped 150) ⟨1⟩ forest installed rfl
    isPath
  have refused : (InDoubles.reserve underInformational ⟨2⟩ (Watts.clamped 150) ⟨1⟩ .first).2 =
      false := by decide +kernel
  have granted : (InDoubles.reserve underInformational ⟨2⟩ (Watts.clamped 150) ⟨1⟩ .first).2 =
      true := by
    refine decides.mpr ?_
    decide +kernel
  rw [refused] at granted
  cases granted

end BudgetManager

end PowerGovernor
