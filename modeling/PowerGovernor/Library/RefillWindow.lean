import Mathlib.Algebra.Order.Group.Basic
import Mathlib.Algebra.Order.BigOperators.Group.List
import PowerGovernor.Library.Transition

/-!
Budgets that refill.

Owns a budget that a window limits: the first event at or after the end of the window
opens the next one and refills the budget. Owns also the log of what was taken in a run,
and its two bounds: within one window the capacity, and within any time shorter than a
window twice that. Each taking may overrun by the tolerance.
-/

set_option autoImplicit false

namespace RefillWindow

variable {T A : Type}

/-- The width of a window, what may be taken within one, and how far a single taking may
overrun what is left. -/
structure Limits (T A : Type) [Zero T] [LT T] [Zero A] [LE A] where
  width : T
  capacity : A
  tolerance : A
  positive : 0 < width
  nonneg : 0 ≤ capacity
  tolerates : 0 ≤ tolerance

/-! ## Amounts -/

section Amounts

variable [AddCommGroup A] [LinearOrder A]

/-- Each amount fits in what those before it leave of the capacity, up to the tolerance. -/
def Metered (capacity tolerance : A) : A → List A → Prop
  | _, [] => True
  | used, amount :: rest =>
    0 ≤ amount ∧ amount ≤ max 0 (capacity - used) + tolerance ∧
      Metered capacity tolerance (used + amount) rest

namespace Metered

variable {capacity tolerance used : A} {amounts : List A}

@[simp] theorem nil : Metered capacity tolerance used [] := trivial

/-- One more amount. -/
theorem concat {amount : A} (metered : Metered capacity tolerance used amounts)
    (nonneg : 0 ≤ amount)
    (fits : amount ≤ max 0 (capacity - (used + amounts.sum)) + tolerance) :
    Metered capacity tolerance used (amounts ++ [amount]) := by
  induction amounts generalizing used with
  | nil =>
      rw [List.sum_nil, add_zero] at fits
      exact ⟨nonneg, fits, trivial⟩
  | cons first rest inductionHypothesis =>
      obtain ⟨firstNonneg, firstFits, others⟩ := metered
      rw [List.sum_cons, ← add_assoc] at fits
      exact ⟨firstNonneg, firstFits, inductionHypothesis others fits⟩

variable [IsOrderedAddMonoid A]

/-- What fits beside more fits beside less. -/
theorem anti {less : A} (smaller : less ≤ used)
    (metered : Metered capacity tolerance used amounts) :
    Metered capacity tolerance less amounts := by
  induction amounts generalizing used less with
  | nil => trivial
  | cons amount rest inductionHypothesis =>
      obtain ⟨nonneg, fits, others⟩ := metered
      have room : max 0 (capacity - used) ≤ max 0 (capacity - less) :=
        max_le_max_left 0 (sub_le_sub_left smaller capacity)
      refine ⟨nonneg, fits.trans (add_le_add_left room tolerance), ?_⟩
      exact inductionHypothesis (add_le_add_left smaller amount) others

/-- Some of the amounts fit without the others. -/
theorem sublist {fewer : List A} (part : List.Sublist fewer amounts)
    (metered : Metered capacity tolerance used amounts) :
    Metered capacity tolerance used fewer := by
  induction part generalizing used with
  | slnil => trivial
  | cons amount _ inductionHypothesis =>
      obtain ⟨nonneg, _, others⟩ := metered
      exact (inductionHypothesis others).anti (le_add_of_nonneg_right nonneg)
  | cons_cons amount _ inductionHypothesis =>
      obtain ⟨nonneg, fits, others⟩ := metered
      exact ⟨nonneg, fits, inductionHypothesis others⟩

/-- The sum exceeds the capacity by the tolerances only. -/
theorem sum_le (tolerates : 0 ≤ tolerance) (metered : Metered capacity tolerance used amounts) :
    used + amounts.sum ≤ max used capacity + amounts.length • tolerance := by
  induction amounts generalizing used with
  | nil => simp
  | cons amount rest inductionHypothesis =>
      obtain ⟨_, fits, others⟩ := metered
      have reached : used + amount ≤ max used capacity + tolerance := by
        calc used + amount ≤ used + (max 0 (capacity - used) + tolerance) :=
              add_le_add_right fits used
          _ = max used capacity + tolerance := by
              rw [← add_assoc, add_max, add_zero, add_sub_cancel]
      have above : max (used + amount) capacity ≤ max used capacity + tolerance :=
        max_le reached ((le_max_right used capacity).trans (le_add_of_nonneg_right tolerates))
      calc used + (amount :: rest).sum = used + amount + rest.sum := by
            rw [List.sum_cons, add_assoc]
        _ ≤ max (used + amount) capacity + rest.length • tolerance := inductionHypothesis others
        _ ≤ max used capacity + tolerance + rest.length • tolerance :=
            add_le_add_left above _
        _ = max used capacity + (amount :: rest).length • tolerance := by
            rw [List.length_cons, succ_nsmul', add_assoc]

end Metered

end Amounts

/-! ## The log -/

/-- An amount taken, with its time and when the window it counts in was opened. -/
structure Charge (T A : Type) where
  opened : T
  time : T
  amount : A

def total [AddMonoid A] (charges : List (Charge T A)) : A := (charges.map Charge.amount).sum

@[simp] theorem total_nil [AddMonoid A] : total ([] : List (Charge T A)) = 0 := rfl

theorem total_append [AddMonoid A] (first second : List (Charge T A)) :
    total (first ++ second) = total first + total second := by
  unfold total
  rw [List.map_append, List.sum_append]

/-- The charges that count in one window. -/
def inWindow [DecidableEq T] (opened : T) (log : List (Charge T A)) : List (Charge T A) :=
  log.filter (·.opened = opened)

theorem inWindow_concat_self [DecidableEq T] (log : List (Charge T A)) (charge : Charge T A) :
    inWindow charge.opened (log ++ [charge]) = inWindow charge.opened log ++ [charge] := by
  unfold inWindow
  rw [List.filter_append, List.filter_singleton, decide_eq_true rfl, cond_true]

theorem inWindow_concat_other [DecidableEq T] {opened : T} {charge : Charge T A}
    (other : charge.opened ≠ opened) (log : List (Charge T A)) :
    inWindow opened (log ++ [charge]) = inWindow opened log := by
  unfold inWindow
  rw [List.filter_append, List.filter_singleton, decide_eq_false other, cond_false,
    List.append_nil]

variable [AddCommGroup T] [LinearOrder T]

/-- Of two charges one after the other, both count in one window, or the second counts in
one that was opened after the first was taken and a width after the other window. -/
def Spaced (width : T) (first second : Charge T A) : Prop :=
  first.opened = second.opened ∨
    first.time ≤ second.opened ∧ second.opened ≤ second.time ∧
      first.opened + width ≤ second.opened

/-- Less than a width apart, the charges count in at most two windows: those that do not
count in the first one all count in the next. -/
theorem same_of_later [IsOrderedAddMonoid T] {width : T} {first : Charge T A}
    {rest : List (Charge T A)} (spaced : (first :: rest).Pairwise (Spaced width))
    (near : ∀ charge ∈ rest, charge.time < first.time + width) :
    ∃ next, ∀ charge ∈ rest, charge.opened ≠ first.opened → charge.opened = next := by
  obtain ⟨afterFirst, later⟩ := List.pairwise_cons.mp spaced
  clear spaced
  induction rest with
  | nil => exact ⟨first.opened, nofun⟩
  | cons second rest inductionHypothesis =>
      obtain ⟨afterSecond, others⟩ := List.pairwise_cons.mp later
      by_cases one : second.opened = first.opened
      · obtain ⟨next, same⟩ := inductionHypothesis
          (fun charge member => near charge (List.mem_cons_of_mem second member))
          (fun charge member => afterFirst charge (List.mem_cons_of_mem second member)) others
        refine ⟨next, fun charge member other => ?_⟩
        rcases List.mem_cons.mp member with rfl | member
        · exact absurd one other
        · exact same charge member other
      · refine ⟨second.opened, fun charge member _ => ?_⟩
        rcases List.mem_cons.mp member with rfl | member
        · rfl
        rcases afterSecond charge member with same | ⟨_, started, apart⟩
        · exact same.symm
        -- A third window would have been opened a width after the second one, and so after
        -- the first charge.
        obtain ⟨ended, _, _⟩ :=
          (afterFirst second (List.mem_cons_self)).resolve_left (Ne.symm one)
        have late : first.time + width ≤ charge.time :=
          (add_le_add_left ended width).trans (apart.trans started)
        exact absurd (near charge (List.mem_cons_of_mem second member)) (not_lt.mpr late)

variable [AddCommGroup A] [LinearOrder A]

/-- A log in which the windows are spaced and each of them is metered. -/
structure Lawful (limits : Limits T A) (log : List (Charge T A)) : Prop where
  spaced : log.Pairwise (Spaced limits.width)
  metered : ∀ opened, Metered limits.capacity limits.tolerance 0
    ((inWindow opened log).map Charge.amount)

namespace Lawful

variable [IsOrderedAddMonoid A] {limits : Limits T A} {log : List (Charge T A)}

theorem sublist {fewer : List (Charge T A)} (part : List.Sublist fewer log)
    (lawful : Lawful limits log) : Lawful limits fewer where
  spaced := lawful.spaced.sublist part
  metered opened := (lawful.metered opened).sublist ((part.filter _).map _)

/-- Charges of one window. -/
theorem total_le_of_same (lawful : Lawful limits log) (opened : T)
    (same : ∀ charge ∈ log, charge.opened = opened) :
    total log ≤ limits.capacity + log.length • limits.tolerance := by
  have metered := (lawful.metered opened).sum_le limits.tolerates
  have whole : inWindow opened log = log :=
    List.filter_eq_self.mpr fun charge member => decide_eq_true (same charge member)
  rw [whole, List.length_map, zero_add, max_eq_right limits.nonneg] at metered
  exact metered

/-- What one window admits. -/
theorem total_window_le (lawful : Lawful limits log) (opened : T) :
    total (inWindow opened log) ≤
      limits.capacity + (inWindow opened log).length • limits.tolerance :=
  (lawful.sublist List.filter_sublist).total_le_of_same opened fun _ member =>
    of_decide_eq_true (List.mem_filter.mp member).2

/-- What any time shorter than a window admits. -/
theorem total_le_of_near [IsOrderedAddMonoid T] (lawful : Lawful limits log)
    (near : log.Pairwise fun first second => second.time < first.time + limits.width) :
    total log ≤ 2 • limits.capacity + log.length • limits.tolerance := by
  cases log with
  | nil => simpa using nsmul_nonneg limits.nonneg 2
  | cons first rest =>
      obtain ⟨next, same⟩ := same_of_later lawful.spaced (List.pairwise_cons.mp near).1
      let log := first :: rest
      let others := log.filter fun charge => !decide (charge.opened = first.opened)
      have early := lawful.total_window_le first.opened
      have late : total others ≤ limits.capacity + others.length • limits.tolerance := by
        refine (lawful.sublist List.filter_sublist).total_le_of_same next ?_
        intro charge member
        obtain ⟨member, other⟩ := List.mem_filter.mp member
        have other : charge.opened ≠ first.opened := by simpa using other
        rcases List.mem_cons.mp member with rfl | member
        · exact absurd rfl other
        · exact same charge member other
      have parts : (inWindow first.opened log ++ others).Perm log := List.filter_append_perm _ log
      have amounts : total log = total (inWindow first.opened log) + total others := by
        rw [← total_append]
        exact (parts.map Charge.amount).sum_eq.symm
      have lengths := parts.length_eq
      rw [List.length_append] at lengths
      rw [amounts, ← lengths, add_nsmul, two_nsmul]
      exact (add_le_add early late).trans_eq (add_add_add_comm _ _ _ _)

end Lawful

/-! ## Runs -/

/-- The budget in a run: the time of the last event, the window that is open, what counts
as taken in it, and the log. -/
structure State (T A : Type) where
  clock : T
  opened : Option T
  used : A
  log : List (Charge T A)

inductive Event (T A : Type) where
  | wait (now : T)
  | start (now : T)
  | refill (now : T)
  | take (now : T) (amount : A)

/-- One event. A window starts once, refills when it has elapsed, and admits an amount that
fits. -/
inductive Step (limits : Limits T A) : State T A → Event T A → State T A → Prop where
  | wait {s : State T A} {now : T} (later : s.clock ≤ now) :
      Step limits s (.wait now) { s with clock := now }
  | start {s : State T A} {now : T} (later : s.clock ≤ now) (closed : s.opened = none) :
      Step limits s (.start now) { s with clock := now, opened := some now }
  | refill {s : State T A} {now opened : T} (later : s.clock ≤ now)
      (isOpen : s.opened = some opened) (elapsed : opened + limits.width ≤ now) :
      Step limits s (.refill now) { s with clock := now, opened := some now, used := 0 }
  | take {s : State T A} {now opened : T} {amount : A} (later : s.clock ≤ now)
      (isOpen : s.opened = some opened) (nonneg : 0 ≤ amount)
      (fits : amount ≤ max 0 (limits.capacity - s.used) + limits.tolerance) :
      Step limits s (.take now amount)
        { s with clock := now, used := s.used + amount, log := s.log ++ [⟨opened, now, amount⟩] }

/-- The runs from any budget, with an empty log. -/
def runs (limits : Limits T A) : TransitionSystem (State T A) (Event T A) where
  init := fun s => 0 ≤ s.used ∧ s.log = []
  step := Step limits

/-- The log is lawful, and the open window is the last of it and counts at least what the
log says was taken in it. -/
structure Invariant (limits : Limits T A) (s : State T A) : Prop where
  lawful : Lawful limits s.log
  past : ∀ charge ∈ s.log, charge.time ≤ s.clock
  last : ∀ charge ∈ s.log, ∃ opened, s.opened = some opened ∧
    (charge.opened = opened ∨ charge.time ≤ opened ∧ opened ≤ s.clock ∧
      charge.opened + limits.width ≤ opened)
  nonneg : 0 ≤ s.used
  counted : ∀ opened, s.opened = some opened → total (inWindow opened s.log) ≤ s.used

section Steps

variable [IsOrderedAddMonoid T] [IsOrderedAddMonoid A] {limits : Limits T A}
  {s s' : State T A} {event : Event T A}

theorem Invariant.step (inv : Invariant limits s) (taken : Step limits s event s') :
    Invariant limits s' := by
  cases taken with
  | wait later =>
      refine ⟨inv.lawful, fun charge member => (inv.past charge member).trans later, ?_,
        inv.nonneg, inv.counted⟩
      intro charge member
      obtain ⟨opened, isOpen, place⟩ := inv.last charge member
      exact ⟨opened, isOpen, place.imp_right fun ⟨ended, past, apart⟩ =>
        ⟨ended, past.trans later, apart⟩⟩
  | start later closed =>
      have fresh : s.log = [] := by
        refine List.eq_nil_iff_forall_not_mem.mpr fun charge member => ?_
        obtain ⟨opened, isOpen, _⟩ := inv.last charge member
        cases closed.symm.trans isOpen
      refine ⟨inv.lawful, fun charge member => (inv.past charge member).trans later, ?_,
        inv.nonneg, ?_⟩
      · intro charge member
        rw [fresh] at member
        cases member
      · intro opened _
        show total (inWindow _ s.log) ≤ s.used
        rw [fresh]
        exact inv.nonneg
  | @refill now opened later isOpen elapsed =>
      have advances : opened < now := (lt_add_of_pos_right opened limits.positive).trans_le elapsed
      have apart : ∀ charge ∈ s.log, charge.opened + limits.width ≤ now := by
        intro charge member
        obtain ⟨other, isOther, place⟩ := inv.last charge member
        obtain rfl := Option.some.inj (isOpen.symm.trans isOther)
        rcases place with same | ⟨_, _, apart⟩
        · exact same ▸ elapsed
        · exact apart.trans advances.le
      refine ⟨inv.lawful, fun charge member => (inv.past charge member).trans later, ?_,
        le_refl 0, ?_⟩
      · intro charge member
        refine ⟨now, rfl, .inr ⟨(inv.past charge member).trans later, le_refl now, ?_⟩⟩
        exact apart charge member
      · intro other isOther
        obtain rfl := Option.some.inj isOther
        have none : inWindow now s.log = [] := by
          refine List.filter_eq_nil_iff.mpr fun charge member same => ?_
          have before := apart charge member
          rw [of_decide_eq_true same] at before
          exact absurd (lt_add_of_pos_right now limits.positive) (not_lt.mpr before)
        show total (inWindow _ s.log) ≤ 0
        rw [none, total_nil]
  | @take now opened amount later isOpen nonneg fits =>
      have counted := inv.counted opened isOpen
      refine ⟨⟨?_, ?_⟩, ?_, ?_, add_nonneg inv.nonneg nonneg, ?_⟩
      · rw [List.pairwise_append]
        refine ⟨inv.lawful.spaced, List.pairwise_singleton _ _, ?_⟩
        intro charge member taken isTaken
        obtain rfl := List.mem_singleton.mp isTaken
        obtain ⟨other, isOther, place⟩ := inv.last charge member
        obtain rfl := Option.some.inj (isOpen.symm.trans isOther)
        exact place.imp_right fun ⟨ended, past, apart⟩ => ⟨ended, past.trans later, apart⟩
      · intro other
        by_cases same : opened = other
        · subst same
          rw [inWindow_concat_self s.log ⟨opened, now, amount⟩, List.map_append]
          refine (inv.lawful.metered opened).concat nonneg (fits.trans ?_)
          rw [zero_add]
          exact add_le_add_left (max_le_max_left 0 (sub_le_sub_left counted _)) _
        · rw [inWindow_concat_other same]
          exact inv.lawful.metered other
      · intro charge member
        rcases List.mem_append.mp member with member | member
        · exact (inv.past charge member).trans later
        · rw [List.mem_singleton.mp member]
      · intro charge member
        refine ⟨opened, isOpen, ?_⟩
        rcases List.mem_append.mp member with member | member
        · obtain ⟨other, isOther, place⟩ := inv.last charge member
          obtain rfl := Option.some.inj (isOpen.symm.trans isOther)
          exact place.imp_right fun ⟨ended, past, apart⟩ => ⟨ended, past.trans later, apart⟩
        · rw [List.mem_singleton.mp member]
          exact .inl rfl
      · intro other isOther
        obtain rfl := Option.some.inj (isOpen.symm.trans isOther)
        rw [inWindow_concat_self s.log ⟨opened, now, amount⟩, total_append]
        exact add_le_add counted (add_zero amount).le

/-- In every run the log is lawful. -/
theorem lawful_of_reachable (reached : (runs limits).Reachable s) : Lawful limits s.log := by
  refine (reached.invariant (Invariant limits) ?_ ?_).lawful
  · intro s initial
    obtain ⟨nonneg, fresh⟩ := initial
    constructor
    · rw [fresh]
      exact ⟨List.Pairwise.nil, fun _ => trivial⟩
    · rw [fresh]
      exact nofun
    · rw [fresh]
      exact nofun
    · exact nonneg
    · intro opened _
      rw [fresh]
      exact nonneg
  · exact fun s event s' inv taken => inv.step taken

end Steps

end RefillWindow
