import PowerGovernor.Burst.Queries
import PowerGovernor.EnergyAccount
import PowerGovernor.Library.RefillWindow

/-!
What burst budgets and energy accounts admit.

Owns the amounts that the calls of a run accept, each with its time and with the start of
the window it counts in, and the bounds of these amounts: within one window, and within any
half-open interval as long as one. Both types refine the refilling budget of the library.
-/

set_option autoImplicit false

namespace PowerGovernor

/-! ## The calls of an account -/

/-- A call with the time it is given. -/
inductive AccountCall where
  | remaining (now : Timestamp)
  | canConsume (j : Joules) (now : Timestamp)
  | consume (j : Joules) (now : Timestamp)
  | consumed (now : Timestamp)
deriving DecidableEq

namespace AccountCall

def now : AccountCall → Timestamp
  | .remaining now | .canConsume _ now | .consume _ now | .consumed now => now

/-- The only call that is not `const`. -/
def isConsume : AccountCall → Bool
  | .consume _ _ => true
  | _ => false

/-- What is asked for. -/
def amount : AccountCall → Joules
  | .consume j _ => j
  | _ => Joules.zero

/-- Performs a call. Of the answers, only that of `consume` is kept. -/
def perform : AccountCall → Stateful Fault EnergyWindowAccount (Option Bool)
  | .remaining now => do
    let _ ← Stateful.ofExcept ((← get).remaining now)
    return none
  | .canConsume j now => do
    let _ ← Stateful.ofExcept ((← get).canConsume j now)
    return none
  | .consume j now => do
    let accepted ← EnergyWindowAccount.consume j now
    return some accepted
  | .consumed now => do
    let _ ← Stateful.ofExcept ((← get).consumedAt now)
    return none

end AccountCall

/-! ## Meters -/

/-- Calls that may consume, and where the window they count in is kept. -/
structure Meter (S Call : Type) where
  perform : Call → Stateful Fault S (Option Bool)
  now : Call → Timestamp
  amount : Call → Joules
  consumed : S → Joules
  windowStart : S → Timestamp
  started : S → Bool

def BurstBudget.meter : Meter BurstBudget BurstCall :=
  ⟨BurstCall.perform, BurstCall.now, BurstCall.amount, consumed, windowStart, started⟩

def EnergyWindowAccount.meter : Meter EnergyWindowAccount AccountCall :=
  ⟨AccountCall.perform, AccountCall.now, AccountCall.amount, consumed, windowStart, started⟩

/-- An accepted amount in joules, with its time and the start of its window in nanoseconds. -/
abbrev AcceptedAmount := RefillWindow.Charge ℤ ℚ

namespace Meter

variable {S Call : Type} (meter : Meter S Call)

/-- What one call accepts. -/
def accepted (s : S) (call : Call) : List AcceptedAmount :=
  match (meter.perform call).exec s with
  | (.ok (some true), s') =>
    [⟨(meter.windowStart s').ns, (meter.now call).ns, (meter.amount call).value⟩]
  | _ => []

/-- What the calls of a run accept. -/
def charges : S → List Call → List AcceptedAmount
  | _, [] => []
  | s, call :: rest => meter.accepted s call ++ charges ((meter.perform call).exec s).2 rest

/-- The state as one of the refilling budget. -/
def level (s : S) (clock : ℤ) (log : List AcceptedAmount) : RefillWindow.State ℤ ℚ where
  clock := clock
  opened := if meter.started s then some (meter.windowStart s).ns else none
  used := (meter.consumed s).value
  log := log

/-- Every call refines events of the refilling budget at its time. -/
def Refines (limits : RefillWindow.Limits ℤ ℚ) (Inv : S → Prop) : Prop :=
  ∀ s call clock log, Inv s → clock ≤ (meter.now call).ns →
    (RefillWindow.runs limits).Reachable (meter.level s clock log) →
      Inv ((meter.perform call).exec s).2 ∧
        (RefillWindow.runs limits).Reachable (meter.level ((meter.perform call).exec s).2
          (meter.now call).ns (log ++ meter.accepted s call))

variable {meter} {limits : RefillWindow.Limits ℤ ℚ} {Inv : S → Prop}

theorem level_of_started {s : S} (running : meter.started s = true) (clock : ℤ)
    (log : List AcceptedAmount) : meter.level s clock log =
      ⟨clock, some (meter.windowStart s).ns, (meter.consumed s).value, log⟩ := by
  rw [level, if_pos running]

theorem level_of_fresh {s : S} (fresh : meter.started s = false) (clock : ℤ)
    (log : List AcceptedAmount) : meter.level s clock log =
      ⟨clock, none, (meter.consumed s).value, log⟩ := by
  rw [level, if_neg (by rw [fresh]; decide)]

theorem accepted_of_ok {s s' : S} {call : Call}
    (returned : (meter.perform call).exec s = (.ok (some true), s')) : meter.accepted s call =
      [⟨(meter.windowStart s').ns, (meter.now call).ns, (meter.amount call).value⟩] := by
  rw [accepted, returned]

theorem accepted_of_not_ok {s : S} {call : Call}
    (refused : ((meter.perform call).exec s).1 ≠ .ok (some true)) :
    meter.accepted s call = [] := by
  unfold accepted
  split
  case h_1 returned => exact absurd (congrArg Prod.fst returned) refused
  case h_2 => rfl

/-- Time-ordered calls refine a run. -/
theorem Refines.run (refines : meter.Refines limits Inv) {s : S} (inv : Inv s) {clock : ℤ}
    {log : List AcceptedAmount}
    (reached : (RefillWindow.runs limits).Reachable (meter.level s clock log))
    {calls : List Call} (later : ∀ call ∈ calls, clock ≤ (meter.now call).ns)
    (ordered : Timestamp.Ordered (calls.map meter.now)) :
    RefillWindow.Lawful limits (log ++ meter.charges s calls) := by
  induction calls generalizing s clock log with
  | nil =>
      rw [charges, List.append_nil]
      exact RefillWindow.lawful_of_reachable reached
  | cons call rest inductionHypothesis =>
      obtain ⟨first, others⟩ := List.pairwise_cons.mp ordered
      obtain ⟨inv, reached⟩ := refines s call clock log inv (later call List.mem_cons_self) reached
      rw [charges, ← List.append_assoc]
      refine inductionHypothesis inv reached (fun other member => ?_) others
      exact first _ (List.mem_map_of_mem member)

/-- The accepted amounts of a run from any state are a lawful log. -/
theorem Refines.lawful (refines : meter.Refines limits Inv) {s : S} (inv : Inv s)
    {calls : List Call} (ordered : Timestamp.Ordered (calls.map meter.now)) :
    RefillWindow.Lawful limits (meter.charges s calls) := by
  have initial : (RefillWindow.runs limits).Reachable (meter.level s (-9223372036854775808) []) :=
    .start ⟨(meter.consumed s).nonneg, rfl⟩
  exact refines.run inv initial (fun call _ => (meter.now call).lower) ordered

end Meter

/-! ## Windows of the source -/

/-- The refilling budget of the library with a window and a capacity of the source. -/
def refillLimits (window : Duration) (capacity : Joules) (positive : 0 < window.ns) :
    RefillWindow.Limits ℤ ℚ where
  width := window.ns
  capacity := capacity.value
  tolerance := 1 / 1000000000
  positive := positive
  nonneg := capacity.nonneg
  tolerates := by norm_num

namespace Meter

variable {S Call : Type} {meter : Meter S Call} {s s' : S} {now : Timestamp} {clock : ℤ}
  {log : List AcceptedAmount} {window : Duration} {capacity : Joules} {positive : 0 < window.ns}

/-- The window starts. -/
theorem reachable_start
    (reached : (RefillWindow.runs (refillLimits window capacity positive)).Reachable
      (meter.level s clock log)) (later : clock ≤ now.ns) (fresh : meter.started s = false)
    (left : meter.started s' = true ∧ meter.windowStart s' = now ∧
      meter.consumed s' = meter.consumed s) :
    (RefillWindow.runs (refillLimits window capacity positive)).Reachable
      (meter.level s' now.ns log) := by
  obtain ⟨running, start, same⟩ := left
  rw [level_of_fresh fresh] at reached
  rw [level_of_started running, start, same]
  exact reached.step _ (.start later rfl)

/-- The window is refilled after it has elapsed. -/
theorem reachable_refill {elapsed : Duration}
    (reached : (RefillWindow.runs (refillLimits window capacity positive)).Reachable
      (meter.level s clock log)) (later : clock ≤ now.ns) (running : meter.started s = true)
    (returned : now.elapsedSince (meter.windowStart s) = .ok elapsed)
    (ended : window.ns ≤ elapsed.ns)
    (left : meter.started s' = true ∧ meter.windowStart s' = now ∧
      meter.consumed s' = Joules.zero) :
    (RefillWindow.runs (refillLimits window capacity positive)).Reachable
      (meter.level s' now.ns log) := by
  obtain ⟨again, start, emptied⟩ := left
  have value := Timestamp.elapsedSince_eq_ok.mp returned
  have apart : (meter.windowStart s).ns + window.ns ≤ now.ns := by omega
  rw [level_of_started running] at reached
  rw [level_of_started again, start, emptied]
  exact reached.step _ (.refill later rfl apart)

/-- An amount that fits is taken. -/
theorem reachable_take {j : Joules}
    (reached : (RefillWindow.runs (refillLimits window capacity positive)).Reachable
      (meter.level s now.ns log)) (running : meter.started s = true)
    (fits : j.value ≤ max 0 (capacity.value - (meter.consumed s).value) + 1 / 1000000000)
    (left : meter.started s' = true ∧ meter.windowStart s' = meter.windowStart s ∧
      meter.consumed s' = Joules.clamped ((meter.consumed s).value + j.value)) :
    (RefillWindow.runs (refillLimits window capacity positive)).Reachable
      (meter.level s' now.ns (log ++ [⟨(meter.windowStart s').ns, now.ns, j.value⟩])) := by
  obtain ⟨again, same, added⟩ := left
  have sum : (meter.consumed s').value = (meter.consumed s).value + j.value := by
    rw [added, Joules.clamped_value, max_eq_right (add_nonneg (Joules.nonneg _) j.nonneg)]
  rw [level_of_started running] at reached
  rw [level_of_started again, same, sum]
  exact reached.step _ (.take (le_refl _) rfl j.nonneg fits)

end Meter

/-! ## Burst budgets -/

namespace BurstBudget

variable {b b' : BurstBudget} {now : Timestamp} {window : Duration} {capacity : Joules}
  {positive : 0 < window.ns} {clock : ℤ} {log : List AcceptedAmount}

/-- The refill is at most one event. -/
theorem reachable_refillIfNeeded (sameWindow : b.limits.window = window) (later : clock ≤ now.ns)
    (reached : (RefillWindow.runs (refillLimits window capacity positive)).Reachable
      (meter.level b clock log)) :
    (RefillWindow.runs (refillLimits window capacity positive)).Reachable
      (meter.level ((refillIfNeeded now).exec b).2 now.ns log) := by
  have refills := refillIfNeeded_refills b now
  generalize (refillIfNeeded now).exec b = ended at refills ⊢
  cases refills with
  | started fresh => exact Meter.reachable_start reached later fresh ⟨rfl, rfl, rfl⟩
  | failed _ _ => exact .step _ reached (.wait later)
  | refilled running returned ended =>
      exact Meter.reachable_refill reached later running returned (sameWindow ▸ ended)
        ⟨running, rfl, rfl⟩
  | settled _ _ _ => exact .step _ reached (.wait later)

/-- An enabled budget with its window and its capacity. -/
def Metering (window : Duration) (capacity : Joules) (b : BurstBudget) : Prop :=
  b.limits.enabled = true ∧ b.limits.window = window ∧ b.capacity = capacity

theorem Metering.of_limits (enabled : b.limits.enabled = true) (same : b'.limits = b.limits) :
    Metering b.limits.window b.capacity b' := by
  unfold Metering capacity
  rw [same]
  exact ⟨enabled, rfl, rfl⟩

theorem refines_query {call : BurstCall} (query : call.isConsume = false)
    (enabled : b.limits.enabled = true) {positive : 0 < b.limits.window.ns}
    (later : clock ≤ call.now.ns)
    (reached : (RefillWindow.runs (refillLimits b.limits.window b.capacity positive)).Reachable
      (meter.level b clock log)) :
    Metering b.limits.window b.capacity (call.perform.exec b).2 ∧
      (RefillWindow.runs (refillLimits b.limits.window b.capacity positive)).Reachable
        (meter.level (call.perform.exec b).2 call.now.ns log) := by
  by_cases looks : b.Looks call
  · rw [query_of_looks query looks]
    refine ⟨?_, reachable_refillIfNeeded rfl later reached⟩
    rcases refillIfNeeded_cases b call.now with ⟨fault, thrown⟩ | ⟨b', returned, same, _⟩
    · rw [thrown]
      exact ⟨enabled, rfl, rfl⟩
    · rw [returned]
      exact Metering.of_limits enabled same
  · rw [query_of_not_looks looks query]
    exact ⟨⟨enabled, rfl, rfl⟩, .step _ reached (.wait later)⟩

theorem refines_consume (j : Joules) (enabled : b.limits.enabled = true)
    {positive : 0 < b.limits.window.ns} (later : clock ≤ now.ns)
    (reached : (RefillWindow.runs (refillLimits b.limits.window b.capacity positive)).Reachable
      (meter.level b clock log)) :
    Metering b.limits.window b.capacity ((BurstCall.consume j now).perform.exec b).2 ∧
      (RefillWindow.runs (refillLimits b.limits.window b.capacity positive)).Reachable
        (meter.level ((BurstCall.consume j now).perform.exec b).2 now.ns
          (log ++ meter.accepted b (.consume j now))) := by
  have refilled := reachable_refillIfNeeded rfl later reached
  have performed := perform_consume b j now
  rcases refillIfNeeded_cases b now with ⟨fault, thrown⟩ | ⟨b', returned, same, running⟩
  · rw [exec_consume_of_failed enabled thrown] at performed
    rw [thrown] at refilled
    rw [Meter.accepted_of_not_ok (congrArg Prod.fst performed ▸ nofun), performed, List.append_nil]
    exact ⟨⟨enabled, rfl, rfl⟩, refilled⟩
  · rw [exec_consume_of_refilled enabled j returned (refillIfNeeded_again positive returned)]
      at performed
    rw [returned] at refilled
    by_cases fits : j.value ≤ b'.room.value + 1 / 1000000000
    · rw [if_pos fits] at performed
      rw [Meter.accepted_of_ok performed, performed]
      refine ⟨Metering.of_limits enabled same, ?_⟩
      refine Meter.reachable_take refilled running ?_ ⟨running, rfl, rfl⟩
      rw [room, capacity, same] at fits
      exact fits
    · rw [if_neg fits] at performed
      rw [Meter.accepted_of_not_ok (congrArg Prod.fst performed ▸ nofun), performed,
        List.append_nil]
      exact ⟨Metering.of_limits enabled same, refilled⟩

theorem refines : meter.Refines (refillLimits window capacity positive)
    (Metering window capacity) := by
  intro b call clock log metering later reached
  obtain ⟨enabled, rfl, rfl⟩ := metering
  cases query : call.isConsume with
  | false =>
      rw [Meter.accepted_of_not_ok (answer_of_query query true), List.append_nil]
      exact refines_query query enabled later reached
  | true =>
      cases call with
      | available _ | canBurst _ _ | consumed _ | exhausted _ | utilization _ => cases query
      | consume j now => exact refines_consume j enabled later reached

end BurstBudget

/-! ## Energy accounts -/

namespace EnergyWindowAccount

variable {a a' : EnergyWindowAccount} {now : Timestamp} {window : Duration} {budget : Joules}
  {positive : 0 < window.ns} {clock : ℤ} {log : List AcceptedAmount}

/-- What `consume` does of the window before its test. -/
inductive Opens (a : EnergyWindowAccount) (now : Timestamp) : EnergyWindowAccount → Prop where
  | started (fresh : a.started = false) :
      Opens a now { a with windowStart := now, started := true }
  | refilled {elapsed : Duration} (running : a.started = true)
      (returned : now.elapsedSince a.windowStart = .ok elapsed)
      (ended : a.cfg.window.ns ≤ elapsed.ns) :
      Opens a now { a with windowStart := now, consumed := Joules.zero }
  | settled {elapsed : Duration} (running : a.started = true)
      (returned : now.elapsedSince a.windowStart = .ok elapsed)
      (within : elapsed.ns < a.cfg.window.ns) : Opens a now a

theorem hasElapsed_of_running {elapsed : Duration} (running : a.started = true)
    (returned : now.elapsedSince a.windowStart = .ok elapsed)
    (within : elapsed.ns < a.cfg.window.ns) : a.hasElapsed now = .ok false := by
  unfold hasElapsed
  rw [if_neg (by rw [running]; decide), returned]
  exact congrArg Except.ok (decide_eq_false (not_le.mpr within))

/-- The test finds the window open, in a positive window. -/
theorem Opens.hasElapsed (positive : 0 < a.cfg.window.ns) (opens : Opens a now a') :
    a'.hasElapsed now = .ok false := by
  have self := now.elapsedSince_self
  cases opens with
  | started _ => exact hasElapsed_of_running rfl self positive
  | refilled running _ _ => exact hasElapsed_of_running running self positive
  | settled running returned within => exact hasElapsed_of_running running returned within

theorem Opens.cfg_started (opens : Opens a now a') : a'.cfg = a.cfg ∧ a'.started = true := by
  cases opens with
  | started _ => exact ⟨rfl, rfl⟩
  | refilled running _ _ => exact ⟨rfl, running⟩
  | settled running _ _ => exact ⟨rfl, running⟩

theorem Opens.canConsume (enforced : a.cfg.enforce = true) (positive : 0 < a.cfg.window.ns)
    (opens : Opens a now a') (j : Joules) : a'.canConsume j now = .ok
      (decide (j.value ≤ max 0 (a'.cfg.budget.value - a'.consumed.value) + 1 / 1000000000)) := by
  have enforced : a'.cfg.enforce = true := opens.cfg_started.1 ▸ enforced
  unfold EnergyWindowAccount.canConsume EnergyWindowAccount.remaining
  rw [if_neg (by rw [enforced]; decide), if_neg (by rw [enforced]; decide),
    opens.hasElapsed positive]
  show Except.ok (_ && decide (0 ≤ j.value)) = _
  rw [decide_eq_true j.nonneg, Bool.and_true]
  rfl

/-- What fits in the open window. -/
def room (a : EnergyWindowAccount) : ℚ := max 0 (a.cfg.budget.value - a.consumed.value)

/-- `consume` behind its refill. -/
def consumeOpen (j : Joules) (now : Timestamp) : Stateful Fault EnergyWindowAccount Bool := do
  if !(← Stateful.ofExcept ((← get).canConsume j now)) then return false
  modify fun a => { a with consumed := Joules.clamped (a.consumed.value + j.value) }
  return true

theorem exec_consumeOpen (enforced : a.cfg.enforce = true) (positive : 0 < a.cfg.window.ns)
    (opens : Opens a now a') (j : Joules) : (consumeOpen j now).exec a' =
      if j.value ≤ a'.room + 1 / 1000000000 then
        (.ok true, { a' with consumed := Joules.clamped (a'.consumed.value + j.value) })
      else (.ok false, a') := by
  unfold consumeOpen room
  rw [Stateful.exec_bind_of_ok (Stateful.exec_get a'), opens.canConsume enforced positive]
  by_cases fits : j.value ≤ max 0 (a'.cfg.budget.value - a'.consumed.value) + 1 / 1000000000
  · rw [decide_eq_true fits, if_pos fits]
    rfl
  · rw [decide_eq_false fits, if_neg fits]
    rfl

/-- `consume` opens the window, unless that fails, and goes on. -/
theorem consume_cases (enforced : a.cfg.enforce = true) (j : Joules) (now : Timestamp) :
    (∃ fault, a.started = true ∧ now.elapsedSince a.windowStart = .error fault ∧
      (consume j now).exec a = (.error fault, a)) ∨
      ∃ a', Opens a now a' ∧ (consume j now).exec a = (consumeOpen j now).exec a' := by
  unfold consume
  rw [Stateful.exec_bind_of_ok (Stateful.exec_get a), if_neg (by rw [enforced]; decide)]
  rcases Bool.eq_false_or_eq_true a.started with running | fresh
  · rw [if_neg (by rw [running]; decide)]
    cases returned : now.elapsedSince a.windowStart with
    | error fault => exact .inl ⟨fault, running, rfl, rfl⟩
    | ok elapsed =>
        right
        by_cases ended : a.cfg.window.ns ≤ elapsed.ns
        · refine ⟨_, .refilled running returned ended, ?_⟩
          rw [Stateful.exec_bind_of_ok (Stateful.exec_ofExcept _ a), if_pos ended]
          rfl
        · refine ⟨a, .settled running returned (not_le.mp ended), ?_⟩
          rw [Stateful.exec_bind_of_ok (Stateful.exec_ofExcept _ a), if_neg ended]
          rfl
  · right
    refine ⟨_, .started fresh, ?_⟩
    rw [if_pos (by rw [fresh]; decide)]
    rfl

/-- A query leaves the account as it is. -/
theorem perform_of_query {call : AccountCall} (query : call.isConsume = false) :
    (call.perform.exec a).2 = a ∧ (call.perform.exec a).1 ≠ .ok (some true) := by
  cases call with
  | consume j now => cases query
  | remaining now =>
      show ((Stateful.ofExcept (a.remaining now) >>= _).exec a).2 = a ∧
        ((Stateful.ofExcept (a.remaining now) >>= _).exec a).1 ≠ _
      cases a.remaining now <;> exact ⟨rfl, nofun⟩
  | canConsume j now =>
      show ((Stateful.ofExcept (a.canConsume j now) >>= _).exec a).2 = a ∧
        ((Stateful.ofExcept (a.canConsume j now) >>= _).exec a).1 ≠ _
      cases a.canConsume j now <;> exact ⟨rfl, nofun⟩
  | consumed now =>
      show ((Stateful.ofExcept (a.consumedAt now) >>= _).exec a).2 = a ∧
        ((Stateful.ofExcept (a.consumedAt now) >>= _).exec a).1 ≠ _
      cases a.consumedAt now <;> exact ⟨rfl, nofun⟩

theorem perform_consume (a : EnergyWindowAccount) (j : Joules) (now : Timestamp) :
    (AccountCall.consume j now).perform.exec a =
      (((consume j now).exec a).1.map some, ((consume j now).exec a).2) := by
  show (consume j now >>= _).exec a = _
  rw [Stateful.exec_bind]
  rcases (consume j now).exec a with ⟨_ | _, a'⟩ <;> rfl

/-- The window is opened by at most one event. -/
theorem reachable_opens {positive : 0 < a.cfg.window.ns} (opens : Opens a now a')
    (later : clock ≤ now.ns)
    (reached : (RefillWindow.runs (refillLimits a.cfg.window a.cfg.budget positive)).Reachable
      (meter.level a clock log)) :
    (RefillWindow.runs (refillLimits a.cfg.window a.cfg.budget positive)).Reachable
      (meter.level a' now.ns log) := by
  cases opens with
  | started fresh => exact Meter.reachable_start reached later fresh ⟨rfl, rfl, rfl⟩
  | refilled running returned ended =>
      exact Meter.reachable_refill reached later running returned ended ⟨running, rfl, rfl⟩
  | settled _ _ _ => exact .step _ reached (.wait later)

theorem refines_consume (j : Joules) (enforced : a.cfg.enforce = true)
    {positive : 0 < a.cfg.window.ns} (later : clock ≤ now.ns)
    (reached : (RefillWindow.runs (refillLimits a.cfg.window a.cfg.budget positive)).Reachable
      (meter.level a clock log)) :
    ((AccountCall.consume j now).perform.exec a).2.cfg = a.cfg ∧
      (RefillWindow.runs (refillLimits a.cfg.window a.cfg.budget positive)).Reachable
        (meter.level ((AccountCall.consume j now).perform.exec a).2 now.ns
          (log ++ meter.accepted a (.consume j now))) := by
  have performed := perform_consume a j now
  rcases consume_cases enforced j now with ⟨fault, _, _, thrown⟩ | ⟨a', opens, returned⟩
  · rw [thrown] at performed
    rw [Meter.accepted_of_not_ok (congrArg Prod.fst performed ▸ nofun), performed, List.append_nil]
    exact ⟨rfl, .step _ reached (.wait later)⟩
  · obtain ⟨same, running⟩ := opens.cfg_started
    have opened := reachable_opens opens later reached
    rw [returned, exec_consumeOpen enforced positive opens j] at performed
    by_cases fits : j.value ≤ a'.room + 1 / 1000000000
    · rw [if_pos fits] at performed
      rw [Meter.accepted_of_ok performed, performed]
      refine ⟨same, Meter.reachable_take opened running ?_ ⟨running, rfl, rfl⟩⟩
      rw [room, same] at fits
      exact fits
    · rw [if_neg fits] at performed
      rw [Meter.accepted_of_not_ok (congrArg Prod.fst performed ▸ nofun), performed,
        List.append_nil]
      exact ⟨same, opened⟩

theorem refines (cfg : EnergyWindow) (enforced : cfg.enforce = true)
    (positive : 0 < cfg.window.ns) :
    meter.Refines (refillLimits cfg.window cfg.budget positive) (fun a => a.cfg = cfg) := by
  intro a call clock log same later reached
  subst same
  cases query : call.isConsume with
  | false =>
      obtain ⟨left, refused⟩ := perform_of_query (a := a) query
      have left : ((meter.perform call).exec a).2 = a := left
      rw [Meter.accepted_of_not_ok refused, List.append_nil, left]
      exact ⟨rfl, .step _ reached (.wait later)⟩
  | true =>
      cases call with
      | remaining _ | canConsume _ _ | consumed _ => cases query
      | consume j now => exact refines_consume j enforced later reached

end EnergyWindowAccount

/-! ## The bounds -/

/-- Accepted in an interval from `start`, or between two refills: the window start of a charge
says which of them it stands between. -/
structure BoundedBy (window : Duration) (capacity : Joules) (log : List AcceptedAmount) : Prop where
  fromStart : ∀ start : ℤ,
    let inside := log.filter fun charge =>
      decide (start ≤ charge.time) && decide (charge.time < start + window.ns)
    RefillWindow.total inside ≤ 2 * capacity.value + inside.length * (1 / 1000000000)
  afterStart : ∀ start : ℤ,
    let inside := log.filter fun charge =>
      decide (start < charge.time) && decide (charge.time ≤ start + window.ns)
    RefillWindow.total inside ≤ 2 * capacity.value + inside.length * (1 / 1000000000)
  betweenRefills : ∀ opened : Timestamp,
    let inside := RefillWindow.inWindow opened.ns log
    RefillWindow.total inside ≤ capacity.value + inside.length * (1 / 1000000000)

section Bounds

variable {window : Duration} {capacity : Joules} {positive : 0 < window.ns}
  {log : List AcceptedAmount}

theorem total_filter_le (lawful : RefillWindow.Lawful (refillLimits window capacity positive) log)
    {inside : AcceptedAmount → Bool}
    (near : ∀ c d, inside c = true → inside d = true → d.time < c.time + window.ns) :
    RefillWindow.total (log.filter inside) ≤
      2 * capacity.value + (log.filter inside).length * (1 / 1000000000) := by
  have bound := (lawful.sublist (List.filter_sublist (p := inside))).total_le_of_near
    (List.pairwise_of_forall_mem_list fun c memberC d memberD =>
      near c d (List.mem_filter.mp memberC).2 (List.mem_filter.mp memberD).2)
  rw [two_nsmul, nsmul_eq_mul, ← two_mul] at bound
  exact bound

theorem BoundedBy.of_lawful
    (lawful : RefillWindow.Lawful (refillLimits window capacity positive) log) :
    BoundedBy window capacity log where
  fromStart start := total_filter_le lawful fun c d insideC insideD => by
    simp only [Bool.and_eq_true, decide_eq_true_eq] at insideC insideD
    omega
  afterStart start := total_filter_le lawful fun c d insideC insideD => by
    simp only [Bool.and_eq_true, decide_eq_true_eq] at insideC insideD
    omega
  betweenRefills opened := by
    have bound := lawful.total_window_le opened.ns
    rw [nsmul_eq_mul] at bound
    exact bound

end Bounds

/-- In every run of time-ordered calls, from any state, what a burst budget and an energy
account accept is bounded. -/
theorem consumption_bounded :
    (∀ (b : BurstBudget) (calls : List BurstCall), b.limits.enabled = true →
      0 < b.limits.window.ns → Timestamp.Ordered (calls.map BurstCall.now) →
        BoundedBy b.limits.window b.capacity (BurstBudget.meter.charges b calls)) ∧
    ∀ (a : EnergyWindowAccount) (calls : List AccountCall), a.cfg.enforce = true →
      0 < a.cfg.window.ns → Timestamp.Ordered (calls.map AccountCall.now) →
        BoundedBy a.cfg.window a.cfg.budget (EnergyWindowAccount.meter.charges a calls) := by
  constructor
  · intro b calls enabled positive ordered
    have refines : BurstBudget.meter.Refines (refillLimits b.limits.window b.capacity positive) _ :=
      BurstBudget.refines
    exact .of_lawful (refines.lawful ⟨enabled, rfl, rfl⟩ ordered)
  · intro a calls enforced positive ordered
    exact .of_lawful ((EnergyWindowAccount.refines a.cfg enforced positive).lawful rfl ordered)

/-- A budget of 50 J and an account of 50 J, each over a second. -/
theorem consumption_bounded_standard :
    BoundedBy Duration.oneSecond (BurstBudget.construct .standard).capacity
      (BurstBudget.meter.charges (.construct .standard)
        [.available Timestamp.zero, .consume ⟨50, fifty_admitted⟩ .halfSecond,
          .consume ⟨50, fifty_admitted⟩ .fullSecond]) ∧
    BoundedBy Duration.oneSecond ⟨50, fifty_admitted⟩
      (EnergyWindowAccount.meter.charges
        (.construct ⟨⟨50, fifty_admitted⟩, Duration.oneSecond, true⟩)
        [.consume ⟨50, fifty_admitted⟩ .halfSecond, .remaining .fullSecond]) := by
  constructor
  · refine consumption_bounded.1 (.construct .standard) _ rfl ?_ ?_
    · decide
    · decide
  · refine consumption_bounded.2 (.construct ⟨⟨50, ?_⟩, Duration.oneSecond, true⟩) _ rfl ?_ ?_
    · decide
    · decide

/-- Within half a second twice the capacity is accepted. -/
example : RefillWindow.total (BurstBudget.meter.charges (.construct .standard)
    [.available Timestamp.zero, .consume ⟨50, by decide +kernel⟩ .halfSecond,
      .consume ⟨50, by decide +kernel⟩ .fullSecond]) = 100 := by
  decide +kernel

end PowerGovernor
