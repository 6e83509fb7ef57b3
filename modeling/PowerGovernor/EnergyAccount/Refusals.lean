import PowerGovernor.Consumption

/-!
Refused consumes of an energy account.

Owns the answers of a run of calls, what `consume` makes of an account in one equation, and
the exact condition under which no later call can tell that a refused `consume` was made: it
starts or refills the window although it consumes nothing.
-/

set_option autoImplicit false

namespace PowerGovernor

/-- What a call answers. -/
inductive AccountAnswer where
  | joules (amount : Joules)
  | accepted (yes : Bool)
deriving DecidableEq

/-- Performs a call, with its answer. -/
def AccountCall.answer : AccountCall → Stateful Fault EnergyWindowAccount AccountAnswer
  | .remaining now => do return .joules (← Stateful.ofExcept ((← get).remaining now))
  | .canConsume j now => do return .accepted (← Stateful.ofExcept ((← get).canConsume j now))
  | .consume j now => do return .accepted (← EnergyWindowAccount.consume j now)
  | .consumed now => do return .joules (← Stateful.ofExcept ((← get).consumedAt now))

namespace EnergyWindowAccount

variable {a : EnergyWindowAccount} {now : Timestamp}

def step (a : EnergyWindowAccount) (call : AccountCall) :
    Except Fault AccountAnswer × EnergyWindowAccount :=
  call.answer.exec a

/-- The account after a sequence of calls. -/
def after (a : EnergyWindowAccount) (calls : List AccountCall) : EnergyWindowAccount :=
  calls.foldl (fun a call => (a.step call).2) a

/-! ## What counts as consumed -/

/-- An account that has not been started has consumed nothing. -/
def Clean (a : EnergyWindowAccount) : Prop := a.started = false → a.consumed = Joules.zero

/-- The window is started and has not elapsed. -/
def Running (a : EnergyWindowAccount) (now : Timestamp) : Prop :=
  a.started = true ∧ max 0 (now.ns - a.windowStart.ns) < a.cfg.window.ns

instance (a : EnergyWindowAccount) (now : Timestamp) : Decidable (a.Running now) := by
  unfold Running
  infer_instance

/-- The time since the start of the window fits in a `Duration`. -/
def Readable (a : EnergyWindowAccount) (now : Timestamp) : Prop :=
  a.started = true → now.ElapsedFits a.windowStart

instance (a : EnergyWindowAccount) (now : Timestamp) : Decidable (a.Readable now) := by
  unfold Readable
  infer_instance

/-- What counts as consumed at a time. -/
def used (a : EnergyWindowAccount) (now : Timestamp) : Joules :=
  if a.Running now then a.consumed else Joules.zero

theorem hasElapsed_of_readable (started : a.started = true) (readable : a.Readable now) :
    a.hasElapsed now = .ok (decide (¬ a.Running now)) := by
  obtain ⟨elapsed, returned⟩ := Timestamp.elapsedSince_returns_iff.mpr (readable started)
  have value := Timestamp.elapsedSince_eq_ok.mp returned
  have ended : a.cfg.window.ns ≤ elapsed.ns ↔ ¬ a.Running now := by
    unfold Running
    rw [and_iff_right started, ← value, not_lt]
  unfold hasElapsed
  rw [if_neg (by rw [started]; decide), returned]
  exact congrArg Except.ok (decide_eq_decide.mpr ended)

theorem consumedAt_of_readable (enforced : a.cfg.enforce = true) (clean : a.Clean)
    (readable : a.Readable now) : a.consumedAt now = .ok (a.used now) := by
  unfold consumedAt used
  rw [if_neg (by rw [enforced]; decide)]
  rcases Bool.eq_false_or_eq_true a.started with started | fresh
  · rw [hasElapsed_of_readable started readable]
    by_cases running : a.Running now
    · rw [if_pos running]
      show (if decide (¬ a.Running now) then _ else _) = _
      rw [if_neg (by simpa using running)]
      rfl
    · rw [if_neg running]
      show (if decide (¬ a.Running now) then _ else _) = _
      rw [if_pos (decide_eq_true running)]
      rfl
  · have stopped : ¬ a.Running now := fun running => absurd running.1 (by rw [fresh]; decide)
    have undecided : a.hasElapsed now = .ok false := by
      unfold hasElapsed
      rw [if_pos (by rw [fresh]; decide)]
      rfl
    rw [undecided, if_neg stopped, ← clean fresh]
    rfl

theorem consumedAt_of_late {fault : Fault} (enforced : a.cfg.enforce = true)
    (started : a.started = true) (failed : now.elapsedSince a.windowStart = .error fault) :
    a.consumedAt now = .error fault := by
  unfold consumedAt hasElapsed
  rw [if_neg (by rw [enforced]; decide), if_neg (by rw [started]; decide), failed]
  rfl

/-- The query `consumed(now)` returns exactly when the time can be taken. -/
theorem consumedAt_isOk (enforced : a.cfg.enforce = true) (clean : a.Clean) :
    (a.consumedAt now).isOk = decide (a.Readable now) := by
  by_cases readable : a.Readable now
  · rw [consumedAt_of_readable enforced clean readable, decide_eq_true readable]
    rfl
  · obtain ⟨started, overflows⟩ := Classical.not_imp.mp readable
    obtain ⟨fault, failed⟩ := Timestamp.elapsedSince_faults overflows
    rw [consumedAt_of_late enforced started failed, decide_eq_false readable]
    rfl

/-! ## The answers -/

/-- An amount fits on top of what counts as consumed. -/
def fits (cfg : EnergyWindow) (used j : Joules) : Bool :=
  decide (j.value ≤ max 0 (cfg.budget.value - used.value) + 1 / 1000000000)

theorem remaining_eq (enforced : a.cfg.enforce = true) :
    a.remaining now = (a.consumedAt now).map
      fun used => Joules.clamped (a.cfg.budget.value - used.value) := by
  unfold remaining consumedAt
  rw [if_neg (by rw [enforced]; decide), if_neg (by rw [enforced]; decide)]
  cases a.hasElapsed now with
  | error fault => rfl
  | ok elapsed =>
      cases elapsed with
      | false => rfl
      | true =>
          refine congrArg Except.ok (Quantity.ext ?_)
          rw [Joules.clamped_value, Joules.zero_value, sub_zero, max_eq_right a.cfg.budget.nonneg]

theorem canConsume_eq (enforced : a.cfg.enforce = true) (j : Joules) :
    a.canConsume j now = (a.consumedAt now).map fun used => fits a.cfg used j := by
  unfold canConsume
  rw [if_neg (by rw [enforced]; decide), remaining_eq enforced]
  cases a.consumedAt now with
  | error fault => rfl
  | ok used =>
      show Except.ok (_ && decide (0 ≤ j.value)) = Except.ok _
      rw [decide_eq_true j.nonneg, Bool.and_true]
      rfl

/-- Where the window starts that a `consume` counts in. -/
def startAt (a : EnergyWindowAccount) (now : Timestamp) : Timestamp :=
  if a.Running now then a.windowStart else now

/-- The account with an open window. -/
def opened (a : EnergyWindowAccount) (now : Timestamp) (consumed : Joules) :
    EnergyWindowAccount :=
  ⟨a.cfg, consumed, a.startAt now, true⟩

/-- What a `consume` leaves as consumed. -/
def charged (cfg : EnergyWindow) (used j : Joules) : Joules :=
  if fits cfg used j then Joules.clamped (used.value + j.value) else used

/-- Before its test `consume` writes what counts as consumed and where the window starts. -/
theorem Opens.eq_opened {a' : EnergyWindowAccount} (clean : a.Clean) (opens : Opens a now a') :
    a.Readable now ∧ a' = a.opened now (a.used now) := by
  unfold opened startAt used
  cases opens with
  | started fresh =>
      have stopped : ¬ a.Running now := fun running => absurd running.1 (by rw [fresh]; decide)
      rw [if_neg stopped, if_neg stopped, ← clean fresh]
      exact ⟨fun started => absurd started (by rw [fresh]; decide), rfl⟩
  | refilled running returned ended =>
      have stopped : ¬ a.Running now := fun still =>
        absurd still.2 (by rw [← Timestamp.elapsedSince_eq_ok.mp returned]; exact not_lt.mpr ended)
      rw [if_neg stopped, if_neg stopped, running]
      exact ⟨fun _ => Timestamp.elapsedSince_returns_iff.mp ⟨_, returned⟩, rfl⟩
  | settled running returned within =>
      have still : a.Running now :=
        ⟨running, by rw [← Timestamp.elapsedSince_eq_ok.mp returned]; exact within⟩
      rw [if_pos still, if_pos still, ← running]
      exact ⟨fun _ => Timestamp.elapsedSince_returns_iff.mp ⟨_, returned⟩, rfl⟩

theorem consumedAt_opened (enforced : a.cfg.enforce = true) (readable : a.Readable now) :
    (a.opened now (a.used now)).consumedAt now = .ok (a.used now) := by
  have same : (a.opened now (a.used now)).used now = a.used now := by
    unfold used opened startAt
    by_cases running : a.Running now
    · rw [if_pos running, if_pos running]
      exact if_pos ⟨rfl, running.2⟩
    · rw [if_neg running, ite_self]
  rw [consumedAt_of_readable (a := a.opened now (a.used now)) enforced nofun, same]
  intro _
  unfold opened startAt
  split
  · rename_i running
    exact readable running.1
  · exact Timestamp.elapsedSince_returns_iff.mp ⟨_, now.elapsedSince_self⟩

/-- What `consume` does, in terms of what counts as consumed. -/
theorem exec_consume (enforced : a.cfg.enforce = true) (clean : a.Clean) (j : Joules) :
    (consume j now).exec a = match a.consumedAt now with
      | .error fault => (.error fault, a)
      | .ok used => (.ok (fits a.cfg used j), a.opened now (charged a.cfg used j)) := by
  rcases consume_cases enforced j now with ⟨fault, started, failed, thrown⟩ | ⟨a', opens, exec⟩
  · rw [thrown, consumedAt_of_late enforced started failed]
  · obtain ⟨readable, rfl⟩ := opens.eq_opened clean
    rw [exec, consumedAt_of_readable enforced clean readable]
    unfold consumeOpen charged
    rw [Stateful.exec_bind_of_ok (Stateful.exec_get _),
      canConsume_eq (a := a.opened now (a.used now)) enforced, consumedAt_opened enforced readable]
    show Stateful.exec (if !fits a.cfg (a.used now) j then _ else _) _ =
      (Except.ok (fits a.cfg (a.used now) j),
        a.opened now (if fits a.cfg (a.used now) j then _ else _))
    cases fits a.cfg (a.used now) j <;> rfl

end EnergyWindowAccount

namespace AccountCall

/-- The answer, given what counts as consumed. -/
def reply (cfg : EnergyWindow) (used : Joules) : AccountCall → AccountAnswer
  | .remaining _ => .joules (Joules.clamped (cfg.budget.value - used.value))
  | .canConsume j _ | .consume j _ => .accepted (EnergyWindowAccount.fits cfg used j)
  | .consumed _ => .joules used

/-- The account left behind, given what counts as consumed. -/
def leaves (a : EnergyWindowAccount) (used : Joules) : AccountCall → EnergyWindowAccount
  | .consume j now => a.opened now (EnergyWindowAccount.charged a.cfg used j)
  | _ => a

end AccountCall

namespace EnergyWindowAccount

variable {a s t : EnergyWindowAccount} {now : Timestamp}

/-- A call reads nothing of an account but its limits, what counts as consumed and where the
window starts. -/
theorem step_eq (enforced : a.cfg.enforce = true) (clean : a.Clean) (call : AccountCall) :
    a.step call = match a.consumedAt call.now with
      | .error fault => (.error fault, a)
      | .ok used => (.ok (call.reply a.cfg used), call.leaves a used) := by
  cases call with
  | remaining now =>
      show (Stateful.ofExcept (a.remaining now) >>= _).exec a = match a.consumedAt now with
        | .error fault => _
        | .ok used => _
      rw [remaining_eq enforced]
      cases a.consumedAt now <;> rfl
  | canConsume j now =>
      show (Stateful.ofExcept (a.canConsume j now) >>= _).exec a = match a.consumedAt now with
        | .error fault => _
        | .ok used => _
      rw [canConsume_eq enforced]
      cases a.consumedAt now <;> rfl
  | consume j now =>
      show (consume j now >>= _).exec a = match a.consumedAt now with
        | .error fault => _
        | .ok used => _
      rw [Stateful.exec_bind, exec_consume enforced clean]
      cases a.consumedAt now <;> rfl
  | consumed now =>
      show (Stateful.ofExcept (a.consumedAt now) >>= _).exec a = match a.consumedAt now with
        | .error fault => _
        | .ok used => _
      cases a.consumedAt now <;> rfl

theorem step_of_readable (enforced : a.cfg.enforce = true) (clean : a.Clean) (call : AccountCall)
    (readable : a.Readable call.now) : a.step call =
      (.ok (call.reply a.cfg (a.used call.now)), call.leaves a (a.used call.now)) := by
  rw [step_eq enforced clean, consumedAt_of_readable enforced clean readable]

/-- A call returns exactly when the time can be taken. -/
theorem step_isOk (enforced : a.cfg.enforce = true) (clean : a.Clean) (call : AccountCall) :
    (a.step call).1.isOk = decide (a.Readable call.now) := by
  rw [step_eq enforced clean, ← consumedAt_isOk enforced clean]
  cases a.consumedAt call.now <;> rfl

/-- Every call keeps the limits and a clean account clean. -/
theorem clean_step (enforced : a.cfg.enforce = true) (clean : a.Clean) (call : AccountCall) :
    (a.step call).2.cfg = a.cfg ∧ (a.step call).2.Clean := by
  rw [step_eq enforced clean]
  cases a.consumedAt call.now with
  | error fault => exact ⟨rfl, clean⟩
  | ok used =>
      cases call with
      | consume j now => exact ⟨rfl, nofun⟩
      | remaining _ | canConsume _ _ | consumed _ => exact ⟨rfl, clean⟩

theorem clean_after (enforced : a.cfg.enforce = true) (clean : a.Clean)
    (calls : List AccountCall) : (a.after calls).cfg = a.cfg ∧ (a.after calls).Clean := by
  induction calls generalizing a with
  | nil => exact ⟨rfl, clean⟩
  | cons call rest inductionHypothesis =>
      obtain ⟨same, kept⟩ := clean_step enforced clean call
      have further := inductionHypothesis (same.symm ▸ enforced) kept
      exact ⟨further.1.trans same, further.2⟩

/-! ## Accounts that answer alike -/

/-- A window that is open from now on outlasts every timestamp. -/
def Endless (a : EnergyWindowAccount) (now : Timestamp) : Prop :=
  Timestamp.lastNs < now.ns + a.cfg.window.ns

instance (a : EnergyWindowAccount) (now : Timestamp) : Decidable (a.Endless now) :=
  inferInstanceAs (Decidable (Timestamp.lastNs < now.ns + a.cfg.window.ns))

theorem Endless.running (endless : a.Endless now) (started : a.started = true)
    (since : now.ns ≤ a.windowStart.ns) (later : Timestamp) :
    a.Running later ∧ a.Readable later := by
  have bound := a.cfg.window.bounded
  have last := later.upper
  have first := now.upper
  unfold Endless Timestamp.lastNs at endless
  unfold Running Readable Timestamp.ElapsedFits
  constructor
  · exact ⟨started, by omega⟩
  · intro _
    omega

/-- From now on the accounts answer alike: they count the same as consumed and open the same
windows, or windows that never end. -/
structure Alike (now : Timestamp) (s t : EnergyWindowAccount) : Prop where
  cfg : t.cfg = s.cfg
  enforced : s.cfg.enforce = true
  clean : s.Clean ∧ t.Clean
  level : ∀ later : Timestamp, now.ns ≤ later.ns → s.consumedAt later = t.consumedAt later
  start : ∀ later : Timestamp, now.ns ≤ later.ns → s.startAt later = t.startAt later ∨
    s.Endless now ∧ now.ns ≤ (s.startAt later).ns ∧ now.ns ≤ (t.startAt later).ns

theorem Alike.refl (enforced : s.cfg.enforce = true) (clean : s.Clean) : Alike now s s :=
  ⟨rfl, enforced, ⟨clean, clean⟩, fun _ _ => rfl, fun _ _ => .inl rfl⟩

/-- Windows that never end count the same for ever. -/
theorem Alike.of_endless (enforced : s.cfg.enforce = true) (endless : s.Endless now)
    (same : t.cfg = s.cfg) (consumed : t.consumed = s.consumed)
    (started : s.started = true ∧ t.started = true)
    (since : now.ns ≤ s.windowStart.ns ∧ now.ns ≤ t.windowStart.ns) : Alike now s t := by
  have clean : s.Clean ∧ t.Clean :=
    ⟨fun fresh => absurd started.1 (by rw [fresh]; decide),
      fun fresh => absurd started.2 (by rw [fresh]; decide)⟩
  have endless' : t.Endless now := by
    unfold Endless
    rw [same]
    exact endless
  refine ⟨same, enforced, clean, fun later _ => ?_, fun later _ => ?_⟩
  · obtain ⟨left, readLeft⟩ := endless.running started.1 since.1 later
    obtain ⟨right, readRight⟩ := endless'.running started.2 since.2 later
    rw [consumedAt_of_readable enforced clean.1 readLeft,
      consumedAt_of_readable (same.symm ▸ enforced) clean.2 readRight, used, used, if_pos left,
      if_pos right, consumed]
  · unfold startAt
    rw [if_pos (endless.running started.1 since.1 later).1,
      if_pos (endless'.running started.2 since.2 later).1]
    exact .inr ⟨endless, since⟩

theorem Alike.step (alike : Alike now s t) (call : AccountCall) (later : now.ns ≤ call.now.ns) :
    (s.step call).1 = (t.step call).1 ∧ Alike now (s.step call).2 (t.step call).2 := by
  have enforced : t.cfg.enforce = true := alike.cfg.symm ▸ alike.enforced
  rw [step_eq alike.enforced alike.clean.1, step_eq enforced alike.clean.2,
    ← alike.level call.now later, alike.cfg]
  cases s.consumedAt call.now with
  | error fault => exact ⟨rfl, alike⟩
  | ok used =>
      refine ⟨rfl, ?_⟩
      cases call with
      | remaining _ | canConsume _ _ | consumed _ => exact alike
      | consume j now' =>
          show Alike now (s.opened now' (charged s.cfg used j))
            (t.opened now' (charged t.cfg used j))
          rcases alike.start now' later with same | ⟨endless, since⟩
          · unfold opened
            rw [alike.cfg, ← same]
            exact .refl alike.enforced nofun
          · refine .of_endless alike.enforced endless alike.cfg ?_ ⟨rfl, rfl⟩ since
            show charged t.cfg used j = charged s.cfg used j
            rw [alike.cfg]

/-! ## Refusals -/

/-- No calls at this time or later, in the order of their times, answer otherwise for a
`consume` before them. -/
def LeavesNoTrace (a : EnergyWindowAccount) (j : Joules) (now : Timestamp) : Prop :=
  ∀ later : List AccountCall, Timestamp.Ordered (now :: later.map AccountCall.now) →
    answers step ((consume j now).exec a).2 later = answers step a later

/-- The window is running, or no later time can tell from when on it is: it is as short as
the clock ticks or outlasts every timestamp, and no time is too far from either start. -/
def HidesRefusal (a : EnergyWindowAccount) (now : Timestamp) : Prop :=
  a.Running now ∨ (a.cfg.window.ns ≤ 1 ∨ a.Endless now) ∧
    if a.started then
      a.windowStart = now ∨ Timestamp.lastNs ≤ min a.windowStart.ns now.ns + kMaxNs
    else Timestamp.lastNs ≤ now.ns + kMaxNs

instance (a : EnergyWindowAccount) (now : Timestamp) : Decidable (a.HidesRefusal now) := by
  unfold HidesRefusal
  infer_instance

/-- The account whose window a refused `consume` has started or refilled. -/
def restarted (a : EnergyWindowAccount) (now : Timestamp) : EnergyWindowAccount :=
  ⟨a.cfg, Joules.zero, now, true⟩

theorem exec_of_refused (enforced : a.cfg.enforce = true) (clean : a.Clean) {j : Joules}
    (refused : ((consume j now).exec a).1 = .ok false) :
    a.Readable now ∧ ((consume j now).exec a).2 = if a.Running now then a else a.restarted now := by
  have readable : a.Readable now := by
    by_contra late
    have failed : (a.consumedAt now).isOk = decide (a.Readable now) :=
      consumedAt_isOk enforced clean
    rw [decide_eq_false late] at failed
    rw [exec_consume enforced clean] at refused
    cases read : a.consumedAt now with
    | error fault =>
        rw [read] at refused
        cases refused
    | ok used =>
        rw [read] at failed
        cases failed
  rw [exec_consume enforced clean, consumedAt_of_readable enforced clean readable] at refused ⊢
  have unfit : fits a.cfg (a.used now) j = false := Except.ok.inj refused
  refine ⟨readable, ?_⟩
  show a.opened now (charged a.cfg (a.used now) j) = _
  rw [charged, unfit, if_neg Bool.false_ne_true]
  unfold opened startAt used restarted
  split
  · rename_i running
    rw [← running.1]
  · rfl

theorem not_running_of_later (stopped : ¬ a.Running now) {later : Timestamp}
    (after : now.ns ≤ later.ns) : ¬ a.Running later := by
  unfold Running at stopped ⊢
  rintro ⟨started, within⟩
  exact stopped ⟨started, by omega⟩

/-- A restarted window that no later time can tell from the old one. -/
theorem alike_restarted (enforced : a.cfg.enforce = true) (clean : a.Clean)
    (stopped : ¬ a.Running now) (hides : a.HidesRefusal now) : Alike now (a.restarted now) a := by
  obtain ⟨length, near⟩ := hides.resolve_left stopped
  have clean' : (a.restarted now).Clean := nofun
  refine ⟨rfl, enforced, ⟨clean', clean⟩, fun later after => ?_, fun later after => ?_⟩
  · have last := later.upper
    have nothing : (a.restarted now).used later = a.used later := by
      rw [used, used, if_neg (not_running_of_later stopped after)]
      exact ite_self _
    have read : (a.restarted now).Readable later → a.Readable later →
        (a.restarted now).consumedAt later = a.consumedAt later := by
      intro readable readable'
      rw [consumedAt_of_readable (a := a.restarted now) enforced clean' readable,
        consumedAt_of_readable enforced clean readable', nothing]
    unfold Timestamp.lastNs at near
    rcases Bool.eq_false_or_eq_true a.started with started | fresh
    · rw [if_pos started] at near
      rcases near with same | near
      · cases returned : later.elapsedSince now with
        | error fault =>
            rw [consumedAt_of_late (a := a.restarted now) enforced rfl returned,
              consumedAt_of_late enforced started (same.symm ▸ returned)]
        | ok elapsed =>
            have fits := Timestamp.elapsedSince_returns_iff.mp ⟨elapsed, returned⟩
            exact read (fun _ => fits) fun _ => same.symm ▸ fits
      · apply read
        · intro _
          show later.ns - now.ns ≤ kMaxNs
          omega
        · intro _
          show later.ns - a.windowStart.ns ≤ kMaxNs
          omega
    · rw [if_neg (by rw [fresh]; decide)] at near
      apply read
      · intro _
        show later.ns - now.ns ≤ kMaxNs
        omega
      · exact fun started => absurd started (by rw [fresh]; decide)
  · unfold startAt
    rw [if_neg (not_running_of_later stopped after)]
    rcases length with short | endless
    · left
      split
      · rename_i running
        have within : max 0 (later.ns - now.ns) < a.cfg.window.ns := running.2
        apply Timestamp.ext
        show now.ns = later.ns
        omega
      · rfl
    · right
      have endless' : (a.restarted now).Endless now := endless
      rw [if_pos (endless'.running rfl (le_refl _) later).1]
      exact ⟨endless', le_refl _, after⟩

/-- A billionth of a joule, which fits even on an exhausted budget. -/
def tiny : Joules := ⟨1 / 1000000000, by decide +kernel⟩

theorem charged_tiny (cfg : EnergyWindow) : charged cfg Joules.zero tiny = tiny := by
  have fits : fits cfg Joules.zero tiny = true :=
    decide_eq_true (le_add_of_nonneg_left (le_max_left 0 _))
  rw [charged, if_pos fits]
  apply Quantity.ext
  rw [Joules.clamped_value, Joules.zero_value, zero_add, max_eq_right tiny.nonneg]

/-- Where a refusal leaves no trace, the same later times can be taken. -/
theorem readable_iff_of_restarted (enforced : a.cfg.enforce = true) (clean : a.Clean)
    {later : Timestamp}
    (same : answers step (a.restarted now) [.consumed later] = answers step a [.consumed later]) :
    (a.restarted now).Readable later ↔ a.Readable later := by
  have answer := congrArg Except.isOk (List.head_eq_of_cons_eq same)
  rw [step_isOk (a := a.restarted now) enforced nofun, step_isOk enforced clean] at answer
  exact decide_eq_decide.mp answer

/-- Right after a refusal that restarts the window a charge counts in the restarted window,
and without the refusal in a later one. -/
theorem answers_of_longer (enforced : a.cfg.enforce = true) (clean : a.Clean)
    (stopped : ¬ a.Running now) {next ended : Timestamp} (soon : next.ns = now.ns + 1)
    (atEnd : ended.ns = now.ns + a.cfg.window.ns) (long : 1 < a.cfg.window.ns)
    (readable : a.Readable next) :
    answers step (a.restarted now) [.consume tiny next, .consumed ended] ≠
      answers step a [.consume tiny next, .consumed ended] := by
  have bound := a.cfg.window.bounded
  have still : (a.restarted now).Running next := by
    refine ⟨rfl, ?_⟩
    show max 0 (next.ns - now.ns) < a.cfg.window.ns
    omega
  have readable' : (a.restarted now).Readable next := by
    intro _
    show next.ns - now.ns ≤ kMaxNs
    omega
  have stopped' : ¬ a.Running next := not_running_of_later stopped (by omega)
  -- The charge counts from `now` in one account and from `next` in the other.
  have left : ((a.restarted now).step (.consume tiny next)).2 = ⟨a.cfg, tiny, now, true⟩ := by
    rw [step_of_readable (a := a.restarted now) enforced nofun (.consume tiny next) readable']
    show (⟨a.cfg, charged a.cfg ((a.restarted now).used next) tiny,
      (a.restarted now).startAt next, true⟩ : EnergyWindowAccount) = _
    rw [used, if_pos still, startAt, if_pos still]
    exact congrArg (EnergyWindowAccount.mk a.cfg · now true) (charged_tiny a.cfg)
  have right : (a.step (.consume tiny next)).2 = ⟨a.cfg, tiny, next, true⟩ := by
    rw [step_of_readable enforced clean (.consume tiny next) readable]
    show (⟨a.cfg, charged a.cfg (a.used next) tiny, a.startAt next, true⟩ :
      EnergyWindowAccount) = _
    rw [used, if_neg stopped', startAt, if_neg stopped', charged_tiny]
  have elapsed : (⟨a.cfg, tiny, now, true⟩ : EnergyWindowAccount).used ended = Joules.zero :=
    if_neg fun running => absurd running.2 (by dsimp only; omega)
  have counted : (⟨a.cfg, tiny, next, true⟩ : EnergyWindowAccount).used ended = tiny :=
    if_pos ⟨rfl, by dsimp only; omega⟩
  intro same
  have second := List.head_eq_of_cons_eq (List.tail_eq_of_cons_eq same)
  rw [left, right] at second
  rw [step_of_readable (a := ⟨a.cfg, tiny, now, true⟩) enforced nofun (.consumed ended),
    step_of_readable (a := ⟨a.cfg, tiny, next, true⟩) enforced nofun (.consumed ended)] at second
  · have amounts : Joules.zero = tiny :=
      elapsed.symm.trans ((AccountAnswer.joules.inj (Except.ok.inj second)).trans counted)
    exact absurd (congrArg Quantity.value amounts) (by decide +kernel)
  · intro _
    show ended.ns - next.ns ≤ kMaxNs
    omega
  · intro _
    show ended.ns - now.ns ≤ kMaxNs
    omega

/-- A refusal that restarts a window of more than one tick leaves a trace where the window
ends before the clock does. -/
theorem length_of_answers (enforced : a.cfg.enforce = true) (clean : a.Clean)
    (stopped : ¬ a.Running now)
    (same : ∀ later : List AccountCall, Timestamp.Ordered (now :: later.map AccountCall.now) →
      answers step (a.restarted now) later = answers step a later) :
    a.cfg.window.ns ≤ 1 ∨ a.Endless now := by
  by_contra long
  obtain ⟨long, ends⟩ := not_or.mp long
  have bound := a.cfg.window.bounded
  have shortest := a.cfg.window.nonneg
  have first := now.lower
  have last := now.upper
  unfold Endless Timestamp.lastNs at ends
  let next : Timestamp := ⟨now.ns + 1, by omega, by omega⟩
  let ended : Timestamp := ⟨now.ns + a.cfg.window.ns, by omega, by omega⟩
  have soon : (a.restarted now).Readable next := by
    intro _
    show now.ns + 1 - now.ns ≤ kMaxNs
    unfold kMaxNs
    omega
  have order : now.ns ≤ now.ns + 1 ∧ now.ns ≤ now.ns + a.cfg.window.ns ∧
      now.ns + 1 ≤ now.ns + a.cfg.window.ns := by omega
  have later : next.ns = now.ns + 1 := rfl
  have atEnd : ended.ns = now.ns + a.cfg.window.ns := rfl
  have fromNow : ∀ u ∈ [next], now.ns ≤ u.ns := List.forall_mem_singleton.mpr order.1
  have bothFromNow : ∀ u ∈ [next, ended], now.ns ≤ u.ns :=
    List.forall_mem_cons.mpr ⟨order.1, List.forall_mem_singleton.mpr order.2.1⟩
  have fromNext : ∀ u ∈ [ended], next.ns ≤ u.ns := List.forall_mem_singleton.mpr order.2.2
  have readable : a.Readable next := by
    refine (readable_iff_of_restarted enforced clean (same _ ?_)).mp soon
    exact .cons fromNow (List.pairwise_singleton _ next)
  refine answers_of_longer enforced clean stopped later atEnd (not_le.mp long) readable (same _ ?_)
  exact .cons bothFromNow (.cons fromNext (List.pairwise_singleton _ ended))

/-- Where the restarted window can be read at the same later times as the old one, none is
too far from either start. -/
theorem reach_of_readable (readable : a.Readable now)
    (alike : ∀ later : Timestamp, now.ns ≤ later.ns →
      ((a.restarted now).Readable later ↔ a.Readable later)) :
    if a.started then
      a.windowStart = now ∨ Timestamp.lastNs ≤ min a.windowStart.ns now.ns + kMaxNs
    else Timestamp.lastNs ≤ now.ns + kMaxNs := by
  have first := now.lower
  have restarted : ∀ later : Timestamp,
      (a.restarted now).Readable later ↔ later.ns - now.ns ≤ kMaxNs :=
    fun later => ⟨fun fits => fits rfl, fun fits _ => fits⟩
  unfold Timestamp.lastNs
  rcases Bool.eq_false_or_eq_true a.started with started | fresh
  · rw [if_pos started]
    by_contra near
    obtain ⟨moved, far⟩ := not_or.mp near
    have different : a.windowStart.ns ≠ now.ns := fun equal => moved (Timestamp.ext equal)
    have taken : now.ns - a.windowStart.ns ≤ kMaxNs := readable started
    have earliest := a.windowStart.lower
    unfold kMaxNs at far taken
    -- The first time that is too far from the earlier of the two starts.
    let late : Timestamp :=
      ⟨min a.windowStart.ns now.ns + 4611686018427387904, by omega, by omega⟩
    have iff := alike late (by dsimp only [late]; omega)
    have old : a.Readable late ↔ late.ns - a.windowStart.ns ≤ kMaxNs :=
      ⟨fun fits => fits started, fun fits _ => fits⟩
    rw [restarted, old] at iff
    dsimp only [late] at iff
    unfold kMaxNs at iff
    omega
  · rw [if_neg (by rw [fresh]; decide)]
    by_contra far
    unfold kMaxNs at far
    let late : Timestamp := ⟨now.ns + 4611686018427387904, by omega, by omega⟩
    have unstarted : a.Readable late := fun started => absurd started (by rw [fresh]; decide)
    have fits := (restarted late).mp ((alike late (by dsimp only [late]; omega)).mpr unstarted)
    dsimp only [late] at fits
    unfold kMaxNs at fits
    omega

/-- A refusal that restarts the window leaves no trace only where no later time can tell. -/
theorem hidesRefusal_of_answers (enforced : a.cfg.enforce = true) (clean : a.Clean)
    (readable : a.Readable now) (stopped : ¬ a.Running now)
    (same : ∀ later : List AccountCall, Timestamp.Ordered (now :: later.map AccountCall.now) →
      answers step (a.restarted now) later = answers step a later) : a.HidesRefusal now := by
  refine .inr ⟨length_of_answers enforced clean stopped same, reach_of_readable readable ?_⟩
  intro later after
  refine readable_iff_of_restarted enforced clean (same _ ?_)
  exact .cons (List.forall_mem_singleton.mpr after) (List.pairwise_singleton _ later)

/-- In every state that calls lead to, a refused `consume` leaves no trace exactly when the
window was running or no later time can tell from when on it is. -/
theorem refused_consume_leaves_no_trace_iff (cfg : EnergyWindow) (enforced : cfg.enforce = true)
    (history : List AccountCall) (j : Joules) (now : Timestamp)
    (refused : ((consume j now).exec ((construct cfg).after history)).1 = .ok false) :
    ((construct cfg).after history).LeavesNoTrace j now ↔
      ((construct cfg).after history).HidesRefusal now := by
  obtain ⟨limits, clean⟩ := clean_after (a := construct cfg) enforced (fun _ => rfl) history
  generalize (construct cfg).after history = a at *
  have enforced : a.cfg.enforce = true := limits.symm ▸ enforced
  obtain ⟨readable, left⟩ := exec_of_refused enforced clean refused
  unfold LeavesNoTrace
  rw [left]
  by_cases running : a.Running now
  · rw [if_pos running]
    exact ⟨fun _ => .inl running, fun _ _ _ => rfl⟩
  · rw [if_neg running]
    constructor
    · exact hidesRefusal_of_answers enforced clean readable running
    · intro hides later ordered
      refine answers_eq_of_related_on (Alike now) (fun call => now.ns ≤ call.now.ns)
        (fun s t call alike after => alike.step call after)
        (alike_restarted enforced clean running hides) fun call member => ?_
      exact (List.pairwise_cons.mp ordered).1 call.now (List.mem_map_of_mem member)

/-- 50 J over a second. -/
def fiftyJoules : EnergyWindow := ⟨⟨50, fifty_admitted⟩, Duration.oneSecond, true⟩

/-- Half a second into its window an account hides the refusal of a second 50 J. -/
theorem refused_consume_leaves_no_trace_iff_running :
    ((construct fiftyJoules).after [.consume fiftyJoules.budget Timestamp.zero]).LeavesNoTrace
      fiftyJoules.budget .halfSecond := by
  refine (refused_consume_leaves_no_trace_iff fiftyJoules rfl
    [.consume fiftyJoules.budget Timestamp.zero] _ _ ?_).mpr ?_
  · decide +kernel
  · decide +kernel

/-- A refused 60 J starts the window: with it 50 J are accepted after a second and again
after a second and a half, and without it the second 50 J are refused. -/
theorem refused_consume_moves_window :
    ((consume ⟨60, by decide +kernel⟩ .halfSecond).exec (construct fiftyJoules)).1 = .ok false ∧
      ¬ (construct fiftyJoules).LeavesNoTrace ⟨60, by decide +kernel⟩ .halfSecond := by
  refine ⟨by decide +kernel, fun noTrace => ?_⟩
  have same := noTrace [.consume fiftyJoules.budget .fullSecond,
    .consume fiftyJoules.budget ⟨1500000000, by decide, by decide⟩] (by decide)
  have after : answers step _ _ = [.ok (.accepted true), .ok (.accepted true)] :=
    same.symm.trans (by decide +kernel)
  have without : answers step (construct fiftyJoules) [.consume fiftyJoules.budget .fullSecond,
      .consume fiftyJoules.budget ⟨1500000000, by decide, by decide⟩] =
      [.ok (.accepted true), .ok (.accepted false)] := by decide +kernel
  cases without.symm.trans after

end EnergyWindowAccount

end PowerGovernor
