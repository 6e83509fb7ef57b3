import PowerGovernor.Budget.Capacity
import PowerGovernor.Library.Stateful
import PowerGovernor.Reservation.Effect
import PowerGovernor.Reservation.Identity

/-!
All or nothing.

Owns what a refused and a granted chain mutation change, the lifecycle operations write
by write, so that what a throw leaves behind is seen, their agreement with the calls as a
whole, and what a call that does not succeed changes of the books.
-/

set_option autoImplicit false

namespace PowerGovernor

/-! ## Chain mutations -/

/-- The counter of a budget with an amount added. -/
def BudgetState.plus (counter : Counter) (amount : Watts) (s : BudgetState) : BudgetState :=
  s.set counter
    ⟨(s.get counter).value + amount.value, add_nonneg (s.get counter).nonneg amount.nonneg⟩

namespace BudgetManager

variable {m : BudgetManager}

/-- The counter of every listed budget has grown by the amount and nothing else changed. -/
structure Adds (counter : Counter) (amount : Watts) (ids : List BudgetId)
    (m m' : BudgetManager) : Prop where
  listed : ∀ b ∈ ids, ∃ s, m.state? b = some s ∧ m'.state? b = some (s.plus counter amount)
  unlisted : ∀ b, b ∉ ids → m'.state? b = m.state? b

/-- A refusal changes nothing. -/
theorem exec_of_refused (m : BudgetManager) (call : BudgetCall)
    (refused : (call.exec m).2 = false) : (call.exec m).1 = m := by
  have ofBook : ∀ counter needsAuthority id amount budgetGen,
      (book counter needsAuthority m id amount budgetGen).2 = false →
        (book counter needsAuthority m id amount budgetGen).1 = m := by
    intro counter needsAuthority id amount budgetGen refused
    rcases book_cases counter needsAuthority m id amount budgetGen with ⟨same, _⟩ | ⟨taken, _⟩
    · rw [same]
    · rw [taken] at refused
      cases refused
  have ofUnbook : ∀ counter id amount budgetGen,
      (unbook counter m id amount budgetGen).2 = false →
        (unbook counter m id amount budgetGen).1 = m := by
    intro counter id amount budgetGen refused
    rcases unbook_cases counter m id amount budgetGen with ⟨same, _⟩ | ⟨taken, _⟩
    · rw [same]
    · rw [taken] at refused
      cases refused
  cases call with
  | install b =>
      change (m.install b).2 = false at refused
      rcases m.install_cases b with ⟨_, added⟩ | ⟨_, _, _, same⟩ | ⟨_, _, _, replaced⟩
      · rw [added] at refused
        cases refused
      · exact congrArg Prod.fst same
      · rw [replaced] at refused
        cases refused
  | reserve id amount rid budgetGen => exact ofBook _ _ _ _ _ refused
  | activate id amount rid budgetGen => exact ofBook _ _ _ _ _ refused
  | release id amount rid budgetGen => exact ofUnbook _ _ _ _ refused
  | deactivate id amount rid budgetGen => exact ofUnbook _ _ _ _ refused

/-- No amount is cut off when it is added. -/
theorem bump_eq_plus (s : BudgetState) (counter : Counter) (amount : Watts) :
    s.bump counter amount.value = s.plus counter amount := by
  unfold BudgetState.bump BudgetState.plus
  congr 1
  apply Quantity.ext
  rw [Watts.clamped_value]
  exact max_eq_right (add_nonneg (s.get counter).nonneg amount.nonneg)

/-- A granted booking on a chain without repetition adds the amount on that chain. -/
theorem adds_of_booked {counter : Counter} {needsAuthority : Bool} {id : BudgetId}
    {amount : Watts} {budgetGen : BudgetGeneration} (nodup : (m.chain id).Nodup)
    (granted : (book counter needsAuthority m id amount budgetGen).2 = true) :
    Adds counter amount (m.chain id) m (book counter needsAuthority m id amount budgetGen).1 := by
  rcases book_cases counter needsAuthority m id amount budgetGen with
    ⟨refused, _⟩ | ⟨taken, bookable⟩
  · rw [refused] at granted
    cases granted
  · rw [taken]
    refine ⟨fun b onChain => ?_, fun b absent => state?_adjustChain_of_notMem absent⟩
    obtain ⟨s, installed, _⟩ := bookable.room b onChain
    refine ⟨s, installed, ?_⟩
    rw [state?_adjustChain_of_mem nodup onChain, installed, Option.map_some, bump_eq_plus]

end BudgetManager

/-! ## Operations write by write -/

namespace ReservationCall

/-- `mutable_get`. -/
def fetch (id : ReservationId) : Stateful Fault Books Reservation := do
  Stateful.ofExcept ((← get).reservations.mutableGet id)

/-- Assignments through the reference. -/
def assign (id : ReservationId) (f : Reservation → Reservation) (keeps : ∀ r, (f r).id = r.id) :
    Stateful Fault Books Unit :=
  modify fun s => s.write id f keeps s.budgets

/-- A call of the budget manager. -/
def onBudgets (operation : BudgetManager → BudgetManager × Bool) : Stateful Fault Books Bool := do
  let (budgets, ok) := operation (← get).budgets
  modify fun s => { s with budgets := budgets }
  return ok

def validateSteps (id : ReservationId) (policyGen : PolicyGeneration) :
    Stateful Fault Books ReservationResult := do
  let r ← fetch id
  if r.state ≠ .planned then return .refused "reservation not in PLANNED"
  else if r.policyGeneration ≠ policyGen then return .refused "policy generation mismatch"
  else
    assign id (fun r => { r with state := .validated }) fun _ => rfl
    return .accepted "validated"

def reserveSteps (id : ReservationId) (budgetGen : BudgetGeneration) (now : Timestamp) :
    Stateful Fault Books ReservationResult := do
  let r ← fetch id
  if r.state ≠ .validated ∧ r.state ≠ .planned then
    return .refused "reservation not reservable (already reserved/active/released)"
  else if ← Stateful.ofExcept (r.expired now) then
    assign id .lapsed Reservation.lapsed_id
    return .refused "reservation expired"
  else
    let ok ← onBudgets fun budgets => budgets.reserve r.budget r.requestedPower id budgetGen
    if !ok then return .refused "budget reserve failed (capacity/generation/authority)"
    else
      assign id (.reservedUnder budgetGen) (Reservation.reservedUnder_id budgetGen)
      return .accepted "reserved"

def admitSteps (id : ReservationId) (now : Timestamp) :
    Stateful Fault Books ReservationResult := do
  let r ← fetch id
  if r.state ≠ .reserved then return .refused "reservation not RESERVED"
  else if ← Stateful.ofExcept (r.expired now) then
    assign id .lapsed Reservation.lapsed_id
    return .refused "reservation expired"
  else
    assign id (fun r => { r with state := .admitted }) fun _ => rfl
    return .accepted "admitted"

def activateSteps (id : ReservationId) (budgetGen : BudgetGeneration) (now : Timestamp) :
    Stateful Fault Books ReservationResult := do
  let r ← fetch id
  if r.state ≠ .admitted ∧ r.state ≠ .reserved then
    return .refused "stale activation: reservation not admitted"
  else if ← Stateful.ofExcept (r.expired now) then
    assign id .lapsed Reservation.lapsed_id
    return .refused "reservation expired"
  else if r.budgetGeneration ≠ budgetGen then
    return .refused "stale activation: budget generation changed"
  else
    let ok ← onBudgets fun budgets => budgets.activate r.budget r.requestedPower id budgetGen
    if !ok then return .refused "budget activate failed"
    else
      assign id (.activeFrom now) (Reservation.activeFrom_id now)
      return .accepted "active"

theorem charged_id (energy : Joules) (r : Reservation) :
    { r with energyUsed := Joules.clampedDouble (r.energyUsed.value + energy.value) }.id = r.id :=
  rfl

def accountSteps (id : ReservationId) (energy : Joules) :
    Stateful Fault Books ReservationResult := do
  let r ← fetch id
  if r.state ≠ .active then return .refused "energy only accounted for ACTIVE"
  else if energy.value < 0 then return .refused "non-finite or negative energy"
  else
    assign id
      (fun r => { r with energyUsed := Joules.clampedDouble (r.energyUsed.value + energy.value) })
      (charged_id energy)
    return .accepted "accounted"

def releaseSteps (id : ReservationId) (budgetGen : BudgetGeneration) (now : Timestamp) :
    Stateful Fault Books ReservationResult := do
  let r ← fetch id
  if r.state = .released then return .refused "double release"
  else if r.state = .expired then return .refused "already expired"
  else if r.budgetGeneration.isNull ∧ (r.state = .admitted ∨ r.state = .active) then
    return .refused "release with unknown budget generation"
  else
    let released ← onBudgets fun budgets => budgets.release r.budget r.reservedPower id budgetGen
    if !released then
      return .refused "budget release failed (over-release/stale generation)"
    else
      if r.state = .active ∨ r.state = .admitted ∨ r.state = .reserved then
        let _ ← onBudgets fun budgets => budgets.deactivate r.budget r.reservedPower id budgetGen
      assign id (.releasedFrom now) (Reservation.releasedFrom_id now)
      return .accepted "released"

def planSteps (workload : WorkloadId) (powerClass : WorkloadPowerClass) (scope : PowerDomainId)
    (budget : BudgetId) (requestedPower : Watts) (requestedEnergy : Joules)
    (policyGen : PolicyGeneration) (deviceGen : DeviceGeneration) (authority : AuthorityEnvelope)
    (now : Timestamp) (validity : Duration) : Stateful Fault Books ReservationResult := do
  let (id, ids) := (← get).ids.allocateReservation
  modify fun s => { s with ids := ids }
  if (← get).reservations.map.contains id then return ⟨false, "duplicate reservation id", id⟩
  else
    modify fun s =>
      { s with
        reservations := ⟨s.reservations.map.emplace (ReservationManager.planned id workload
          powerClass scope budget requestedPower requestedEnergy policyGen deviceGen authority
          now validity)⟩ }
    return ⟨true, "planned", id⟩

def steps : ReservationCall → Stateful Fault Books ReservationResult
  | .plan workload powerClass scope budget requestedPower requestedEnergy policyGen deviceGen
      authority now validity =>
      planSteps workload powerClass scope budget requestedPower requestedEnergy policyGen deviceGen
        authority now validity
  | .validate id policyGen => validateSteps id policyGen
  | .reserve id budgetGen now => reserveSteps id budgetGen now
  | .admitReservation id now => admitSteps id now
  | .activate id budgetGen now => activateSteps id budgetGen now
  | .accountEnergy id energy _ _ => accountSteps id energy
  | .release id budgetGen now => releaseSteps id budgetGen now

/-! ## Agreement with the calls -/

section Agreement

variable {s : Books} {id : ReservationId}

@[simp] theorem exec_fetch : (fetch id).exec s = (s.reservations.mutableGet id, s) := rfl

@[simp] theorem exec_assign {f : Reservation → Reservation} {keeps : ∀ r, (f r).id = r.id} :
    (assign id f keeps).exec s = (.ok ⟨⟩, s.write id f keeps s.budgets) := rfl

@[simp] theorem exec_onBudgets {operation : BudgetManager → BudgetManager × Bool} :
    (onBudgets operation).exec s =
      (.ok (operation s.budgets).2, { s with budgets := (operation s.budgets).1 }) := rfl

/-- What a call ends in when nothing was written before it threw. -/
def settled (s : Books) :
    Except Fault (ReservationResult × Books) → Except Fault ReservationResult × Books
  | .ok (result, s') => (.ok result, s')
  | .error fault => (.error fault, s)

private theorem ok_bind {α β : Type} (a : α) (next : α → Except Fault β) :
    (Except.ok a >>= next) = next a := rfl

theorem exec_validateSteps (policyGen : PolicyGeneration) :
    (validateSteps id policyGen).exec s = settled s (exec s (.validate id policyGen)) := by
  unfold validateSteps
  rw [Stateful.exec_bind, exec_fetch]
  dsimp only [exec, ReservationManager.validate]
  cases s.reservations.mutableGet id with
  | error fault => rfl
  | ok r =>
      simp only [ok_bind]
      split
      · rfl
      split <;> rfl

theorem exec_reserveSteps (budgetGen : BudgetGeneration) (now : Timestamp) :
    (reserveSteps id budgetGen now).exec s = settled s (exec s (.reserve id budgetGen now)) := by
  unfold reserveSteps
  rw [Stateful.exec_bind, exec_fetch]
  dsimp only [exec, ReservationManager.reserve]
  cases s.reservations.mutableGet id with
  | error fault => rfl
  | ok r =>
      simp only [ok_bind]
      split
      · rfl
      rw [Stateful.exec_bind, Stateful.exec_ofExcept]
      cases r.expired now with
      | error fault => rfl
      | ok expired =>
          simp only [ok_bind]
          split
          · rfl
          rw [Stateful.exec_bind, exec_onBudgets]
          dsimp only
          split <;> rfl

theorem exec_admitSteps (now : Timestamp) :
    (admitSteps id now).exec s = settled s (exec s (.admitReservation id now)) := by
  unfold admitSteps
  rw [Stateful.exec_bind, exec_fetch]
  dsimp only [exec, ReservationManager.admitReservation]
  cases s.reservations.mutableGet id with
  | error fault => rfl
  | ok r =>
      simp only [ok_bind]
      split
      · rfl
      rw [Stateful.exec_bind, Stateful.exec_ofExcept]
      cases r.expired now with
      | error fault => rfl
      | ok expired =>
          simp only [ok_bind]
          split <;> rfl

theorem exec_activateSteps (budgetGen : BudgetGeneration) (now : Timestamp) :
    (activateSteps id budgetGen now).exec s = settled s (exec s (.activate id budgetGen now)) := by
  unfold activateSteps
  rw [Stateful.exec_bind, exec_fetch]
  dsimp only [exec, ReservationManager.activate]
  cases s.reservations.mutableGet id with
  | error fault => rfl
  | ok r =>
      simp only [ok_bind]
      split
      · rfl
      rw [Stateful.exec_bind, Stateful.exec_ofExcept]
      cases r.expired now with
      | error fault => rfl
      | ok expired =>
          simp only [ok_bind]
          split
          · rfl
          split
          · rfl
          rw [Stateful.exec_bind, exec_onBudgets]
          dsimp only
          split <;> rfl

theorem exec_accountSteps (energy : Joules) (provenance : EnergyProvenance) (now : Timestamp) :
    (accountSteps id energy).exec s =
      settled s (exec s (.accountEnergy id energy provenance now)) := by
  unfold accountSteps
  rw [Stateful.exec_bind, exec_fetch]
  dsimp only [exec, ReservationManager.accountEnergy]
  cases s.reservations.mutableGet id with
  | error fault => rfl
  | ok r =>
      simp only [ok_bind]
      split
      · rfl
      split <;> rfl

theorem exec_releaseSteps (budgetGen : BudgetGeneration) (now : Timestamp) :
    (releaseSteps id budgetGen now).exec s = settled s (exec s (.release id budgetGen now)) := by
  unfold releaseSteps
  rw [Stateful.exec_bind, exec_fetch]
  dsimp only [exec, ReservationManager.release]
  cases s.reservations.mutableGet id with
  | error fault => rfl
  | ok r =>
      simp only [ok_bind]
      split
      · rfl
      split
      · rfl
      split
      · rfl
      rw [Stateful.exec_bind, exec_onBudgets]
      dsimp only
      split
      · rfl
      split <;> rfl

/-- Written step by step, every operation ends as the call does, and in the state it
started from where the call throws. -/
theorem exec_steps (s : Books) (call : ReservationCall) :
    call.steps.exec s = settled s (call.exec s) := by
  cases call with
  | plan workload powerClass scope budget requestedPower requestedEnergy policyGen deviceGen
      authority now validity =>
      dsimp only [steps, planSteps, exec, ReservationManager.plan]
      simp only [Stateful.exec_bind, Stateful.exec_get, Stateful.exec_modify]
      split <;> rfl
  | validate id policyGen => exact exec_validateSteps policyGen
  | reserve id budgetGen now => exact exec_reserveSteps budgetGen now
  | admitReservation id now => exact exec_admitSteps now
  | activate id budgetGen now => exact exec_activateSteps budgetGen now
  | accountEnergy id energy provenance now => exact exec_accountSteps energy provenance now
  | release id budgetGen now => exact exec_releaseSteps budgetGen now

end Agreement

/-! ## Calls that do not succeed -/

/-- The time a call is made at. -/
def time? : ReservationCall → Option Timestamp
  | .plan _ _ _ _ _ _ _ _ _ now _ | .reserve _ _ now | .admitReservation _ now
  | .activate _ _ now | .accountEnergy _ _ _ now | .release _ _ now => some now
  | .validate _ _ => none

/-- A reservation is as it was, or the call names it and finds it past its validity and
marked so. -/
inductive Spares (s : Books) (call : ReservationCall) (s' : Books) (id : ReservationId) : Prop where
  | same (same : s'.reservations.find? id = s.reservations.find? id)
  | expired {r : Reservation} {now : Timestamp} (named : id = call.named s)
      (found : s.reservations.find? id = some r) (made : call.time? = some now)
      (elapsed : r.expired now = .ok true)
      (marked : s'.reservations.find? id = some { r with state := .expired })

/-- No budget is changed, and every reservation is spared. -/
structure Undone (s : Books) (call : ReservationCall) (s' : Books) : Prop where
  budgets : s'.budgets = s.budgets
  reservations : ∀ id, Spares s call s' id

section Undone

variable {s s' : Books} {call : ReservationCall} {result : ReservationResult}

theorem Undone.of_same (budgets : s'.budgets = s.budgets)
    (reservations : s'.reservations = s.reservations) : Undone s call s' :=
  ⟨budgets, fun _ => .same (by rw [reservations])⟩

theorem Undone.of_expired {r : Reservation} {now : Timestamp}
    (found : s.reservations.find? (call.named s) = some r) (made : call.time? = some now)
    (elapsed : r.expired now = .ok true) :
    Undone s call (s.write (call.named s) .lapsed Reservation.lapsed_id s.budgets) := by
  refine ⟨rfl, fun id => ?_⟩
  by_cases named : id = call.named s
  · subst named
    exact .expired rfl found made elapsed (Books.find?_write_self found)
  · exact .same (Books.find?_write_of_ne named)

/-- A call that returns a refusal is undone. -/
theorem undone_of_refused (returned : call.exec s = .ok (result, s'))
    (refused : result.ok = false) : Undone s call s' := by
  cases known : call.plans with
  | true =>
      cases call with
      | plan =>
          dsimp only [exec, ReservationManager.plan] at returned
          split at returned
          · cases returned
            exact .of_same rfl rfl
          · cases returned
            cases refused
      | _ => cases known
  | false =>
      cases returns known returned with
      | refused => exact .of_same rfl rfl
      | planLapsed found _ expired => exact .of_expired found rfl expired
      | lapsed lapses =>
          cases call with
          | admitReservation => exact .of_expired lapses.1 rfl lapses.2.2
          | activate => exact .of_expired lapses.1 rfl lapses.2.2
          | _ => exact lapses.elim
      | _ => cases refused

end Undone

end ReservationCall

/-- Budget and reservation operations are all or nothing. A chain mutation that returns
false changes nothing, one that books adds its amount to each budget of the chain, and a
lifecycle call that is refused or throws is undone. -/
theorem all_or_nothing :
    (∀ (m : BudgetManager) (call : BudgetCall), (call.exec m).2 = false → (call.exec m).1 = m) ∧
    (∀ (m : BudgetManager) (id : BudgetId) (amount : Watts) (rid : ReservationId)
      (budgetGen : BudgetGeneration), (m.chain id).Nodup →
      ((m.reserve id amount rid budgetGen).2 = true →
        BudgetManager.Adds .reserved amount (m.chain id) m
          (m.reserve id amount rid budgetGen).1) ∧
      ((m.activate id amount rid budgetGen).2 = true →
        BudgetManager.Adds .used amount (m.chain id) m
          (m.activate id amount rid budgetGen).1)) ∧
    ∀ (s : Books) (call : ReservationCall),
      (∀ result, (call.steps.exec s).1 = .ok result → result.ok = false) →
      ReservationCall.Undone s call (call.steps.exec s).2 := by
  refine ⟨BudgetManager.exec_of_refused, fun m id amount rid budgetGen nodup =>
    ⟨BudgetManager.adds_of_booked nodup, BudgetManager.adds_of_booked nodup⟩, ?_⟩
  intro s call failed
  rw [ReservationCall.exec_steps] at failed ⊢
  cases ended : call.exec s with
  | error fault => exact .of_same rfl rfl
  | ok outcome =>
      rw [ended] at failed
      exact ReservationCall.undone_of_refused ended (failed outcome.1 rfl)

/-- A booking under an accelerator, and the release of a reservation nobody knows. -/
theorem all_or_nothing_twoLevels :
    BudgetManager.Adds .reserved (Watts.clamped 10) (BudgetManager.twoLevels.chain ⟨2⟩)
      BudgetManager.twoLevels
      (BudgetManager.twoLevels.reserve ⟨2⟩ (Watts.clamped 10) ⟨1⟩ .first).1 ∧
    ReservationCall.Undone ⟨.empty, BudgetManager.twoLevels, .start⟩
      (.release ⟨1⟩ .first Timestamp.zero)
      ((ReservationCall.release ⟨1⟩ .first Timestamp.zero).steps.exec
        ⟨.empty, BudgetManager.twoLevels, .start⟩).2 := by
  constructor
  · exact (all_or_nothing.2.1 BudgetManager.twoLevels ⟨2⟩ (Watts.clamped 10) ⟨1⟩ .first
      (BudgetManager.nodup_chain BudgetManager.twoLevels_acyclic ⟨2⟩)).1 (by decide +kernel)
  · refine all_or_nothing.2.2 _ _ fun result returned => ?_
    cases returned

end PowerGovernor
