import PowerGovernor.Budget.Chain
import PowerGovernor.Reservation.Manager

/-!
How a lifecycle call returns.

Owns the pre-state condition of every edge that moves power, the writes of the edges, and
the relation of all ways a call on a known id returns, with its result and the books it
leaves. Later modules reason by cases on this relation and unfold no operation that
returned.
-/

set_option autoImplicit false

namespace PowerGovernor

/-! ## The edges that move power -/

namespace ReservationCall

/-- The call finds a reservation that holds capacity and is past its validity. -/
def Lapses (s : Books) : ReservationCall → Reservation → Prop
  | .admitReservation id now, r =>
      s.reservations.find? id = some r ∧ r.state = .reserved ∧ r.expired now = .ok true
  | .activate id _ now, r =>
      s.reservations.find? id = some r ∧ (r.state = .reserved ∨ r.state = .admitted) ∧
        r.expired now = .ok true
  | _, _ => False

/-- The call reserves the power of a planned or validated reservation. -/
def Reserves (s : Books) : ReservationCall → Reservation → BudgetGeneration → Prop
  | .reserve id budgetGen now, r, gen =>
      budgetGen = gen ∧ s.reservations.find? id = some r ∧
        (r.state = .planned ∨ r.state = .validated) ∧ r.expired now = .ok false ∧
        s.budgets.Bookable true r.budget r.requestedPower gen
  | _, _, _ => False

/-- The call activates a reserved or admitted reservation. -/
def Activates (s : Books) : ReservationCall → Reservation → Prop
  | .activate id budgetGen now, r =>
      s.reservations.find? id = some r ∧ (r.state = .reserved ∨ r.state = .admitted) ∧
        r.expired now = .ok false ∧ r.budgetGeneration = budgetGen ∧
        s.budgets.Bookable false r.budget r.requestedPower budgetGen
  | _, _ => False

/-- The call releases a reservation that is neither released nor expired. -/
def Releases (s : Books) : ReservationCall → Reservation → BudgetGeneration → Prop
  | .release id budgetGen _, r, gen =>
      budgetGen = gen ∧ s.reservations.find? id = some r ∧ r.state ≠ .released ∧
        r.state ≠ .expired ∧ s.budgets.Returnable .reserved r.budget r.reservedPower gen
  | _, _, _ => False

end ReservationCall

/-! ## The writes -/

namespace Reservation

/-- The four edges that move power or end a reservation. -/
def lapsed (r : Reservation) : Reservation := { r with state := .expired }

def reservedUnder (gen : BudgetGeneration) (r : Reservation) : Reservation :=
  { r with budgetGeneration := gen, reservedPower := r.requestedPower, state := .reserved }

def activeFrom (now : Timestamp) (r : Reservation) : Reservation :=
  { r with state := .active, activatedAt := now }

def releasedFrom (now : Timestamp) (r : Reservation) : Reservation :=
  { r with state := .released, releasedAt := now }

theorem lapsed_id (r : Reservation) : r.lapsed.id = r.id := rfl

theorem reservedUnder_id (gen : BudgetGeneration) (r : Reservation) :
    (r.reservedUnder gen).id = r.id := rfl

theorem activeFrom_id (now : Timestamp) (r : Reservation) : (r.activeFrom now).id = r.id := rfl

theorem releasedFrom_id (now : Timestamp) (r : Reservation) : (r.releasedFrom now).id = r.id := rfl

end Reservation

/-- The books after a reservation is written and the budgets are replaced. -/
def Books.write (s : Books) (id : ReservationId) (f : Reservation → Reservation)
    (keeps : ∀ r, (f r).id = r.id) (budgets : BudgetManager) : Books :=
  ⟨s.reservations.write id f keeps, budgets, s.ids⟩

section Write

variable {s : Books} {id : ReservationId} {r : Reservation} {f : Reservation → Reservation}
  {keeps : ∀ r, (f r).id = r.id} {budgets : BudgetManager}

/-- A write touches the reservation it names. -/
theorem ReservationManager.find?_write {rm : ReservationManager} (other : ReservationId) :
    (rm.write id f keeps).find? other =
      if other = id then (rm.find? id).map f else rm.find? other := by
  have keyed : ∀ v : Reservation, v.id = id → (f v).id = id := fun v same => (keeps v).trans same
  change (rm.map.modify id f keyed).find? other = _
  rw [Keyed.find?_modify]
  rfl

theorem Books.find?_write (found : s.reservations.find? id = some r) (other : ReservationId) :
    (s.write id f keeps budgets).reservations.find? other =
      if other = id then some (f r) else s.reservations.find? other := by
  change (s.reservations.write id f keeps).find? other = _
  rw [ReservationManager.find?_write, found, Option.map_some]

theorem Books.find?_write_self (found : s.reservations.find? id = some r) :
    (s.write id f keeps budgets).reservations.find? id = some (f r) := by
  rw [Books.find?_write found, if_pos rfl]

theorem Books.find?_write_of_ne {other : ReservationId} (different : other ≠ id) :
    (s.write id f keeps budgets).reservations.find? other = s.reservations.find? other := by
  change (s.reservations.write id f keeps).find? other = _
  rw [ReservationManager.find?_write, if_neg different]

/-- A property of all reservations survives a write that re-establishes it. -/
theorem Books.forall_write {P : Reservation → Prop}
    (all : ∀ v ∈ s.reservations.map.entries, P v) (found : s.reservations.find? id = some r)
    (written : P (f r)) : ∀ v ∈ (s.write id f keeps budgets).reservations.map.entries, P v := by
  have keyed : ∀ v : Reservation, v.id = id → (f v).id = id := fun v same => (keeps v).trans same
  change ∀ v ∈ (s.reservations.map.modify id f keyed).entries, P v
  apply Keyed.forall_modify all
  intro v member sameKey
  have other := Keyed.find?_of_mem member
  rw [sameKey] at other
  have isFound : v = r := Option.some.inj (other.symm.trans found)
  rw [isFound]
  exact written

/-- A write changes a sum over the reservations by the change of one of them. -/
theorem Books.total_write (found : s.reservations.find? id = some r) (weight : Reservation → ℚ) :
    (s.write id f keeps budgets).reservations.map.total weight =
      s.reservations.map.total weight + (weight (f r) - weight r) := by
  have keyed : ∀ v : Reservation, v.id = id → (f v).id = id := fun v same => (keeps v).trans same
  change (s.reservations.map.modify id f keyed).total weight = _
  exact Keyed.total_modify found weight

end Write

/-- The budgets after the two returns of a granted release. -/
def Books.returned (s : Books) (r : Reservation) (gen : BudgetGeneration) : BudgetManager :=
  let budgets := s.budgets.adjustChain .reserved (-r.reservedPower.value) (s.budgets.chain r.budget)
  if r.state = .active ∨ r.state = .admitted ∨ r.state = .reserved then
    (budgets.deactivate r.budget r.reservedPower r.id gen).1
  else budgets

/-! ## The ways a call returns -/

namespace ReservationCall

/-- The call draws an id. -/
def plans : ReservationCall → Bool
  | .plan .. => true
  | _ => false

/-- The power a call asks for. -/
def asks : ReservationCall → Option Watts
  | .plan _ _ _ _ requestedPower .. => some requestedPower
  | _ => none

/-- The reservation a call is about; `plan` names the id it draws. -/
def named (s : Books) : ReservationCall → ReservationId
  | .plan .. => s.ids.allocateReservation.1
  | .validate id _ | .reserve id _ _ | .admitReservation id _ | .activate id _ _
  | .accountEnergy id _ _ _ | .release id _ _ => id

/-- Every way a call on a known id returns. A refusal writes nothing, unless the call finds
the reservation past its validity and marks it so. -/
inductive Returns (s : Books) : ReservationCall → ReservationResult → Books → Prop where
  | refused (call : ReservationCall) (reason : String) : Returns s call (.refused reason) s
  | validated {id : ReservationId} {policyGen : PolicyGeneration} {r : Reservation}
      (found : s.reservations.find? id = some r) (planned : r.state = .planned)
      (current : r.policyGeneration = policyGen) :
      Returns s (.validate id policyGen) (.accepted "validated")
        (s.write id (fun r => { r with state := .validated }) (fun _ => rfl) s.budgets)
  | planLapsed {id : ReservationId} {budgetGen : BudgetGeneration} {now : Timestamp}
      {r : Reservation} (found : s.reservations.find? id = some r)
      (early : r.state = .planned ∨ r.state = .validated) (expired : r.expired now = .ok true) :
      Returns s (.reserve id budgetGen now) (.refused "reservation expired")
        (s.write id .lapsed Reservation.lapsed_id s.budgets)
  | reserved {id : ReservationId} {budgetGen : BudgetGeneration} {now : Timestamp}
      {r : Reservation} (reserves : Reserves s (.reserve id budgetGen now) r budgetGen) :
      Returns s (.reserve id budgetGen now) (.accepted "reserved")
        (s.write id (.reservedUnder budgetGen) (Reservation.reservedUnder_id budgetGen)
          (s.budgets.adjustChain .reserved r.requestedPower.value (s.budgets.chain r.budget)))
  | lapsed {call : ReservationCall} {r : Reservation} (lapses : call.Lapses s r) :
      Returns s call (.refused "reservation expired")
        (s.write (call.named s) .lapsed Reservation.lapsed_id s.budgets)
  | admitted {id : ReservationId} {now : Timestamp} {r : Reservation}
      (found : s.reservations.find? id = some r) (reserved : r.state = .reserved) :
      Returns s (.admitReservation id now) (.accepted "admitted")
        (s.write id (fun r => { r with state := .admitted }) (fun _ => rfl) s.budgets)
  | activated {id : ReservationId} {budgetGen : BudgetGeneration} {now : Timestamp}
      {r : Reservation} (activates : Activates s (.activate id budgetGen now) r) :
      Returns s (.activate id budgetGen now) (.accepted "active")
        (s.write id (.activeFrom now) (Reservation.activeFrom_id now)
          (s.budgets.adjustChain .used r.requestedPower.value (s.budgets.chain r.budget)))
  | accounted {id : ReservationId} {energy : Joules} {provenance : EnergyProvenance}
      {now : Timestamp} {r : Reservation} (found : s.reservations.find? id = some r)
      (active : r.state = .active) :
      Returns s (.accountEnergy id energy provenance now) (.accepted "accounted")
        (s.write id (fun r =>
          { r with energyUsed := Joules.clampedDouble (r.energyUsed.value + energy.value) })
          (fun _ => rfl) s.budgets)
  | released {id : ReservationId} {budgetGen : BudgetGeneration} {now : Timestamp}
      {r : Reservation} (releases : Releases s (.release id budgetGen now) r budgetGen) :
      Returns s (.release id budgetGen now) (.accepted "released")
        (s.write id (.releasedFrom now) (Reservation.releasedFrom_id now)
          (s.returned r budgetGen))

section Returns

variable {s s' : Books} {result : ReservationResult}

theorem returns_validate {id : ReservationId} {policyGen : PolicyGeneration}
    (returned : exec s (.validate id policyGen) = .ok (result, s')) :
    Returns s (.validate id policyGen) result s' := by
  obtain ⟨_, operation, outcome⟩ := bind_eq_ok.mp returned
  obtain ⟨r, got, body⟩ := bind_eq_ok.mp operation
  have found := ReservationManager.mutableGet_eq_ok.mp got
  cases outcome
  split at body
  · cases body
    exact .refused _ _
  rename_i planned
  split at body
  · cases body
    exact .refused _ _
  rename_i current
  cases body
  exact .validated found (not_not.mp planned) (not_not.mp current)

theorem returns_reserve {id : ReservationId} {budgetGen : BudgetGeneration} {now : Timestamp}
    (returned : exec s (.reserve id budgetGen now) = .ok (result, s')) :
    Returns s (.reserve id budgetGen now) result s' := by
  obtain ⟨_, operation, outcome⟩ := bind_eq_ok.mp returned
  obtain ⟨r, got, body⟩ := bind_eq_ok.mp operation
  have found := ReservationManager.mutableGet_eq_ok.mp got
  cases outcome
  split at body
  · cases body
    exact .refused _ _
  rename_i reservable
  have early : r.state = .planned ∨ r.state = .validated := by
    cases planned : r.state <;> simp [planned] at reservable ⊢
  obtain ⟨late, expired, body⟩ := bind_eq_ok.mp body
  cases late with
  | true =>
      cases body
      exact .planLapsed found early expired
  | false =>
      rw [if_neg Bool.false_ne_true] at body
      rcases BudgetManager.book_cases .reserved true s.budgets r.budget r.requestedPower budgetGen
        with ⟨refused, _⟩ | ⟨taken, bookable⟩
      · simp only [BudgetManager.reserve, refused, Bool.not_false, if_true] at body
        cases body
        exact .refused _ _
      · simp only [BudgetManager.reserve, taken, Bool.not_true, Bool.false_eq_true,
          if_false] at body
        cases body
        exact .reserved ⟨rfl, found, early, expired, bookable⟩

theorem returns_admitReservation {id : ReservationId} {now : Timestamp}
    (returned : exec s (.admitReservation id now) = .ok (result, s')) :
    Returns s (.admitReservation id now) result s' := by
  obtain ⟨_, operation, outcome⟩ := bind_eq_ok.mp returned
  obtain ⟨r, got, body⟩ := bind_eq_ok.mp operation
  have found := ReservationManager.mutableGet_eq_ok.mp got
  cases outcome
  split at body
  · cases body
    exact .refused _ _
  rename_i reserved
  have state : r.state = .reserved := not_not.mp reserved
  obtain ⟨late, expired, body⟩ := bind_eq_ok.mp body
  cases late with
  | true =>
      cases body
      exact .lapsed ⟨found, state, expired⟩
  | false =>
      cases body
      exact .admitted found state

theorem returns_activate {id : ReservationId} {budgetGen : BudgetGeneration} {now : Timestamp}
    (returned : exec s (.activate id budgetGen now) = .ok (result, s')) :
    Returns s (.activate id budgetGen now) result s' := by
  obtain ⟨_, operation, outcome⟩ := bind_eq_ok.mp returned
  obtain ⟨r, got, body⟩ := bind_eq_ok.mp operation
  have found := ReservationManager.mutableGet_eq_ok.mp got
  cases outcome
  split at body
  · cases body
    exact .refused _ _
  rename_i activatable
  have state : r.state = .reserved ∨ r.state = .admitted := by
    cases held : r.state <;> simp [held] at activatable ⊢
  obtain ⟨late, expired, body⟩ := bind_eq_ok.mp body
  cases late with
  | true =>
      cases body
      exact .lapsed ⟨found, state, expired⟩
  | false =>
      rw [if_neg Bool.false_ne_true] at body
      split at body
      · cases body
        exact .refused _ _
      rename_i current
      rcases BudgetManager.book_cases .used false s.budgets r.budget r.requestedPower budgetGen
        with ⟨refused, _⟩ | ⟨taken, bookable⟩
      · simp only [BudgetManager.activate, refused, Bool.not_false, if_true] at body
        cases body
        exact .refused _ _
      · simp only [BudgetManager.activate, taken, Bool.not_true, Bool.false_eq_true,
          if_false] at body
        cases body
        exact .activated ⟨found, state, expired, not_not.mp current, bookable⟩

theorem returns_accountEnergy {id : ReservationId} {energy : Joules}
    {provenance : EnergyProvenance} {now : Timestamp}
    (returned : exec s (.accountEnergy id energy provenance now) = .ok (result, s')) :
    Returns s (.accountEnergy id energy provenance now) result s' := by
  obtain ⟨_, operation, outcome⟩ := bind_eq_ok.mp returned
  obtain ⟨r, got, body⟩ := bind_eq_ok.mp operation
  have found := ReservationManager.mutableGet_eq_ok.mp got
  cases outcome
  split at body
  · cases body
    exact .refused _ _
  rename_i active
  split at body
  · cases body
    exact .refused _ _
  · cases body
    exact .accounted found (not_not.mp active)

theorem returns_release {id : ReservationId} {budgetGen : BudgetGeneration} {now : Timestamp}
    (returned : exec s (.release id budgetGen now) = .ok (result, s')) :
    Returns s (.release id budgetGen now) result s' := by
  obtain ⟨_, operation, outcome⟩ := bind_eq_ok.mp returned
  obtain ⟨r, got, body⟩ := bind_eq_ok.mp operation
  have found := ReservationManager.mutableGet_eq_ok.mp got
  obtain rfl : r.id = id := Keyed.key_of_find? found
  cases outcome
  split at body
  · cases body
    exact .refused _ _
  rename_i notReleased
  split at body
  · cases body
    exact .refused _ _
  rename_i notExpired
  split at body
  · cases body
    exact .refused _ _
  rcases BudgetManager.unbook_cases .reserved s.budgets r.budget r.reservedPower budgetGen
    with ⟨refused, _⟩ | ⟨taken, returnable⟩
  · simp only [BudgetManager.release, refused, Bool.not_false, if_true] at body
    cases body
    exact .refused _ _
  · simp only [BudgetManager.release, taken, Bool.not_true, Bool.false_eq_true, if_false] at body
    cases body
    exact .released ⟨rfl, found, notReleased, notExpired, returnable⟩

/-- A call on a known id returns in one of the ways and in no other. -/
theorem returns {call : ReservationCall} (known : call.plans = false)
    (returned : call.exec s = .ok (result, s')) : Returns s call result s' := by
  cases call with
  | plan => cases known
  | validate => exact returns_validate returned
  | reserve => exact returns_reserve returned
  | admitReservation => exact returns_admitReservation returned
  | activate => exact returns_activate returned
  | accountEnergy => exact returns_accountEnergy returned
  | release => exact returns_release returned

end Returns

end ReservationCall

end PowerGovernor
