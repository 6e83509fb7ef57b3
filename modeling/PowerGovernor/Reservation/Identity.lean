import PowerGovernor.Reservation.Returns

/-!
The ids of the reservations.

Owns the ids under which reservations are stored, the terms a reservation was
planned under and the order of its states, the fact that every other operation
rewrites one reservation forward under its terms, and the exact outcome of
`plan`: it is refused where the drawn id is taken.
-/

set_option autoImplicit false

namespace PowerGovernor

namespace ReservationState

/-- The place in the lifecycle; the two final states share the last one. -/
def progress : ReservationState → Nat
  | .planned => 0
  | .validated => 1
  | .reserved => 2
  | .admitted => 3
  | .active => 4
  | .released | .expired => 5

/-- The state is kept or replaced by a later one. -/
def Forward (before after : ReservationState) : Prop :=
  after = before ∨ before.progress < after.progress

theorem Forward.le {before after : ReservationState} (forward : before.Forward after) :
    before.progress ≤ after.progress := by
  rcases forward with same | later
  · exact (congrArg progress same).ge
  · exact later.le

end ReservationState

/-- The terms a reservation was planned under. -/
def Reservation.asPlanned (r : Reservation) : Reservation :=
  { r with
    state := .planned
    budgetGeneration := .null
    reservedPower := Watts.zero
    energyUsed := Joules.zero
    activatedAt := Timestamp.zero
    releasedAt := Timestamp.zero }

namespace ReservationManager

variable {rm rm' : ReservationManager} {bm bm' : BudgetManager} {id : ReservationId}
  {result : ReservationResult}

/-- The ids in the order of the records. -/
def ids (rm : ReservationManager) : List ReservationId := rm.map.entries.map Reservation.id

theorem find?_eq_none_iff : rm.find? id = none ↔ id ∉ rm.ids := by
  unfold find? ids
  rw [Keyed.find?_eq_none_iff, List.mem_map]
  exact ⟨fun absent ⟨r, member, same⟩ => absent r member same,
    fun absent r member same => absent ⟨r, member, same⟩⟩

theorem ids_write (rm : ReservationManager) (id : ReservationId) (f : Reservation → Reservation)
    (keeps : ∀ r, (f r).id = r.id) : (rm.write id f keeps).ids = rm.ids := by
  have keyed : ∀ r : Reservation, r.id = id → (f r).id = id := fun r same => (keeps r).trans same
  show (rm.map.modify id f keyed).entries.map Reservation.id = _
  exact Keyed.keys_modify

/-! ## Operations on a known id -/

/-- An operation on the reservation `id` writes nothing, or writes it alone: the
terms it was planned under are kept and its state moves forward. -/
inductive Rewritten (rm : ReservationManager) (id : ReservationId) : ReservationManager → Prop where
  | idle : Rewritten rm id rm
  | write {r : Reservation} {f : Reservation → Reservation} {keeps : ∀ r, (f r).id = r.id}
      (found : rm.find? id = some r) (forward : r.state.Forward (f r).state)
      (terms : (f r).asPlanned = r.asPlanned) : Rewritten rm id (rm.write id f keeps)

namespace Rewritten

theorem setState {r : Reservation} (found : rm.find? id = some r) {state : ReservationState}
    (forward : r.state.Forward state) : rm.Rewritten id (rm.setState id state) :=
  .write found forward rfl

theorem ids (rewritten : rm.Rewritten id rm') : rm'.ids = rm.ids := by
  cases rewritten with
  | idle => rfl
  | write => exact ids_write rm id _ _

/-- Every other reservation is as it was. -/
theorem find?_of_ne (rewritten : rm.Rewritten id rm') {other : ReservationId}
    (different : other ≠ id) : rm'.find? other = rm.find? other := by
  cases rewritten with
  | idle => rfl
  | @write r f keeps found _ _ =>
      have keyed : ∀ r : Reservation, r.id = id → (f r).id = id :=
        fun r same => (keeps r).trans same
      change (rm.map.modify id f keyed).find? other = _
      rw [Keyed.find?_modify, if_neg different]
      rfl

/-- No reservation is lost, planned under other terms or moved back. -/
theorem forward (rewritten : rm.Rewritten id rm') {other : ReservationId} {r : Reservation}
    (found : rm.find? other = some r) : ∃ r', rm'.find? other = some r' ∧
      r.state.Forward r'.state ∧ r'.asPlanned = r.asPlanned := by
  by_cases different : other = id
  · subst different
    cases rewritten with
    | idle => exact ⟨r, found, .inl rfl, rfl⟩
    | @write r₀ f keeps found₀ forward terms =>
        have keyed : ∀ r : Reservation, r.id = other → (f r).id = other :=
          fun r same => (keeps r).trans same
        obtain rfl : r₀ = r := Option.some.inj (found₀.symm.trans found)
        refine ⟨f r₀, ?_, forward, terms⟩
        change (rm.map.modify other f keyed).find? other = _
        rw [Keyed.find?_modify_self]
        change (rm.find? other).map f = _
        rw [found, Option.map_some]
  · exact ⟨r, (rewritten.find?_of_ne different).trans found, .inl rfl, rfl⟩

/-- Every reservation it leaves was there under the same terms, no further on. -/
theorem backward (rewritten : rm.Rewritten id rm') {other : ReservationId} {r' : Reservation}
    (found : rm'.find? other = some r') : ∃ r, rm.find? other = some r ∧
      r.state.Forward r'.state ∧ r'.asPlanned = r.asPlanned := by
  cases before : rm.find? other with
  | none =>
      have absent := rewritten.ids ▸ find?_eq_none_iff.mp before
      rw [find?_eq_none_iff.mpr absent] at found
      cases found
  | some r =>
      obtain ⟨left, same, forward, terms⟩ := rewritten.forward before
      obtain rfl : left = r' := Option.some.inj (same.symm.trans found)
      exact ⟨r, rfl, forward, terms⟩

end Rewritten

/-! ## Planning -/

/-- The reservation `plan` makes of its arguments. -/
abbrev planned (id : ReservationId) (workload : WorkloadId) (powerClass : WorkloadPowerClass)
    (scope : PowerDomainId) (budget : BudgetId) (requestedPower : Watts)
    (requestedEnergy : Joules) (policyGen : PolicyGeneration) (deviceGen : DeviceGeneration)
    (authority : AuthorityEnvelope) (now : Timestamp) (validity : Duration) : Reservation :=
  { Reservation.blank with
    id := id
    generation := .first
    workload := workload
    powerClass := powerClass
    scope := scope
    budget := budget
    requestedPower := requestedPower
    requestedEnergy := requestedEnergy
    policyGeneration := policyGen
    deviceGeneration := deviceGen
    authority := authority
    created := now
    validity := validity }

/-- A plan under an id no reservation has is accepted. -/
theorem plan_of_free {ids : Allocators} (fresh : rm.find? ⟨ids.reservation⟩ = none)
    (workload : WorkloadId) (powerClass : WorkloadPowerClass) (scope : PowerDomainId)
    (budget : BudgetId) (requestedPower : Watts) (requestedEnergy : Joules)
    (policyGen : PolicyGeneration) (deviceGen : DeviceGeneration)
    (authority : AuthorityEnvelope) (now : Timestamp) (validity : Duration) :
    rm.plan ids workload powerClass scope budget requestedPower requestedEnergy policyGen
        deviceGen authority now validity =
      (⟨true, "planned", ⟨ids.reservation⟩⟩,
        ⟨rm.map.emplace (planned ⟨ids.reservation⟩ workload powerClass scope budget
          requestedPower requestedEnergy policyGen deviceGen authority now validity)⟩,
        ids.allocateReservation.2) := by
  have absent : rm.map.contains ids.allocateReservation.1 = false :=
    Option.isSome_eq_false_iff.mpr (Option.isNone_iff_eq_none.mpr fresh)
  unfold plan
  dsimp only
  rw [absent, if_neg Bool.false_ne_true]
  rfl

/-- A plan under the id of a reservation is refused. -/
theorem plan_of_taken {ids : Allocators} (taken : rm.find? ⟨ids.reservation⟩ ≠ none)
    (workload : WorkloadId) (powerClass : WorkloadPowerClass) (scope : PowerDomainId)
    (budget : BudgetId) (requestedPower : Watts) (requestedEnergy : Joules)
    (policyGen : PolicyGeneration) (deviceGen : DeviceGeneration)
    (authority : AuthorityEnvelope) (now : Timestamp) (validity : Duration) :
    rm.plan ids workload powerClass scope budget requestedPower requestedEnergy policyGen
        deviceGen authority now validity =
      (⟨false, "duplicate reservation id", ⟨ids.reservation⟩⟩, rm, ids.allocateReservation.2) := by
  have contained : rm.map.contains ids.allocateReservation.1 = true :=
    Option.isSome_iff_ne_none.mpr taken
  unfold plan
  dsimp only
  rw [if_pos contained]
  rfl

/-- A plan draws an id and is refused exactly when a reservation has it. -/
theorem plan_cases (rm : ReservationManager) (ids : Allocators) (workload : WorkloadId)
    (powerClass : WorkloadPowerClass) (scope : PowerDomainId) (budget : BudgetId)
    (requestedPower : Watts) (requestedEnergy : Joules) (policyGen : PolicyGeneration)
    (deviceGen : DeviceGeneration) (authority : AuthorityEnvelope) (now : Timestamp)
    (validity : Duration) :
    ∃ result rm', rm.plan ids workload powerClass scope budget requestedPower requestedEnergy
        policyGen deviceGen authority now validity = (result, rm', ids.allocateReservation.2) ∧
      result.id = ⟨ids.reservation⟩ ∧
      ((⟨ids.reservation⟩ ∈ rm.ids ∧ result.ok = false ∧ rm'.ids = rm.ids) ∨
        (⟨ids.reservation⟩ ∉ rm.ids ∧ result.ok = true ∧
          rm'.ids = rm.ids ++ [⟨ids.reservation⟩])) := by
  by_cases taken : (⟨ids.reservation⟩ : ReservationId) ∈ rm.ids
  · rw [plan_of_taken fun absent => find?_eq_none_iff.mp absent taken]
    exact ⟨_, _, rfl, rfl, .inl ⟨taken, rfl, rfl⟩⟩
  · have free : rm.find? ⟨ids.reservation⟩ = none := find?_eq_none_iff.mpr taken
    rw [plan_of_free free]
    refine ⟨_, _, rfl, rfl, .inr ⟨taken, rfl, ?_⟩⟩
    have added : (rm.map.emplace (planned ⟨ids.reservation⟩ workload powerClass scope budget
        requestedPower requestedEnergy policyGen deviceGen authority now validity)).entries =
        rm.map.entries ++ [_] := Keyed.entries_emplace free
    unfold ReservationManager.ids
    rw [added, List.map_append]
    rfl

end ReservationManager

/-! ## Calls -/

namespace ReservationCall

private theorem rewritten_write {s : Books} {id : ReservationId} {r : Reservation}
    {f : Reservation → Reservation} {keeps : ∀ r, (f r).id = r.id} {budgets : BudgetManager}
    (found : s.reservations.find? id = some r) (forward : r.state.Forward (f r).state)
    (terms : (f r).asPlanned = r.asPlanned) :
    s.reservations.Rewritten id (s.write id f keeps budgets).reservations :=
  @ReservationManager.Rewritten.write _ _ _ _ keeps found forward terms

/-- What returned rewrote the reservation it names, and drew no id. -/
theorem rewritten_of_returns {s s' : Books} {call : ReservationCall} {result : ReservationResult}
    (returned : Returns s call result s') :
    s.reservations.Rewritten (call.named s) s'.reservations ∧ s'.ids = s.ids := by
  cases returned with
  | refused => exact ⟨.idle, rfl⟩
  | validated found planned _ =>
      refine ⟨rewritten_write found (.inr ?_) rfl, rfl⟩
      show _ < ReservationState.validated.progress
      rw [planned]
      decide
  | planLapsed found early _ =>
      refine ⟨rewritten_write found (.inr ?_) rfl, rfl⟩
      show _ < ReservationState.expired.progress
      rcases early with early | early <;> rw [early] <;> decide
  | reserved reserves =>
      refine ⟨rewritten_write reserves.2.1 (.inr ?_) rfl, rfl⟩
      show _ < ReservationState.reserved.progress
      rcases reserves.2.2.1 with early | early <;> rw [early] <;> decide
  | lapsed lapses =>
      cases call with
      | admitReservation =>
          refine ⟨rewritten_write lapses.1 (.inr ?_) rfl, rfl⟩
          show _ < ReservationState.expired.progress
          rw [lapses.2.1]
          decide
      | activate =>
          refine ⟨rewritten_write lapses.1 (.inr ?_) rfl, rfl⟩
          show _ < ReservationState.expired.progress
          rcases lapses.2.1 with waiting | waiting <;> rw [waiting] <;> decide
      | _ => exact lapses.elim
  | admitted found reserved =>
      refine ⟨rewritten_write found (.inr ?_) rfl, rfl⟩
      show _ < ReservationState.admitted.progress
      rw [reserved]
      decide
  | activated activates =>
      refine ⟨rewritten_write activates.1 (.inr ?_) rfl, rfl⟩
      show _ < ReservationState.active.progress
      rcases activates.2.1 with waiting | waiting <;> rw [waiting] <;> decide
  | accounted found _ => exact ⟨rewritten_write found (.inl rfl) rfl, rfl⟩
  | released releases =>
      obtain ⟨_, found, notReleased, notExpired, _⟩ := releases
      refine ⟨rewritten_write found (.inr ?_) rfl, rfl⟩
      show _ < ReservationState.released.progress
      generalize Reservation.state _ = state at notReleased notExpired ⊢
      cases state with
      | released => exact absurd rfl notReleased
      | expired => exact absurd rfl notExpired
      | _ => decide

/-- Every other call rewrites the reservation it names and draws no id. -/
theorem rewritten_after {s : Books} {call : ReservationCall} (known : call.plans = false) :
    s.reservations.Rewritten (call.named s) (call.after s).reservations ∧
      (call.after s).ids = s.ids := by
  unfold after
  cases returned : call.exec s with
  | error fault => exact ⟨.idle, rfl⟩
  | ok outcome => exact rewritten_of_returns (returns known returned)

/-- No other call changes the ids or the allocators. -/
theorem ids_after {s : Books} {call : ReservationCall} (known : call.plans = false) :
    (call.after s).reservations.ids = s.reservations.ids ∧ (call.after s).ids = s.ids :=
  ⟨(rewritten_after known).1.ids, (rewritten_after known).2⟩

/-- No call loses a reservation, changes its terms or moves it back. -/
theorem forward_after {s : Books} (call : ReservationCall) {id : ReservationId} {r : Reservation}
    (found : s.reservations.find? id = some r) :
    ∃ r', (call.after s).reservations.find? id = some r' ∧ r.state.Forward r'.state ∧
      r'.asPlanned = r.asPlanned := by
  cases known : call.plans with
  | false => exact (rewritten_after known).1.forward found
  | true =>
      cases call with
      | plan workload powerClass scope budget requestedPower requestedEnergy policyGen deviceGen
          authority now validity =>
          refine ⟨r, ?_, .inl rfl, rfl⟩
          unfold after
          dsimp only [exec, ReservationManager.plan]
          split
          · exact found
          · rename_i free
            have fresh := Option.not_isSome_iff_eq_none.mp free
            refine (Keyed.find?_emplace fresh id).trans ?_
            rw [if_neg]
            · exact found
            · rintro rfl
              exact nomatch found.symm.trans fresh
      | _ => cases known

end ReservationCall

end PowerGovernor
