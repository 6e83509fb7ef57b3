import PowerGovernor.Reservation.Returns

/-!
What one lifecycle call can do to the books.

Owns what the edges that move power have in common, the inductive relation of all
effects a call can have, the theorem that a call has no other effect, the facts
every effect shares, and the exact condition under which an operation returns.
Later modules reason by cases on the effect and unfold no lifecycle operation.
-/

set_option autoImplicit false

namespace PowerGovernor

/-! ## The edges that move power -/

namespace ReservationCall

section Found

variable {s : Books} {call : ReservationCall} {r : Reservation} {gen : BudgetGeneration}

private theorem found_own {id : ReservationId} (found : s.reservations.find? id = some r) :
    s.reservations.find? r.id = some r := by
  have same : r.id = id := Keyed.key_of_find? found
  rw [same]
  exact found

theorem Lapses.found (lapses : call.Lapses s r) : s.reservations.find? r.id = some r := by
  cases call with
  | admitReservation => exact found_own lapses.1
  | activate => exact found_own lapses.1
  | _ => exact lapses.elim

theorem Lapses.waiting (lapses : call.Lapses s r) :
    r.state = .reserved ∨ r.state = .admitted := by
  cases call with
  | admitReservation => exact .inl lapses.2.1
  | activate => exact lapses.2.1
  | _ => exact lapses.elim

theorem Reserves.found (reserves : call.Reserves s r gen) :
    s.reservations.find? r.id = some r := by
  cases call with
  | reserve => exact found_own reserves.2.1
  | _ => exact reserves.elim

theorem Reserves.early (reserves : call.Reserves s r gen) :
    r.state = .planned ∨ r.state = .validated := by
  cases call with
  | reserve => exact reserves.2.2.1
  | _ => exact reserves.elim

theorem Reserves.bookable (reserves : call.Reserves s r gen) :
    s.budgets.Bookable true r.budget r.requestedPower gen := by
  cases call with
  | reserve => exact reserves.2.2.2.2
  | _ => exact reserves.elim

theorem Activates.found (activates : call.Activates s r) :
    s.reservations.find? r.id = some r := by
  cases call with
  | activate => exact found_own activates.1
  | _ => exact activates.elim

theorem Activates.waiting (activates : call.Activates s r) :
    r.state = .reserved ∨ r.state = .admitted := by
  cases call with
  | activate => exact activates.2.1
  | _ => exact activates.elim

theorem Activates.bookable (activates : call.Activates s r) :
    ∃ gen, s.budgets.Bookable false r.budget r.requestedPower gen := by
  cases call with
  | activate => exact ⟨_, activates.2.2.2.2⟩
  | _ => exact activates.elim

theorem Releases.found (releases : call.Releases s r gen) :
    s.reservations.find? r.id = some r := by
  cases call with
  | release => exact found_own releases.2.1
  | _ => exact releases.elim

theorem Releases.pending (releases : call.Releases s r gen) :
    r.state ≠ .released ∧ r.state ≠ .expired := by
  cases call with
  | release => exact ⟨releases.2.2.1, releases.2.2.2.1⟩
  | _ => exact releases.elim

theorem Releases.returnable (releases : call.Releases s r gen) :
    s.budgets.Returnable .reserved r.budget r.reservedPower gen := by
  cases call with
  | release => exact releases.2.2.2.2
  | _ => exact releases.elim

end Found

end ReservationCall

/-! ## The effects -/

/-- The lifecycle edges that move no power. -/
inductive QuietEdge : ReservationState → ReservationState → Prop where
  | validate : QuietEdge .planned .validated
  | planLapses : QuietEdge .planned .expired
  | validatedLapses : QuietEdge .validated .expired
  | admission : QuietEdge .reserved .admitted
  | account : QuietEdge .active .active

/-- Two versions of a reservation claim the same power on the same budget. -/
structure SameClaim (before after : Reservation) : Prop where
  budget : after.budget = before.budget
  requestedPower : after.requestedPower = before.requestedPower
  reservedPower : after.reservedPower = before.reservedPower
  budgetGeneration : after.budgetGeneration = before.budgetGeneration

/-- Everything a call can do to the books. -/
inductive Effect (s : Books) (call : ReservationCall) : Books → Prop where
  | idle {s' : Books} (reservations : s'.reservations = s.reservations)
      (budgets : s'.budgets = s.budgets) : Effect s call s'
  | plan {r : Reservation} {ids : Allocators} (fresh : s.reservations.find? r.id = none)
      (planned : r.state = .planned) (unreserved : r.reservedPower = Watts.zero)
      (asked : call.asks = some r.requestedPower) :
      Effect s call ⟨⟨s.reservations.map.emplace r⟩, s.budgets, ids⟩
  | quiet {r : Reservation} {f : Reservation → Reservation} (keeps : ∀ r, (f r).id = r.id)
      (found : s.reservations.find? r.id = some r) (edge : QuietEdge r.state (f r).state)
      (same : SameClaim r (f r)) : Effect s call (s.write r.id f keeps s.budgets)
  | lapse {r : Reservation} (lapses : call.Lapses s r) :
      Effect s call (s.write r.id .lapsed Reservation.lapsed_id s.budgets)
  | reserve {r : Reservation} {gen : BudgetGeneration} (reserves : call.Reserves s r gen) :
      Effect s call (s.write r.id (.reservedUnder gen) (Reservation.reservedUnder_id gen)
        (s.budgets.adjustChain .reserved r.requestedPower.value (s.budgets.chain r.budget)))
  | activate {r : Reservation} {now : Timestamp} (activates : call.Activates s r) :
      Effect s call (s.write r.id (.activeFrom now) (Reservation.activeFrom_id now)
        (s.budgets.adjustChain .used r.requestedPower.value (s.budgets.chain r.budget)))
  | release {r : Reservation} {gen : BudgetGeneration} {now : Timestamp}
      (releases : call.Releases s r gen) :
      Effect s call (s.write r.id (.releasedFrom now) (Reservation.releasedFrom_id now)
        (s.returned r gen))

namespace ReservationCall

variable {s : Books}

/-- What a call that returned did to the books. -/
theorem effect_of_returns {call : ReservationCall} {result : ReservationResult} {s' : Books}
    (returned : Returns s call result s') : Effect s call s' := by
  have own : ∀ {id : ReservationId} {r : Reservation}, s.reservations.find? id = some r →
      id = r.id := fun found => (Keyed.key_of_find? found).symm
  cases returned with
  | refused => exact .idle rfl rfl
  | validated found planned _ =>
      obtain rfl := own found
      exact .quiet (f := fun r => { r with state := .validated }) (fun _ => rfl) found
        (planned ▸ .validate) ⟨rfl, rfl, rfl, rfl⟩
  | @planLapsed id budgetGen now r found early _ =>
      obtain rfl := own found
      have edge : QuietEdge r.state .expired := by
        rcases early with planned | validated
        · rw [planned]
          exact .planLapses
        · rw [validated]
          exact .validatedLapses
      exact .quiet (f := .lapsed) Reservation.lapsed_id found edge ⟨rfl, rfl, rfl, rfl⟩
  | reserved reserves =>
      obtain rfl := own reserves.2.1
      exact .reserve reserves
  | lapsed lapses =>
      cases call with
      | admitReservation =>
          obtain rfl := own lapses.1
          exact .lapse lapses
      | activate =>
          obtain rfl := own lapses.1
          exact .lapse lapses
      | _ => exact lapses.elim
  | admitted found reserved =>
      obtain rfl := own found
      exact .quiet (f := fun r => { r with state := .admitted }) (fun _ => rfl) found
        (reserved ▸ .admission) ⟨rfl, rfl, rfl, rfl⟩
  | activated activates =>
      obtain rfl := own activates.1
      exact .activate activates
  | @accounted id energy provenance now r found active =>
      obtain rfl := own found
      have edge : QuietEdge r.state r.state := by
        rw [active]
        exact .account
      exact .quiet (f := fun r =>
          { r with energyUsed := Joules.clampedDouble (r.energyUsed.value + energy.value) })
        (fun _ => rfl) found edge ⟨rfl, rfl, rfl, rfl⟩
  | released releases =>
      obtain rfl := own releases.2.1
      exact .release releases

/-- A release is refused, and changes nothing, or returns the power of the
reservation it names. -/
theorem release_cases (s : Books) (id : ReservationId) (budgetGen : BudgetGeneration)
    (now : Timestamp) :
    after s (.release id budgetGen now) = s ∨
      ∃ r, Releases s (.release id budgetGen now) r budgetGen ∧
        after s (.release id budgetGen now) =
          s.write r.id (.releasedFrom now) (Reservation.releasedFrom_id now)
            (s.returned r budgetGen) := by
  unfold after
  cases returned : exec s (.release id budgetGen now) with
  | error fault => exact .inl rfl
  | ok outcome =>
      obtain ⟨result, s'⟩ := outcome
      cases returns_release returned with
      | refused => exact .inl rfl
      | lapsed lapses => exact lapses.elim
      | released releases =>
          obtain rfl : _ = id := Keyed.key_of_find? releases.2.1
          exact .inr ⟨_, releases, rfl⟩

private theorem effect_plan {workload : WorkloadId} {powerClass : WorkloadPowerClass}
    {scope : PowerDomainId} {budget : BudgetId} {requestedPower : Watts}
    {requestedEnergy : Joules} {policyGen : PolicyGeneration} {deviceGen : DeviceGeneration}
    {authority : AuthorityEnvelope} {now : Timestamp} {validity : Duration} :
    let call := ReservationCall.plan workload powerClass scope budget requestedPower
      requestedEnergy policyGen deviceGen authority now validity
    Effect s call (call.after s) := by
  intro call
  by_cases taken : s.reservations.map.contains (s.ids.allocateReservation).1 = true
  · refine .idle ?_ ?_ <;> simp [call, after, exec, ReservationManager.plan, taken]
  · have fresh : s.reservations.find? (s.ids.allocateReservation).1 = none := by
      simpa [Keyed.contains, ReservationManager.find?] using taken
    simp only [call, after, exec, ReservationManager.plan, if_neg taken]
    exact .plan fresh rfl rfl rfl

/-- A call has one of the effects and no other. -/
theorem effect (s : Books) (call : ReservationCall) : Effect s call (call.after s) := by
  cases known : call.plans with
  | true =>
      cases call with
      | plan => exact effect_plan
      | _ => cases known
  | false =>
      unfold after
      cases returned : call.exec s with
      | error fault => exact .idle rfl rfl
      | ok outcome => exact effect_of_returns (returns known returned)

end ReservationCall

/-! ## What every effect shares -/

theorem ReservationState.holds_of_waiting {state : ReservationState}
    (waiting : state = .reserved ∨ state = .admitted) : state.holds = true := by
  rcases waiting with rfl | rfl <;> rfl

namespace QuietEdge

variable {before after : ReservationState}

theorem holds (edge : QuietEdge before after) : after.holds = before.holds := by
  cases edge <;> rfl

theorem uses (edge : QuietEdge before after) : after.uses = before.uses := by
  cases edge <;> rfl

/-- No quiet edge makes a reservation wait that did not. -/
theorem waiting (edge : QuietEdge before after) (waits : after = .reserved ∨ after = .admitted) :
    before = .reserved ∨ before = .admitted := by
  cases edge <;> simp at waits ⊢

/-- No quiet edge leads back to a state before `reserve`. -/
theorem planning (edge : QuietEdge before after) (early : after = .planned ∨ after = .validated) :
    before = .planned ∨ before = .validated := by
  cases edge <;> simp at early ⊢

end QuietEdge

namespace Books

variable {s : Books} {r : Reservation} {gen : BudgetGeneration}

/-- The budgets after the first of the two returns. -/
abbrev unreserved (s : Books) (r : Reservation) : BudgetManager :=
  s.budgets.adjustChain .reserved (-r.reservedPower.value) (s.budgets.chain r.budget)

theorem chain_unreserved (s : Books) (r : Reservation) (id : BudgetId) :
    (s.unreserved r).chain id = s.budgets.chain id :=
  BudgetManager.chain_congr (BudgetManager.parentOf_adjustChain _ _ _) id

theorem acyclic_unreserved (s : Books) (r : Reservation) (acyclic : s.budgets.Acyclic) :
    (s.unreserved r).Acyclic := by
  unfold BudgetManager.Acyclic
  rw [BudgetManager.parentOf_adjustChain]
  exact acyclic

/-- The first return leaves the usage alone. -/
theorem used_unreserved (s : Books) (r : Reservation) (b : BudgetId) :
    (s.unreserved r).amount? .used b = s.budgets.amount? .used b :=
  BudgetManager.amount?_adjustChain_other (by decide) _ _ b

theorem returnable_unreserved (s : Books) (r : Reservation) :
    (s.unreserved r).Returnable .used r.budget r.reservedPower gen ↔
      s.budgets.Returnable .used r.budget r.reservedPower gen :=
  BudgetManager.returnable_adjustChain_other (by decide) _ _ _ _ _

/-- A release returns usage exactly when the reservation holds capacity and the
usage on the chain covers its power, whoever that usage belongs to. -/
theorem returned_cases (s : Books) (r : Reservation) (gen : BudgetGeneration) :
    (s.returned r gen = s.unreserved r ∧
      (r.state.holds = true → ¬ (s.unreserved r).Returnable .used r.budget r.reservedPower gen)) ∨
    (s.returned r gen = (s.unreserved r).adjustChain .used (-r.reservedPower.value)
        (s.budgets.chain r.budget) ∧
      r.state.holds = true ∧
      (s.unreserved r).Returnable .used r.budget r.reservedPower gen) := by
  have held : (r.state = .active ∨ r.state = .admitted ∨ r.state = .reserved) ↔
      r.state.holds = true := by
    cases r.state <;> simp [ReservationState.holds]
  by_cases holds : r.state.holds = true
  · have taken : s.returned r gen =
        ((s.unreserved r).deactivate r.budget r.reservedPower r.id gen).1 :=
      if_pos (held.mpr holds)
    rw [taken]
    unfold BudgetManager.deactivate
    rcases BudgetManager.unbook_cases .used (s.unreserved r) r.budget r.reservedPower gen with
      ⟨refused, notReturnable⟩ | ⟨granted, returnable⟩
    · rw [refused]
      exact .inl ⟨rfl, fun _ => notReturnable⟩
    · rw [granted, s.chain_unreserved]
      exact .inr ⟨rfl, holds, returnable⟩
  · refine .inl ⟨if_neg fun state => holds (held.mp state), fun state => ?_⟩
    exact absurd state holds

/-- The two returns change no definition. -/
theorem cfg_returned (s : Books) (r : Reservation) (gen : BudgetGeneration) (k : BudgetId) :
    ((s.returned r gen).state? k).map BudgetState.cfg =
      (s.budgets.state? k).map BudgetState.cfg := by
  rcases s.returned_cases r gen with ⟨once, _⟩ | ⟨twice, _⟩
  · rw [once]
    exact BudgetManager.adjustChain_cfg _ _ _ k
  · rw [twice, BudgetManager.adjustChain_cfg, BudgetManager.adjustChain_cfg]

end Books

namespace Effect

variable {s s' : Books} {call : ReservationCall}

/-- No call changes a budget definition. -/
theorem cfg (effect : Effect s call s') (k : BudgetId) :
    (s'.budgets.state? k).map BudgetState.cfg = (s.budgets.state? k).map BudgetState.cfg := by
  cases effect with
  | idle _ budgets => rw [budgets]
  | plan | quiet | lapse => rfl
  | reserve | activate => exact BudgetManager.adjustChain_cfg _ _ _ k
  | @release r gen now releases => exact s.cfg_returned r gen k

theorem parentOf (effect : Effect s call s') : s'.budgets.parentOf = s.budgets.parentOf :=
  BudgetManager.parentOf_congr effect.cfg

theorem has (effect : Effect s call s') (k : BudgetId) : s'.budgets.has k = s.budgets.has k := by
  have same := congrArg Option.isSome (effect.cfg k)
  rw [Option.isSome_map, Option.isSome_map] at same
  exact same

/-- A reservation that holds power after a call held it before, or is reserved by
the call. -/
theorem held (effect : Effect s call s') : ∀ r' ∈ s'.reservations.map.entries,
    r'.state.holds = true → ∃ r, s.reservations.find? r'.id = some r ∧ r'.budget = r.budget ∧
      (r.state.holds = true ∧ r'.reservedPower = r.reservedPower ∧
          r'.budgetGeneration = r.budgetGeneration ∨
        (r.state = .planned ∨ r.state = .validated) ∧ r'.state = .reserved ∧
          ∃ st, s.budgets.state? r.budget = some st) := by
  have before : ∀ r' ∈ s.reservations.map.entries, r'.state.holds = true →
      ∃ r, s.reservations.find? r'.id = some r ∧ r'.budget = r.budget ∧
        (r.state.holds = true ∧ r'.reservedPower = r.reservedPower ∧
            r'.budgetGeneration = r.budgetGeneration ∨
          (r.state = .planned ∨ r.state = .validated) ∧ r'.state = .reserved ∧
            ∃ st, s.budgets.state? r.budget = some st) :=
    fun r member holds => ⟨r, Keyed.find?_of_mem member, rfl, .inl ⟨holds, rfl, rfl⟩⟩
  cases effect with
  | idle reservations _ =>
      rw [reservations]
      exact before
  | plan fresh planned _ =>
      apply Keyed.forall_emplace before
      intro holds
      simp [planned, ReservationState.holds] at holds
  | @quiet r f keeps found edge same =>
      apply Books.forall_write before found
      intro holds
      rw [edge.holds] at holds
      rw [keeps]
      exact ⟨r, found, same.budget, .inl ⟨holds, same.reservedPower, same.budgetGeneration⟩⟩
  | lapse lapses =>
      apply Books.forall_write before lapses.found
      exact nofun
  | @reserve r gen reserves =>
      apply Books.forall_write before reserves.found
      intro _
      obtain ⟨st, installed, _⟩ := reserves.bookable.installed
      exact ⟨r, reserves.found, rfl, .inr ⟨reserves.early, rfl, st, installed⟩⟩
  | @activate r now activates =>
      apply Books.forall_write before activates.found
      intro _
      have holds := ReservationState.holds_of_waiting activates.waiting
      exact ⟨r, activates.found, rfl, .inl ⟨holds, rfl, rfl⟩⟩
  | release releases =>
      apply Books.forall_write before releases.found
      exact nofun

end Effect

/-! ## When an operation returns -/

/-- The reservation has no creation time, or the time since then fits. -/
def Reservation.ExpiryFits (r : Reservation) (now : Timestamp) : Prop :=
  r.created.isZero = true ∨ now.ElapsedFits r.created

theorem Reservation.expired_returns_iff {r : Reservation} {now : Timestamp} :
    (∃ past, r.expired now = .ok past) ↔ r.ExpiryFits now := by
  unfold expired ExpiryFits
  by_cases never : r.created.isZero = true
  · rw [if_pos never]
    exact ⟨fun _ => .inl never, fun _ => ⟨false, rfl⟩⟩
  · rw [if_neg never, or_iff_right never, ← Timestamp.elapsedSince_returns_iff]
    constructor
    · rintro ⟨past, returned⟩
      obtain ⟨elapsed, fits, _⟩ := bind_eq_ok.mp (noexcept_eq_ok.mp returned)
      exact ⟨elapsed, fits⟩
    · rintro ⟨elapsed, fits⟩
      exact ⟨_, noexcept_eq_ok.mpr (bind_eq_ok.mpr ⟨elapsed, fits, rfl⟩)⟩

/-- Within its validity a reservation has not expired. -/
theorem Reservation.alive_of_within {r : Reservation} {now : Timestamp}
    (within : now.ns - r.created.ns ≤ r.validity.ns) : r.expired now = .ok false := by
  unfold expired
  by_cases never : r.created.isZero = true
  · rw [if_pos never]
  · have fits : now.ElapsedFits r.created := within.trans r.validity.bounded
    obtain ⟨elapsed, returned⟩ := Timestamp.elapsedSince_returns_iff.mpr fits
    have value := Timestamp.elapsedSince_eq_ok.mp returned
    have nonneg := r.validity.nonneg
    have early : ¬ r.validity.ns < elapsed.ns := by omega
    rw [if_neg never, returned]
    simp [bind, Except.bind, pure, Except.pure, early]

namespace ReservationManager

variable {rm : ReservationManager} {bm : BudgetManager} {id : ReservationId}
  {budgetGen : BudgetGeneration} {now : Timestamp}

/-- A reservation that is planned or validated is checked for expiry. -/
theorem reserve_returns_iff :
    (∃ outcome, rm.reserve id bm budgetGen now = .ok outcome) ↔
      ∃ r, rm.find? id = some r ∧
        (r.state = .planned ∨ r.state = .validated → r.ExpiryFits now) := by
  constructor
  · rintro ⟨outcome, returned⟩
    obtain ⟨r, found, body⟩ := bind_eq_ok.mp returned
    refine ⟨r, mutableGet_eq_ok.mp found, fun checked => ?_⟩
    have reservable : ¬ (r.state ≠ .validated ∧ r.state ≠ .planned) := by
      rcases checked with planned | validated
      · exact fun refused => refused.2 planned
      · exact fun refused => refused.1 validated
    rw [if_neg reservable] at body
    obtain ⟨past, expired, _⟩ := bind_eq_ok.mp body
    exact Reservation.expired_returns_iff.mp ⟨past, expired⟩
  · rintro ⟨r, found, fits⟩
    unfold reserve
    rw [mutableGet_eq_ok.mpr found]
    show ∃ outcome, (if r.state ≠ .validated ∧ r.state ≠ .planned then _ else _) = _
    by_cases refused : r.state ≠ .validated ∧ r.state ≠ .planned
    · rw [if_pos refused]
      exact ⟨_, rfl⟩
    · rw [if_neg refused]
      have checked : r.state = .planned ∨ r.state = .validated := by tauto
      obtain ⟨past, expired⟩ := Reservation.expired_returns_iff.mpr (fits checked)
      rw [expired]
      cases past with
      | true => exact ⟨_, rfl⟩
      | false =>
          dsimp only [bind, Except.bind]
          rw [if_neg Bool.false_ne_true]
          split <;> exact ⟨_, rfl⟩

/-- So is one that is reserved or admitted when it is activated. -/
theorem activate_returns_iff :
    (∃ outcome, rm.activate id bm budgetGen now = .ok outcome) ↔
      ∃ r, rm.find? id = some r ∧
        (r.state = .reserved ∨ r.state = .admitted → r.ExpiryFits now) := by
  constructor
  · rintro ⟨outcome, returned⟩
    obtain ⟨r, found, body⟩ := bind_eq_ok.mp returned
    refine ⟨r, mutableGet_eq_ok.mp found, fun checked => ?_⟩
    have activatable : ¬ (r.state ≠ .admitted ∧ r.state ≠ .reserved) := by
      rcases checked with reserved | admitted
      · exact fun refused => refused.2 reserved
      · exact fun refused => refused.1 admitted
    rw [if_neg activatable] at body
    obtain ⟨past, expired, _⟩ := bind_eq_ok.mp body
    exact Reservation.expired_returns_iff.mp ⟨past, expired⟩
  · rintro ⟨r, found, fits⟩
    unfold activate
    rw [mutableGet_eq_ok.mpr found]
    show ∃ outcome, (if r.state ≠ .admitted ∧ r.state ≠ .reserved then _ else _) = _
    by_cases refused : r.state ≠ .admitted ∧ r.state ≠ .reserved
    · rw [if_pos refused]
      exact ⟨_, rfl⟩
    · rw [if_neg refused]
      have checked : r.state = .reserved ∨ r.state = .admitted := by tauto
      obtain ⟨past, expired⟩ := Reservation.expired_returns_iff.mpr (fits checked)
      rw [expired]
      cases past with
      | true => exact ⟨_, rfl⟩
      | false =>
          dsimp only [bind, Except.bind]
          rw [if_neg Bool.false_ne_true]
          split
          · exact ⟨_, rfl⟩
          · split <;> exact ⟨_, rfl⟩

/-- A release reads no clock. -/
theorem release_returns_iff :
    (∃ outcome, rm.release id bm budgetGen now = .ok outcome) ↔ ∃ r, rm.find? id = some r := by
  constructor
  · rintro ⟨outcome, returned⟩
    obtain ⟨r, found, _⟩ := bind_eq_ok.mp returned
    exact ⟨r, mutableGet_eq_ok.mp found⟩
  · rintro ⟨r, found⟩
    unfold release
    rw [mutableGet_eq_ok.mpr found]
    dsimp only [bind, Except.bind]
    repeat' split
    all_goals exact ⟨_, rfl⟩

end ReservationManager

end PowerGovernor
