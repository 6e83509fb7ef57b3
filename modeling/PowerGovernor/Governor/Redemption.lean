import PowerGovernor.Budget.Availability
import PowerGovernor.Governor.AllowSoundness
import PowerGovernor.Governor.Lifecycle
import PowerGovernor.Reservation.Lifecycle

/-!
Decisions taken up as reservations.

Owns the calls that book nothing, what such calls leave of the budgets and of a reservation
that waits, and the theorem that an amount a decision advised can be reserved: as long as
nothing else was booked in between, the reservation planned for it is accepted.
-/

set_option autoImplicit false

namespace PowerGovernor

/-! ## Reservations that wait -/

namespace ReservationManager

/-- A reservation planned under these terms has not been reserved yet. -/
def Waiting (rm : ReservationManager) (r : Reservation) : Prop :=
  ∃ stored, rm.find? r.id = some stored ∧
    (stored.state = .planned ∨ stored.state = .validated) ∧ stored.asPlanned = r

theorem find?_emplace {rm : ReservationManager} {r : Reservation} (fresh : rm.find? r.id = none)
    (id : ReservationId) : (⟨rm.map.emplace r⟩ : ReservationManager).find? id =
      if id = r.id then some r else rm.find? id := Keyed.find?_emplace fresh id

end ReservationManager

namespace Books

variable {s : Books} {id : ReservationId} {r stored : Reservation}
  {f : Reservation → Reservation} {keeps : ∀ r, (f r).id = r.id} {budgets : BudgetManager}

theorem waiting_write (waiting : s.reservations.Waiting r)
    (found : s.reservations.find? id = some stored)
    (terms : (f stored).asPlanned = stored.asPlanned)
    (early : stored.state = .planned ∨ stored.state = .validated →
      (f stored).state = .planned ∨ (f stored).state = .validated) :
    (s.write id f keeps budgets).reservations.Waiting r := by
  obtain ⟨own, ownFound, ownEarly, ownTerms⟩ := waiting
  by_cases same : r.id = id
  · subst same
    obtain rfl := Option.some.inj (ownFound.symm.trans found)
    exact ⟨f own, find?_write_self found, early ownEarly, terms.trans ownTerms⟩
  · exact ⟨own, (find?_write_of_ne same).trans ownFound, ownEarly, ownTerms⟩

end Books

namespace ReservationCall

variable {s : Books} {r : Reservation}

theorem waiting_validate (waiting : s.reservations.Waiting r) (id : ReservationId)
    (policyGen : PolicyGeneration) : (after s (.validate id policyGen)).reservations.Waiting r := by
  unfold after
  cases returned : exec s (.validate id policyGen) with
  | error fault => exact waiting
  | ok outcome =>
      obtain ⟨result, s'⟩ := outcome
      cases returns_validate returned with
      | refused => exact waiting
      | validated found _ _ => exact Books.waiting_write waiting found rfl fun _ => .inr rfl
      | lapsed lapses => exact lapses.elim

/-- Only a reservation that was reserved before can be admitted or lapse. -/
theorem waiting_admit (waiting : s.reservations.Waiting r) (id : ReservationId)
    (now : Timestamp) : (after s (.admitReservation id now)).reservations.Waiting r := by
  have past {stored : Reservation} (reserved : stored.state = .reserved) {P : Prop}
      (early : stored.state = .planned ∨ stored.state = .validated) : P := by
    rw [reserved] at early
    rcases early with planned | validated
    · cases planned
    · cases validated
  unfold after
  cases returned : exec s (.admitReservation id now) with
  | error fault => exact waiting
  | ok outcome =>
      obtain ⟨result, s'⟩ := outcome
      cases returns_admitReservation returned with
      | refused => exact waiting
      | lapsed lapses => exact Books.waiting_write waiting lapses.1 rfl (past lapses.2.1)
      | admitted found reserved => exact Books.waiting_write waiting found rfl (past reserved)

/-- A plan draws an id that no waiting reservation has. -/
theorem waiting_plan (waiting : s.reservations.Waiting r) (workload : WorkloadId)
    (powerClass : WorkloadPowerClass) (scope : PowerDomainId) (budget : BudgetId)
    (requestedPower : Watts) (requestedEnergy : Joules) (policyGen : PolicyGeneration)
    (deviceGen : DeviceGeneration) (authority : AuthorityEnvelope) (now : Timestamp)
    (validity : Duration) :
    (after s (.plan workload powerClass scope budget requestedPower requestedEnergy policyGen
      deviceGen authority now validity)).reservations.Waiting r := by
  obtain ⟨stored, found, early, terms⟩ := waiting
  unfold after
  dsimp only [exec]
  by_cases fresh : s.reservations.find? ⟨s.ids.reservation⟩ = none
  · rw [ReservationManager.plan_of_free fresh]
    have other : r.id ≠ ⟨s.ids.reservation⟩ := by
      intro same
      rw [same, fresh] at found
      cases found
    refine ⟨stored, ?_, early, terms⟩
    rw [ReservationManager.find?_emplace fresh, if_neg other, found]
  · rw [ReservationManager.plan_of_taken fresh]
    exact ⟨stored, found, early, terms⟩

/-- The calls that neither reserve, activate nor release leave the budgets alone. -/
theorem budgets_of_effect {call : ReservationCall} {s' : Books} (effect : Effect s call s')
    (reserves : ∀ r gen, ¬ call.Reserves s r gen) (activates : ∀ r, ¬ call.Activates s r)
    (releases : ∀ r gen, ¬ call.Releases s r gen) : s'.budgets = s.budgets := by
  cases effect with
  | idle _ budgets => exact budgets
  | plan | quiet | lapse => rfl
  | reserve some => exact absurd some (reserves _ _)
  | activate some => exact absurd some (activates _)
  | release some => exact absurd some (releases _ _)

end ReservationCall

/-! ## Calls that book nothing -/

namespace GovernorCall

/-- All but the calls that change the budgets or end a reservation. -/
def booksNothing : GovernorCall → Bool
  | .installPolicy _ | .planReservation .. | .validateReservation .. | .admitReservation ..
  | .observeBackend .. | .decideFor .. | .accountEnergy .. | .resetHysteresis
  | .invalidateLiveTelemetry => true
  | .installBudget _ | .budgetManager _ | .reserveReservation .. | .activateReservation ..
  | .releaseReservation .. | .load .. => false

variable {g : Governor} {call : GovernorCall} {r : Reservation}

/-- The lifecycle call behind it, if there is one, is a plan, a validation or an admission. -/
theorem lifecycle_of_nothing (nothing : call.booksNothing = true) {lifecycleCall : ReservationCall}
    (is : call.lifecycle g = some lifecycleCall) :
    (lifecycleCall.after g.books).budgets = g.budgets ∧
      (g.reservations.Waiting r → (lifecycleCall.after g.books).reservations.Waiting r) := by
  have budgets := lifecycleCall.effect g.books
  cases call with
  | planReservation =>
      obtain rfl := Option.some.inj is
      exact ⟨ReservationCall.budgets_of_effect budgets (fun _ _ => id) (fun _ => id) fun _ _ => id,
        fun waiting => ReservationCall.waiting_plan waiting _ _ _ _ _ _ _ _ _ _ _⟩
  | validateReservation =>
      obtain rfl := Option.some.inj is
      exact ⟨ReservationCall.budgets_of_effect budgets (fun _ _ => id) (fun _ => id) fun _ _ => id,
        fun waiting => ReservationCall.waiting_validate waiting _ _⟩
  | admitReservation =>
      obtain rfl := Option.some.inj is
      exact ⟨ReservationCall.budgets_of_effect budgets (fun _ _ => id) (fun _ => id) fun _ _ => id,
        fun waiting => ReservationCall.waiting_admit waiting _ _⟩
  | reserveReservation | activateReservation | releaseReservation => cases nothing
  | _ => cases is

/-- The other calls touch neither ledger. -/
theorem ledgers_of_nothing (nothing : call.booksNothing = true)
    (other : call.lifecycle g = none) :
    (call.after g).budgets = g.budgets ∧ (call.after g).reservations = g.reservations := by
  cases call with
  | installPolicy p =>
      show (g.installPolicy p).1.budgets = g.budgets ∧
        (g.installPolicy p).1.reservations = g.reservations
      rcases g.installPolicy_cases p with ⟨_, installed⟩ | ⟨_, refused⟩
      · rw [installed]
        exact ⟨rfl, rfl⟩
      · rw [refused]
        exact ⟨rfl, rfl⟩
  | observeBackend sample now =>
      obtain ⟨generation, left⟩ := Governor.observeBackend_leaves sample now g
      have budgets := congrArg Governor.budgets left
      have reservations := congrArg Governor.reservations left
      exact ⟨budgets, reservations⟩
  | decideFor budget workload cls requested requestedEnergy duration now =>
      obtain ⟨burst, engine, ids, _, left⟩ :=
        Governor.decideFor_leaves budget workload cls requested requestedEnergy duration now g
      have budgets := congrArg Governor.budgets left
      have reservations := congrArg Governor.reservations left
      exact ⟨budgets, reservations⟩
  | accountEnergy | resetHysteresis | invalidateLiveTelemetry => exact ⟨rfl, rfl⟩
  | installBudget | budgetManager | load => cases nothing
  | _ => cases other

theorem budgets_after (nothing : call.booksNothing = true) :
    (call.after g).budgets = g.budgets := by
  cases is : call.lifecycle g with
  | none => exact (ledgers_of_nothing nothing is).1
  | some lifecycleCall =>
      have books := congrArg Books.budgets (books_after is)
      exact books.trans (lifecycle_of_nothing (r := .blank) nothing is).1

/-- A reservation that waits still waits. -/
theorem waiting_after (nothing : call.booksNothing = true) (waiting : g.reservations.Waiting r) :
    (call.after g).reservations.Waiting r := by
  cases is : call.lifecycle g with
  | none =>
      rw [(ledgers_of_nothing nothing is).2]
      exact waiting
  | some lifecycleCall =>
      have books : (call.after g).reservations = (lifecycleCall.after g.books).reservations :=
        congrArg Books.reservations (books_after is)
      rw [books]
      exact (lifecycle_of_nothing nothing is).2 waiting

theorem budgets_foldl {calls : List GovernorCall} (nothing : ∀ c ∈ calls, c.booksNothing = true) :
    (calls.foldl after g).budgets = g.budgets := by
  induction calls generalizing g with
  | nil => rfl
  | cons call calls inductionHypothesis =>
      obtain ⟨first, rest⟩ := List.forall_mem_cons.mp nothing
      exact (inductionHypothesis rest).trans (budgets_after first)

theorem waiting_foldl {calls : List GovernorCall} (nothing : ∀ c ∈ calls, c.booksNothing = true)
    (waiting : g.reservations.Waiting r) : (calls.foldl after g).reservations.Waiting r := by
  induction calls generalizing g with
  | nil => exact waiting
  | cons call calls inductionHypothesis =>
      obtain ⟨first, rest⟩ := List.forall_mem_cons.mp nothing
      exact inductionHypothesis rest (waiting_after first waiting)

end GovernorCall

/-! ## Advice that is taken up -/

namespace Governor

variable {g g₁ : Governor} {budget : BudgetId} {workload : WorkloadId}
  {cls : WorkloadPowerClass} {requested : Watts} {requestedEnergy : Joules} {duration : ℚ}
  {now : Timestamp} {d : Decision}

/-- The decision allows a request of this amount, or carries a limit that covers it. -/
def Advises (d : Decision) (requested amount : Watts) : Prop :=
  d.verdict = .allow ∧ amount.value ≤ requested.value ∨
    ∃ limit, d.recommendedLimit = some limit ∧ amount.value ≤ limit.value

/-- What a decision on a known budget advises is available there. -/
theorem available_of_advises
    (returned : (decideFor budget workload cls requested requestedEnergy duration now).exec g =
      (.ok d, g₁)) (valid : budget.isValid = true) (known : g.budgets.has budget = true)
    {amount : Watts} (advises : Advises d requested amount) :
    amount.value ≤ (g.budgets.available budget).value + slack := by
  obtain ⟨input, engine, outcome, fills, resolved, verdict, limited⟩ := limit_of_decideFor returned
  have respects := DecisionEngine.respects_resolve resolved
  have isCap : input.IsCap (g.budgets.available budget) :=
    .inr (.inl (fills.available valid known))
  rcases advises with ⟨allow, within⟩ | ⟨limit, found, within⟩
  · obtain ⟨passed, _⟩ := respects.allow (verdict ▸ allow)
    have below := DecisionInput.requested_le_cap passed.underCeiling isCap
    rw [fills.requested] at below
    exact within.trans below
  · exact within.trans (respects.limit limit _ (limited ▸ found) isCap)

/-- An accepted plan leaves the reservation waiting. -/
theorem waiting_of_planReservation {power : Watts} {energy : Joules} {scope : PowerDomainId}
    {policyGen : PolicyGeneration} {deviceGen : DeviceGeneration} {validity : Duration}
    {id : ReservationId} {reason : String}
    (planned : g.planReservation workload cls scope budget power energy policyGen deviceGen now
      validity = (g₁, ⟨true, reason, id⟩)) :
    g₁.budgets = g.budgets ∧ ∃ r, r.id = id ∧ g₁.reservations.Waiting r ∧ r.budget = budget ∧
      r.requestedPower = power ∧ r.created = now ∧ r.validity = validity := by
  by_cases fresh : g.reservations.find? ⟨g.ids.reservation⟩ = none
  · obtain ⟨g', ended, books⟩ := planReservation_fresh fresh workload cls scope budget power energy
      policyGen deviceGen now validity
    obtain ⟨rfl, same⟩ := Prod.mk.inj (ended.symm.trans planned)
    obtain rfl : (⟨g.ids.reservation⟩ : ReservationId) = id := congrArg ReservationResult.id same
    refine ⟨congrArg Books.budgets books, ReservationManager.planned ⟨g.ids.reservation⟩ workload
      cls scope budget power energy policyGen deviceGen g.authority.envelope now validity, rfl,
      ?_, rfl, rfl, rfl, rfl⟩
    have reservations := congrArg Books.reservations books
    refine ⟨ReservationManager.planned ⟨g.ids.reservation⟩ workload cls scope budget power energy
      policyGen deviceGen g.authority.envelope now validity, ?_, .inl rfl, rfl⟩
    show g'.books.reservations.find? _ = _
    rw [reservations]
    exact (ReservationManager.find?_emplace fresh _).trans (if_pos rfl)
  · have refused : (g.planReservation workload cls scope budget power energy policyGen deviceGen
        now validity).2.ok = false := by
      unfold planReservation
      rw [ReservationManager.plan_of_taken fresh]
      rfl
    rw [planned] at refused
    cases refused

/-- A waiting reservation is reserved under the generation of its budget if what it asks for
is available there and it has not expired. -/
theorem reserve_of_waiting {r : Reservation} (waiting : g.reservations.Waiting r)
    {st : BudgetState} (installed : g.budgets.state? r.budget = some st)
    (authoritative : st.cfg.authoritative = true) (valid : r.budget.isValid = true)
    (ancestors : ∀ upper, g.budgets.InSubtree r.budget upper → g.budgets.has upper = true)
    (enough : r.requestedPower.value ≤ (g.budgets.available r.budget).value + slack)
    {redeemed : Timestamp} (timely : redeemed.ns - r.created.ns ≤ r.validity.ns) :
    ∃ g' r', g.reserveReservation r.id st.cfg.generation redeemed = .ok (g', .accepted "reserved") ∧
      g'.reservations.find? r.id = some r' ∧ r'.state = .reserved ∧
      r'.reservedPower = r.requestedPower := by
  obtain ⟨stored, found, early, terms⟩ := waiting
  subst terms
  have bookable : g.budgets.Bookable true stored.budget stored.requestedPower
      st.cfg.generation :=
    ⟨⟨st, installed, rfl, fun _ => authoritative⟩,
      (BudgetManager.room_iff_le_available valid
        (BudgetManager.rooted_of_ancestors ancestors)).mpr enough⟩
  have alive : stored.expired redeemed = .ok false := Reservation.alive_of_within timely
  have reservable : ¬ (stored.state ≠ .validated ∧ stored.state ≠ .planned) := by
    rintro ⟨notValidated, notPlanned⟩
    exact early.elim notPlanned notValidated
  obtain ⟨g', reserved, books⟩ := reserveReservation_returns
    (ReservationCall.exec_reserve (s := g.books) found reservable alive bookable)
  have reservations := congrArg Books.reservations books
  exact ⟨g', stored.reservedUnder st.cfg.generation, reserved,
    (congrArg (fun rm => rm.find? stored.id) reservations).trans (Books.find?_write_self found),
    rfl, rfl⟩

/-- Advice can be taken up. In every state, whatever engine and device say, an amount that a
decision on an installed budget advised is reserved when it is asked for: as long as the calls
between the decision and the plan, and between the plan and the reservation, book nothing, and
the reservation is made in its time and under the generation of the budget. -/
theorem advice_taken_up
    (returned : (decideFor budget workload cls requested requestedEnergy duration now).exec g =
      (.ok d, g₁))
    {st : BudgetState} (installed : g.budgets.state? budget = some st)
    (valid : budget.isValid = true) (authoritative : st.cfg.authoritative = true)
    (ancestors : ∀ upper, g.budgets.InSubtree budget upper → g.budgets.has upper = true)
    {amount : Watts} (advises : Advises d requested amount)
    {before after : List GovernorCall}
    (nothingBefore : ∀ call ∈ before, call.booksNothing = true)
    (nothingAfter : ∀ call ∈ after, call.booksNothing = true)
    {planner : WorkloadId} {planClass : WorkloadPowerClass} {scope : PowerDomainId}
    {energy : Joules} {policyGen : PolicyGeneration} {deviceGen : DeviceGeneration}
    {created : Timestamp} {validity : Duration} {g₂ : Governor} {id : ReservationId}
    {reason : String}
    (planned : (before.foldl GovernorCall.after g₁).planReservation planner planClass scope budget
      amount energy policyGen deviceGen created validity = (g₂, ⟨true, reason, id⟩))
    {redeemed : Timestamp} (timely : redeemed.ns - created.ns ≤ validity.ns) :
    ∃ g₃ r, (after.foldl GovernorCall.after g₂).reserveReservation id st.cfg.generation redeemed =
        .ok (g₃, .accepted "reserved") ∧
      g₃.reservations.find? id = some r ∧ r.state = .reserved ∧ r.reservedPower = amount := by
  have known : g.budgets.has budget = true := BudgetManager.has_iff.mpr ⟨st, installed⟩
  have available := available_of_advises returned valid known advises
  obtain ⟨planBudgets, r, rfl, waiting, rfl, rfl, rfl, rfl⟩ := waiting_of_planReservation planned
  have budgets : (after.foldl GovernorCall.after g₂).budgets = g.budgets := by
    have decided : (GovernorCall.decideFor r.budget workload cls requested requestedEnergy
        duration now).after g = g₁ := congrArg Prod.snd returned
    rw [GovernorCall.budgets_foldl nothingAfter, planBudgets,
      GovernorCall.budgets_foldl nothingBefore, ← decided, GovernorCall.budgets_after rfl]
  have stillWaiting := GovernorCall.waiting_foldl nothingAfter waiting
  rw [← budgets] at installed ancestors available
  exact reserve_of_waiting stillWaiting installed authoritative valid ancestors available timely

/-- A budget of 100 W and a fresh observation. -/
def oneBudget : Governor := (observedRun [.installBudget (budgetOf 2 0 1 100)]).1

/-- The Governor after it was asked for 5 W. -/
def asked : Governor :=
  ((decideFor ⟨2⟩ ⟨1⟩ .throughput (Watts.clamped 5) Joules.zero 0 decisionTime).exec oneBudget).2

/-- 3 W are planned after some energy was accounted. -/
def plannedThree : Governor × ReservationResult :=
  ([GovernorCall.accountEnergy ⟨1⟩ Joules.zero .unknown decisionTime].foldl GovernorCall.after
    asked).planReservation ⟨1⟩ .throughput ⟨1⟩ ⟨2⟩ (Watts.clamped 3) Joules.zero .first .first
      decisionTime Duration.oneSecond

theorem advice_taken_up_oneBudget : ∃ g₃ r,
    ([GovernorCall.validateReservation ⟨1⟩ .first].foldl GovernorCall.after
      plannedThree.1).reserveReservation ⟨1⟩ .first decisionTime =
        .ok (g₃, .accepted "reserved") ∧
      g₃.reservations.find? ⟨1⟩ = some r ∧ r.state = .reserved ∧
      r.reservedPower = Watts.clamped 3 := by
  have allows : oneBudget.Allows ⟨2⟩ (Watts.clamped 5) decisionTime := by decide +kernel
  obtain ⟨d, g₁, returned, allow⟩ := allows
  obtain rfl : asked = g₁ := congrArg Prod.snd returned
  have installed : oneBudget.budgets.state? ⟨2⟩ =
      some ⟨budgetOf 2 0 1 100, Watts.zero, Watts.zero⟩ := by decide +kernel
  have accepted : plannedThree.2 = ⟨true, "planned", ⟨1⟩⟩ := by decide +kernel
  have within : (Watts.clamped 3).value ≤ (Watts.clamped 5).value := by decide +kernel
  have ancestors : ∀ upper, oneBudget.budgets.InSubtree ⟨2⟩ upper →
      oneBudget.budgets.has upper = true := by
    intro upper above
    have root : oneBudget.budgets.parentOf ⟨2⟩ = none := by decide +kernel
    rcases above.cases_head with rfl | ⟨child, parent, _⟩
    · exact BudgetManager.has_iff.mpr ⟨_, installed⟩
    · cases root.symm.trans parent
  exact advice_taken_up returned installed rfl rfl ancestors (.inl ⟨allow, within⟩)
    (List.forall_mem_singleton.mpr rfl) (List.forall_mem_singleton.mpr rfl)
    (Prod.ext rfl accepted) (by decide)

end Governor

end PowerGovernor
