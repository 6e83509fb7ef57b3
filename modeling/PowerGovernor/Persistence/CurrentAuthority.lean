import PowerGovernor.Budget.Capacity
import PowerGovernor.Persistence.FreshIds
import PowerGovernor.Persistence.Generations

/-!
Reservations under the current authority.

Owns what it means that a reservation operation succeeds only under the current
policy, epoch and boot, and the condition on the steps of a run under which every
operation does: no operation after `plan` compares them, so nothing that is still
pending may be left behind when they change.
-/

set_option autoImplicit false

namespace PowerGovernor

namespace Reservation

/-- The reservation was planned under this policy, epoch and boot. -/
structure PlannedUnder (r : Reservation) (policy : PolicyGeneration) (epoch : CoordinatorEpoch)
    (boot : WorkerBootId) : Prop where
  policy : r.policyGeneration = policy
  epoch : r.authority.epoch = epoch
  boot : r.authority.boot = boot

/-- The reservation can still be reserved, admitted or activated. -/
def Pending (r : Reservation) : Prop := r.state.progress < 4

theorem PlannedUnder.of_asPlanned {r r' : Reservation} {policy : PolicyGeneration}
    {epoch : CoordinatorEpoch} {boot : WorkerBootId} (under : r.PlannedUnder policy epoch boot)
    (terms : r'.asPlanned = r.asPlanned) : r'.PlannedUnder policy epoch boot := by
  have authority : r'.asPlanned.authority = r.asPlanned.authority :=
    congrArg Reservation.authority terms
  have generation : r'.asPlanned.policyGeneration = r.asPlanned.policyGeneration :=
    congrArg Reservation.policyGeneration terms
  change r'.authority = r.authority at authority
  change r'.policyGeneration = r.policyGeneration at generation
  constructor
  · rw [generation, under.policy]
  · rw [authority, under.epoch]
  · rw [authority, under.boot]

end Reservation

namespace Governor

/-- The reservation was planned under the authority the Governor has now. -/
def Current (g : Governor) (r : Reservation) : Prop :=
  r.PlannedUnder g.policy.generation g.authority.epoch g.authority.boot

/-- Everything that is still pending is current. -/
def PendingCurrent (g : Governor) : Prop :=
  ∀ r ∈ g.reservations.map.entries, r.Pending → g.Current r

/-- The file was written under the epoch and boot of everything pending, and what
is pending here and what the load restores was planned under its policy. -/
def LoadsCurrent (g : Governor) (file : Option Bytes) : Prop :=
  ∀ bytes, file = some bytes → ∀ envelope, decodeEnvelope bytes = .ok envelope →
    ∀ header rest, decodeHeader.run envelope.blob = .ok (header, rest) →
      (∀ r ∈ g.reservations.map.entries, r.Pending →
        r.authority.epoch = header.epoch ∧ r.authority.boot = header.boot) ∧
      ∀ caps rest', (ByteReader.readAll decodeCap 4).run rest = .ok (caps, rest') →
        (∀ r ∈ g.reservations.map.entries, r.Pending →
          r.policyGeneration = header.policyGeneration) ∧
        ∀ reservations, g.ReachesReservations rest' reservations → ∀ r ∈ reservations,
          r.Pending → r.PlannedUnder header.policyGeneration header.epoch header.boot

end Governor

/-- The call plans under the current policy, and changes the authority only where
everything pending was planned under the new one. -/
def GovernorCall.KeepsCurrent (g : Governor) : GovernorCall → Prop
  | .planReservation _ _ _ _ _ _ policyGen _ _ _ => policyGen = g.policy.generation
  | .installPolicy p => g.Installs p →
    ∀ r ∈ g.reservations.map.entries, r.Pending → r.policyGeneration = p.generation
  | .load file _ => g.LoadsCurrent file
  | _ => True

/-- A reservation is reserved, admitted or activated only under the authority it
was planned under. -/
def GovernorCall.Authentic (g : Governor) : GovernorCall → Prop
  | .reserveReservation id budgetGen now =>
    ∀ g' result, g.reserveReservation id budgetGen now = .ok (g', result) → result.ok = true →
      ∀ r, g.reservations.find? id = some r → g.Current r
  | .admitReservation id now =>
    ∀ g' result, g.admitReservation id now = .ok (g', result) → result.ok = true →
      ∀ r, g.reservations.find? id = some r → g.Current r
  | .activateReservation id budgetGen now =>
    ∀ g' result, g.activateReservation id budgetGen now = .ok (g', result) → result.ok = true →
      ∀ r, g.reservations.find? id = some r → g.Current r
  | _ => True

namespace Governor

variable {g g' : Governor}

/-! ## Call by call -/

theorem PendingCurrent.of_same (current : g.PendingCurrent)
    (reservations : g'.reservations = g.reservations) (authority : g'.authority.epoch =
      g.authority.epoch ∧ g'.authority.boot = g.authority.boot)
    (policy : g'.policy = g.policy) : g'.PendingCurrent := by
  unfold PendingCurrent Current
  rw [reservations, authority.1, authority.2, policy]
  exact current

theorem PendingCurrent.of_find? (current : g.PendingCurrent) {id : ReservationId}
    {r : Reservation} (found : g.reservations.find? id = some r) (pending : r.Pending) :
    g.Current r := current r (Keyed.mem_of_find? found) pending

/-- A pending reservation that an operation leaves was pending under the same
terms before. -/
theorem PendingCurrent.of_rewritten (current : g.PendingCurrent) {id : ReservationId}
    (rewritten : g.reservations.Rewritten id g'.reservations)
    (surroundings : g'.surroundings = g.surroundings) : g'.PendingCurrent := by
  obtain ⟨_, authority, policy, _⟩ : g'.cfg = g.cfg ∧ g'.authority = g.authority ∧
      g'.policy = g.policy ∧ g'.device = g.device := by
    simpa [Governor.surroundings] using surroundings
  intro r member pending
  obtain ⟨before, found, forward, terms⟩ := rewritten.backward (Keyed.find?_of_mem member)
  have under := current.of_find? found (forward.le.trans_lt pending)
  unfold Current
  rw [authority, policy]
  exact under.of_asPlanned terms

theorem PendingCurrent.of_emplace (current : g.PendingCurrent) {r : Reservation}
    (added : g'.reservations = ⟨g.reservations.map.emplace r⟩)
    (surroundings : g'.surroundings = g.surroundings) (new : g.Current r) :
    g'.PendingCurrent := by
  obtain ⟨_, authority, policy, _⟩ : g'.cfg = g.cfg ∧ g'.authority = g.authority ∧
      g'.policy = g.policy ∧ g'.device = g.device := by
    simpa [Governor.surroundings] using surroundings
  unfold PendingCurrent Current
  rw [added, authority, policy]
  exact Keyed.forall_emplace current fun _ => new

theorem PendingCurrent.plan (current : g.PendingCurrent) (workload : WorkloadId)
    (powerClass : WorkloadPowerClass) (scope : PowerDomainId) (budget : BudgetId) (power : Watts)
    (energy : Joules) (deviceGen : DeviceGeneration) (now : Timestamp) (validity : Duration) :
    (g.planReservation workload powerClass scope budget power energy g.policy.generation deviceGen
      now validity).1.PendingCurrent := by
  by_cases taken : g.reservations.map.contains g.ids.allocateReservation.1 = true
  · have refused : (g.planReservation workload powerClass scope budget power energy
        g.policy.generation deviceGen now validity).1 =
          { g with ids := g.ids.allocateReservation.2 } := by
      simp [planReservation, ReservationManager.plan, taken]
    rw [refused]
    exact current
  · refine current.of_emplace (r := ReservationManager.planned g.ids.allocateReservation.1 workload
      powerClass scope budget power energy g.policy.generation deviceGen g.authority.envelope now
      validity) ?_ ?_ ⟨rfl, rfl, rfl⟩
    · simp [planReservation, ReservationManager.plan, taken]
    · simp [planReservation, ReservationManager.plan, taken, surroundings]

theorem PendingCurrent.installPolicy (current : g.PendingCurrent) {p : PowerPolicy}
    (keeps : g.Installs p →
      ∀ r ∈ g.reservations.map.entries, r.Pending → r.policyGeneration = p.generation) :
    (g.installPolicy p).1.PendingCurrent := by
  rcases g.installPolicy_cases p with ⟨installs, installed⟩ | ⟨_, refused⟩
  · rw [installed]
    intro r member pending
    have under := current r member pending
    exact ⟨keeps installs r member pending, under.epoch, under.boot⟩
  · rw [refused]
    exact current

/-- From the budget section on, a load adds reservations and keeps the authority. -/
theorem pendingCurrent_fromBudgets {bytes : Bytes} (current : g.PendingCurrent) (now : Timestamp)
    (restored : ∀ reservations, g.ReachesReservations bytes reservations → ∀ r ∈ reservations,
      r.Pending → g.Current r) : ((fromBudgets now bytes).exec g).2.PendingCurrent := by
  obtain ⟨_, _, reservations, _, reached, fresh, left⟩ := restored_fromBudgets g now bytes
  have kept := keeps_identity now bytes g
  generalize ((fromBudgets now bytes).exec g).2 = g' at kept left
  obtain ⟨authority, _, policy⟩ : g'.authority = g.authority ∧ g'.cfg = g.cfg ∧
      g'.policy = g.policy := by simpa [identity] using kept
  have entries : g'.reservations.map = reservations.foldl Keyed.emplace g.reservations.map :=
    (congrArg (fun s : Restored => s.reservations.map) left).trans
      (reservations_foldl_add _ reservations)
  unfold PendingCurrent Current
  rw [authority, policy, entries, Keyed.entries_foldl_emplace fresh]
  intro r member pending
  rcases List.mem_append.mp member with before | added
  · exact current r before pending
  · rcases reached with none | reached
    · rw [none] at added
      cases added
    · exact restored reservations reached r added pending

theorem PendingCurrent.load (current : g.PendingCurrent) {file : Option Bytes}
    (keeps : g.LoadsCurrent file) (now : Timestamp) : (g.load file now).2.PendingCurrent := by
  cases file with
  | none => exact current
  | some bytes =>
      cases decoded : decodeEnvelope bytes with
      | error text =>
          have untouched : (g.load (some bytes) now).2 = g := by
            unfold Governor.load
            dsimp only
            rw [decoded]
          rw [untouched]
          exact current
      | ok envelope =>
          have recovered := view_load (fun g => (g.reservations, g.authority, g.policy))
            (fun _ => rfl) decoded g now
          simp only [Prod.mk.injEq] at recovered
          obtain ⟨reservations, authority, policy⟩ := recovered
          refine PendingCurrent.of_same ?_ reservations (by rw [authority]; exact ⟨rfl, rfl⟩) policy
          rcases exec_decodeSections_cases g now envelope.blob with
            ⟨e, _, exec⟩ | ⟨header, rest, read, after⟩
          · rw [exec]
            exact current
          obtain ⟨sameOrigin, policies⟩ := keeps bytes rfl envelope decoded header rest read
          rcases after with ⟨e, _, exec⟩ | ⟨policy, rest', readPolicy, exec⟩
          · rw [exec]
            intro r member pending
            obtain ⟨epoch, boot⟩ := sameOrigin r member pending
            exact ⟨(current r member pending).policy, epoch, boot⟩
          · rw [exec]
            obtain ⟨caps, readCaps, rfl⟩ := decodePolicy_eq_ok.mp readPolicy
            obtain ⟨samePolicy, restored⟩ := policies caps rest' readCaps
            have generation : (policyWithCaps ⟨g.ids.policy + 1⟩ header caps).generation =
                header.policyGeneration := generation_policyWithCaps readCaps
            apply pendingCurrent_fromBudgets
            · intro r member pending
              obtain ⟨epoch, boot⟩ := sameOrigin r member pending
              exact ⟨(samePolicy r member pending).trans generation.symm, epoch, boot⟩
            · intro reservations reached r member pending
              have under := restored reservations reached r member pending
              exact ⟨under.policy.trans generation.symm, under.epoch, under.boot⟩

/-! ## Runs -/

/-- Every call that meets the condition leaves only current reservations pending. -/
theorem PendingCurrent.after (current : g.PendingCurrent) {call : GovernorCall}
    (keeps : call.KeepsCurrent g) : (call.after g).PendingCurrent := by
  have known : ∀ lifecycleCall, call.lifecycle g = some lifecycleCall →
      lifecycleCall.plans = false → (call.after g).PendingCurrent := by
    intro lifecycleCall is other
    obtain ⟨rewritten, _⟩ := ReservationCall.rewritten_after (s := g.books) other
    have books : (call.after g).reservations = _ :=
      congrArg Books.reservations (GovernorCall.books_after is)
    rw [← books] at rewritten
    exact current.of_rewritten rewritten (GovernorCall.surroundings_after is)
  cases call with
  | planReservation workload powerClass scope budget power energy policyGen deviceGen now
      validity =>
      obtain rfl : policyGen = g.policy.generation := keeps
      exact current.plan workload powerClass scope budget power energy deviceGen now validity
  | installPolicy p => exact current.installPolicy keeps
  | load file now => exact current.load keeps now
  | validateReservation => exact known _ rfl rfl
  | reserveReservation => exact known _ rfl rfl
  | admitReservation => exact known _ rfl rfl
  | activateReservation => exact known _ rfl rfl
  | releaseReservation => exact known _ rfl rfl
  | observeBackend sample now =>
      obtain ⟨generation, left⟩ := observeBackend_leaves sample now g
      rw [show GovernorCall.after g (.observeBackend sample now) = _ from left]
      refine current.of_same rfl ?_ rfl
      unfold AuthorityGate.advanceObservation
      split <;> exact ⟨rfl, rfl⟩
  | decideFor budget workload cls requested requestedEnergy duration now =>
      obtain ⟨burst, engine, ids, drawn, left⟩ := decideFor_leaves budget workload cls
        requested requestedEnergy duration now g
      rw [show GovernorCall.after g (.decideFor budget workload cls requested requestedEnergy
        duration now) = _ from left]
      exact current.of_same rfl ⟨rfl, rfl⟩ rfl
  | _ => exact current

/-- Where only current reservations are pending, every operation is authentic. -/
theorem PendingCurrent.authentic (current : g.PendingCurrent) (call : GovernorCall) :
    call.Authentic g := by
  cases call with
  | reserveReservation id budgetGen now =>
      intro g' result returned accepted r found
      obtain ⟨left, called, _⟩ := exec_of_reserveReservation returned
      cases ReservationCall.returns_reserve called with
      | reserved reserves =>
          obtain ⟨_, same, early, _⟩ := reserves
          obtain rfl := Option.some.inj (same.symm.trans found)
          refine current.of_find? found ?_
          rcases early with planned | validated
          · simp [Reservation.Pending, planned, ReservationState.progress]
          · simp [Reservation.Pending, validated, ReservationState.progress]
      | _ => cases accepted
  | admitReservation id now =>
      intro g' result returned accepted r found
      obtain ⟨left, called, _⟩ := exec_of_admitReservation returned
      cases ReservationCall.returns_admitReservation called with
      | admitted same reserved =>
          obtain rfl := Option.some.inj (same.symm.trans found)
          refine current.of_find? found ?_
          simp [Reservation.Pending, reserved, ReservationState.progress]
      | _ => cases accepted
  | activateReservation id budgetGen now =>
      intro g' result returned accepted r found
      obtain ⟨left, called, _⟩ := exec_of_activateReservation returned
      cases ReservationCall.returns_activate called with
      | activated activates =>
          obtain ⟨same, waiting, _⟩ := activates
          obtain rfl := Option.some.inj (same.symm.trans found)
          refine current.of_find? found ?_
          rcases waiting with reserved | admitted
          · simp [Reservation.Pending, reserved, ReservationState.progress]
          · simp [Reservation.Pending, admitted, ReservationState.progress]
      | _ => cases accepted
  | _ => trivial

theorem pendingCurrent_construct (cfg : GovernorConfig) (ids : Allocators) :
    (construct cfg ids).PendingCurrent := by
  intro r member
  cases member

/-- In every run that plans under the current policy, and changes the authority
only where everything pending was planned under the new one, reservations are
reserved, admitted and activated under the authority they were planned under. -/
theorem authentic_of_keepsCurrent (cfg : GovernorConfig) (ids : Allocators)
    (calls : List GovernorCall)
    (keeps : Along GovernorCall.after (fun g call => call.KeepsCurrent g) (construct cfg ids)
      calls) :
    Along GovernorCall.after (fun g call => call.Authentic g) (construct cfg ids) calls :=
  keeps.of_invariant PendingCurrent
    (fun _ call current keeps => ⟨current.authentic call, current.after keeps⟩)
    (pendingCurrent_construct cfg ids)

/-- A policy, a budget and a reservation planned under the policy. -/
def plannedUnderFirst : List GovernorCall :=
  [.installPolicy (PowerPolicy.defaults ⟨5⟩ defaultName),
    .installBudget BudgetManager.nodeBudget,
    .planReservation ⟨1⟩ .throughput ⟨0⟩ ⟨1⟩ (Watts.clamped 100) Joules.zero .first .null
      Timestamp.zero Duration.zero]

/-- The next policy, which finds the reservation pending, and its reservation. -/
def rolledOver : List GovernorCall :=
  [.installPolicy { PowerPolicy.defaults ⟨5⟩ defaultName with generation := ⟨2⟩ },
    .reserveReservation ⟨1⟩ .first Timestamp.zero]

theorem authentic_of_keepsCurrent_planned :
    Along GovernorCall.after (fun g call => call.Authentic g)
      (construct ⟨⟨1⟩, ⟨1⟩, .first⟩ .start)
      (plannedUnderFirst ++ [.reserveReservation ⟨1⟩ .first Timestamp.zero]) := by
  refine authentic_of_keepsCurrent _ _ _ ⟨fun _ r member => ?_, trivial, ?_, trivial, trivial⟩
  · cases member
  · change Generation.first = _
    decide +kernel

/-- The reservation of the superseded policy is reserved. -/
theorem reserved_after_rollover :
    ¬ ∀ (cfg : GovernorConfig) (ids : Allocators) (calls : List GovernorCall),
      Along GovernorCall.after (fun g call => call.Authentic g) (construct cfg ids) calls := by
  intro claimed
  obtain ⟨_, _, _, _, last, _⟩ :=
    claimed ⟨⟨1⟩, ⟨1⟩, .first⟩ .start (plannedUnderFirst ++ rolledOver)
  let g := (plannedUnderFirst ++ rolledOver.take 1).foldl GovernorCall.after
    (construct ⟨⟨1⟩, ⟨1⟩, .first⟩ .start)
  have accepted : ((g.reserveReservation ⟨1⟩ .first Timestamp.zero).toOption.map
      fun outcome => outcome.2.ok) = some true := by decide +kernel
  have planned : (g.reservations.find? ⟨1⟩).map Reservation.policyGeneration = some ⟨1⟩ := by
    decide +kernel
  have current : g.policy.generation = ⟨2⟩ := by decide +kernel
  replace last : GovernorCall.Authentic g (.reserveReservation ⟨1⟩ .first Timestamp.zero) := last
  generalize g = g at *
  obtain ⟨r, found, generation⟩ := Option.map_eq_some_iff.mp planned
  obtain ⟨⟨g', result⟩, returned, ok⟩ := Option.map_eq_some_iff.mp accepted
  have under := last g' result ?_ ok r found
  · have same := under.policy
    rw [generation, current] at same
    cases same
  · cases outcome : g.reserveReservation ⟨1⟩ .first Timestamp.zero with
    | error fault =>
        rw [outcome] at returned
        cases returned
    | ok pair =>
        rw [outcome] at returned
        exact congrArg Except.ok (Option.some.inj returned)

end Governor

end PowerGovernor
