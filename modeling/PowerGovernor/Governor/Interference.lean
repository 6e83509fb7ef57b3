import PowerGovernor.Decision.Hysteresis
import PowerGovernor.Governor.Agreement
import PowerGovernor.Governor.AllowSoundness

/-!
Decisions of independent workloads.

Owns two runs of a Governor that make the same calls, up to extra decisions of the
second one for other workloads on budgets that share no ancestor, and the proof of
what these decisions reach. A Governor has one decision engine, so its last verdict
is the last one of any workload: a default ALLOW waits until that verdict is old
enough. Nothing else that a decision writes is read by another decision.
-/

set_option autoImplicit false

namespace PowerGovernor

/-! ## What decisions do not reach -/

namespace Governor

/-- The Governor without the traces of its decisions: the last verdict and the
number of ids drawn for decisions. -/
def undecided (g : Governor) : Governor :=
  { g with
    engine := { g.engine with last := none }
    ids := { g.ids with decision := 0 } }

variable {g : Governor}

theorem undecided_installPolicy (p : PowerPolicy) :
    (g.undecided.installPolicy p).1 = (g.installPolicy p).1.undecided := by
  have same : g.undecided.policy = g.policy := rfl
  unfold installPolicy
  rw [same]
  repeat' split
  all_goals rfl

/-! ### Reservations -/

theorem undecided_updateIndexState (g : Governor) (id : ReservationId)
    (state : ReservationState) :
    g.undecided.updateIndexState id state = (g.updateIndexState id state).undecided := by
  have same : g.undecided.reservations = g.reservations := rfl
  unfold updateIndexState
  rw [same]
  cases g.reservations.find? id <;> rfl

theorem undecided_finish (g : Governor) (id : ReservationId) (state : ReservationState)
    (result : ReservationResult) :
    (g.undecided.finish id state result).1 = (g.finish id state result).1.undecided := by
  unfold finish
  split
  · exact undecided_updateIndexState g id state
  · rfl

/-- A reservation operation that ends in `finish` and that decisions do not reach up
to there is not reached by them at all. -/
theorem undecided_settle {α : Type} {first : Except Fault α} {next next' : α → Governor}
    {id : ReservationId} {state : ReservationState} {result : α → ReservationResult}
    (same : ∀ a, next' a = (next a).undecided) :
    g.undecided.settle (first >>= fun a => Except.ok ((next' a).finish id state (result a))) =
      (g.settle (first >>= fun a =>
        Except.ok ((next a).finish id state (result a)))).undecided := by
  cases first with
  | error fault => rfl
  | ok a =>
      show ((next' a).finish id state (result a)).1 =
        ((next a).finish id state (result a)).1.undecided
      rw [same, undecided_finish]

/-- A plan draws from the reservation ids alone. -/
theorem plan_undecided (rm : ReservationManager) (ids : Allocators) (drawn : UInt64)
    (authority : AuthorityEnvelope) {workload : WorkloadId} {powerClass : WorkloadPowerClass}
    {scope : PowerDomainId} {budget : BudgetId} {power : Watts} {energy : Joules}
    {policyGen : PolicyGeneration} {deviceGen : DeviceGeneration} {now : Timestamp}
    {validity : Duration} :
    rm.plan { ids with decision := drawn } workload powerClass scope budget power energy policyGen
        deviceGen authority now validity =
      let (result, rm', ids') := rm.plan ids workload powerClass scope budget power energy
        policyGen deviceGen authority now validity
      (result, rm', { ids' with decision := drawn }) := by
  unfold ReservationManager.plan
  dsimp only [Allocators.allocateReservation]
  split <;> rfl

theorem undecided_planReservation {workload : WorkloadId} {powerClass : WorkloadPowerClass}
    {scope : PowerDomainId} {budget : BudgetId} {power : Watts} {energy : Joules}
    {policyGen : PolicyGeneration} {deviceGen : DeviceGeneration} {now : Timestamp}
    {validity : Duration} :
    (g.undecided.planReservation workload powerClass scope budget power energy policyGen deviceGen
      now validity).1 =
    (g.planReservation workload powerClass scope budget power energy policyGen deviceGen now
      validity).1.undecided := by
  have planned : g.undecided.reservations.plan g.undecided.ids workload powerClass scope budget
      power energy policyGen deviceGen g.undecided.authority.envelope now validity = _ :=
    plan_undecided g.reservations g.ids 0 g.authority.envelope
  unfold planReservation
  dsimp only
  rw [planned]
  generalize g.reservations.plan g.ids workload powerClass scope budget power energy policyGen
    deviceGen g.authority.envelope now validity = ended
  obtain ⟨result, rm, ids⟩ := ended
  by_cases accepted : result.ok = true
  · rw [if_pos accepted, if_pos accepted]
    rfl
  · rw [if_neg accepted, if_neg accepted]
    rfl

/-! ### Observations and decisions -/

/-- An observation does not ask for the decisions made before it. -/
theorem ignores_observeBackend (sample : BackendSample) (now : Timestamp) :
    Stateful.Ignores undecided (observeBackend sample now) := by
  have rest : ∀ id : ObservationId, Stateful.Ignores undecided (do
      onDevice (DeviceState.ingest sample now)
      modify fun g : Governor =>
        { g with authority := g.authority.advanceObservation (g.device.getD .blank).obsGen }
      return id) := by
    intro id
    apply Stateful.ignores_bind
    · exact Stateful.ignores_zoom _ (fun _ => rfl) fun _ _ => rfl
    intro _
    apply Stateful.ignores_bind
    · exact Stateful.ignores_modify fun _ => rfl
    exact fun _ => Stateful.ignores_pure _
  intro g
  exact rest ⟨g.ids.observation⟩ { g with ids := g.ids.allocateObservation.2 }

/-- The input of a decision does not depend on the decisions made before it. -/
theorem ignores_fillInput (budget : BudgetId) (cls : WorkloadPowerClass) (requested : Watts)
    (requestedEnergy : Joules) (duration : ℚ) (now : Timestamp) :
    Stateful.Ignores undecided (fillInput budget cls requested requestedEnergy duration now) := by
  apply Stateful.ignores_get_bind
  · exact fun _ => rfl
  intro g
  apply Stateful.ignores_ite
  · exact Stateful.ignores_zoom _ (fun _ => rfl) fun _ _ => rfl
  · exact Stateful.ignores_pure _

/-- A decision leaves what filling in its input leaves, and its own traces. -/
theorem undecided_decideFor (budget : BudgetId) (workload : WorkloadId) (cls : WorkloadPowerClass)
    (requested : Watts) (requestedEnergy : Joules) (duration : ℚ) (now : Timestamp)
    (g : Governor) :
    ((decideFor budget workload cls requested requestedEnergy duration now).exec g).2.undecided =
      ((fillInput budget cls requested requestedEnergy duration now).exec g).2.undecided := by
  have kept : ∀ input, Stateful.Keeps undecided (evaluateFilled input now) := by
    intro input g
    unfold evaluateFilled
    rw [Stateful.exec_bind_of_ok (Stateful.exec_get g), Stateful.exec_bind, Stateful.exec_ofExcept]
    cases evaluated : g.engine.evaluate g.ids input now with
    | error fault => rfl
    | ok decided =>
        obtain ⟨outcome, _, made⟩ := bind_eq_ok.mp evaluated
        obtain rfl := Except.ok.inj made
        rfl
  exact Stateful.view_bind kept g

/-! ### Recovery -/

theorem ignores_decodeSections (now : Timestamp) (blob : Bytes) :
    Stateful.Ignores undecided (decodeSections now blob) := by
  apply Stateful.ignores_bind (Stateful.ignores_ofExcept _)
  rintro ⟨header, rest⟩
  apply Stateful.ignores_bind
  · exact Stateful.ignores_modify fun _ => rfl
  intro _
  have drawn : Stateful.Ignores undecided drawPolicyId := fun _ => rfl
  apply Stateful.ignores_bind drawn
  intro policyId
  apply Stateful.ignores_bind (Stateful.ignores_ofExcept _)
  rintro ⟨policy, rest⟩
  apply Stateful.ignores_bind
  · exact Stateful.ignores_modify fun _ => rfl
  intro _
  apply Stateful.ignores_bind
  · apply Stateful.ignores_bind (Stateful.ignores_ofExcept _)
    exact fun _ => Stateful.ignores_zoom _ (fun _ => rfl) fun _ _ => rfl
  intro rest
  apply Stateful.ignores_get_bind
  · exact fun _ => rfl
  intro g
  apply Stateful.ignores_bind
  · exact Stateful.ignores_ite (Stateful.ignores_pure _) (Stateful.ignores_throw _)
  intro _
  apply Stateful.ignores_bind
  · apply Stateful.ignores_bind (Stateful.ignores_ofExcept _)
    exact fun _ => Stateful.ignores_zoom _ (fun _ => rfl) fun _ _ => rfl
  intro rest
  apply Stateful.ignores_bind
  · apply Stateful.ignores_bind (Stateful.ignores_ofExcept _)
    exact fun _ => Stateful.ignores_zoom _ (fun _ => rfl) fun _ _ => rfl
  intro rest
  exact Stateful.ignores_ite (Stateful.ignores_pure _) (Stateful.ignores_throw _)

theorem undecided_load (g : Governor) (file : Option Bytes) (now : Timestamp) :
    (g.undecided.load file now).2 = (g.load file now).2.undecided := by
  cases file with
  | none => rfl
  | some bytes =>
      unfold load
      dsimp only
      cases decodeEnvelope bytes with
      | error text => rfl
      | ok envelope =>
          have ignores : Stateful.Ignores undecided (decodeState now envelope.blob) :=
            Stateful.ignores_bind (ignores_decodeSections now envelope.blob)
              fun _ => Stateful.ignores_modify fun _ => rfl
          dsimp only
          rw [ignores g]
          generalize (decodeState now envelope.blob).exec g = ended
          obtain ⟨result, decoded⟩ := ended
          cases result with
          | ok _ => rfl
          | error exit => cases exit <;> rfl

end Governor

/-- What a call makes of a Governor depends on the decisions before it only through
the traces they leave. -/
theorem GovernorCall.undecided_after (g : Governor) (call : GovernorCall) :
    (call.after g.undecided).undecided = (call.after g).undecided := by
  have forgotten : ∀ {g g' : Governor}, g' = g.undecided → g'.undecided = g.undecided := by
    rintro g _ rfl
    rfl
  cases call with
  | installPolicy p => exact forgotten (Governor.undecided_installPolicy p)
  | installBudget b => rfl
  | budgetManager call => rfl
  | planReservation => exact forgotten Governor.undecided_planReservation
  | validateReservation => exact forgotten (Governor.undecided_settle fun _ => rfl)
  | reserveReservation => exact forgotten (Governor.undecided_settle fun _ => rfl)
  | admitReservation => exact forgotten (Governor.undecided_settle fun _ => rfl)
  | activateReservation => exact forgotten (Governor.undecided_settle fun _ => rfl)
  | releaseReservation => exact forgotten (Governor.undecided_settle fun _ => rfl)
  | observeBackend sample now =>
      exact forgotten (congrArg Prod.snd (Governor.ignores_observeBackend sample now g))
  | decideFor budget workload cls requested requestedEnergy duration now =>
      show ((Governor.decideFor _ _ _ _ _ _ _).exec g.undecided).2.undecided =
        ((Governor.decideFor _ _ _ _ _ _ _).exec g).2.undecided
      rw [Governor.undecided_decideFor, Governor.undecided_decideFor,
        Governor.ignores_fillInput budget cls requested requestedEnergy duration now g]
      rfl
  | accountEnergy => rfl
  | load file now => exact forgotten (Governor.undecided_load g file now)
  | resetHysteresis => rfl
  | invalidateLiveTelemetry => rfl

/-! ## Two runs -/

/-- The chains of two budgets, each with the budget itself, have no budget in common. -/
def BudgetManager.Apart (m : BudgetManager) (budget other : BudgetId) : Prop :=
  ∀ ancestor ∈ m.chain other, ancestor ∉ m.chain budget

instance (m : BudgetManager) (budget other : BudgetId) : Decidable (m.Apart budget other) :=
  inferInstanceAs (Decidable (∀ _ ∈ _, _))

/-- A decision for another workload, on a budget that shares no ancestor. -/
def Independent (budget : BudgetId) (workload : WorkloadId) (s : Governor × Telemetry) :
    GovernorCall → Prop
  | .decideFor other caller _ _ _ _ _ => caller ≠ workload ∧ s.1.budgets.Apart budget other
  | _ => False

/-- Two runs of a Governor with the same calls, up to decisions of the second that are
independent of the workload and its budget. -/
def tenantRuns (budget : BudgetId) (workload : WorkloadId) :
    TransitionSystem ((Governor × Telemetry) × (Governor × Telemetry))
      (TransitionSystem.Joint GovernorCall) :=
  governorRuns.paired (Independent budget workload)

namespace Governor

/-- What `decide_for` answers. -/
def answerTo (g : Governor) (budget : BudgetId) (workload : WorkloadId)
    (cls : WorkloadPowerClass) (requested : Watts) (requestedEnergy : Joules) (duration : ℚ)
    (now : Timestamp) : Except Fault Answer :=
  ((decideFor budget workload cls requested requestedEnergy duration now).exec g).1.map
    Decision.answer

/-- No stage before the hysteresis returns, so the request would be allowed. -/
def GrantsByDefault (g : Governor) (budget : BudgetId) (cls : WorkloadPowerClass)
    (requested : Watts) (requestedEnergy : Joules) (duration : ℚ) (now : Timestamp) : Prop :=
  ∃ input outcome,
    ((fillInput budget cls requested requestedEnergy duration now).exec g).1 = .ok input ∧
      input.stages = .defaultAllow outcome

/-- The verdict held at a time. -/
def held (g : Governor) (now : Timestamp) : Except Fault (Option DecisionVerdict) :=
  g.engine.held g.policy.minStableDuration now

variable {left right : Governor}

/-- Without a burst bucket the answer is the resolved one. -/
theorem answerTo_of_disabled {g : Governor} (disabled : g.live.burst.limits.enabled = false)
    (budget : BudgetId) (workload : WorkloadId) (cls : WorkloadPowerClass) (requested : Watts)
    (requestedEnergy : Joules) (duration : ℚ) (now : Timestamp) :
    g.answerTo budget workload cls requested requestedEnergy duration now =
      (g.filledInput budget cls requested requestedEnergy now >>=
        fun input => g.engine.resolve input now).map Outcome.answer := by
  unfold answerTo
  rw [exec_decideFor_of_disabled disabled]
  cases g.filledInput budget cls requested requestedEnergy now with
  | error fault => rfl
  | ok input =>
      show (g.commit (g.engine.evaluate g.ids input now)).1.map Decision.answer =
        (g.engine.resolve input now).map Outcome.answer
      unfold DecisionEngine.evaluate
      cases g.engine.resolve input now <;> rfl

/-- Governors that differ in the traces of their decisions only answer alike unless
the request is allowed by default and they hold different verdicts. -/
theorem answerTo_eq_iff (same : left.undecided = right.undecided)
    (disabled : left.live.burst.limits.enabled = false) (budget : BudgetId)
    (workload : WorkloadId) (cls : WorkloadPowerClass) (requested : Watts)
    (requestedEnergy : Joules) (duration : ℚ) (now : Timestamp) :
    left.answerTo budget workload cls requested requestedEnergy duration now =
        right.answerTo budget workload cls requested requestedEnergy duration now ↔
      (left.GrantsByDefault budget cls requested requestedEnergy duration now →
        left.held now = right.held now) := by
  have disabled' : right.live.burst.limits.enabled = false := by
    have devices : left.undecided.live = right.undecided.live := congrArg live same
    rwa [show right.live = left.live from devices.symm]
  have inputs : right.filledInput budget cls requested requestedEnergy now =
      left.filledInput budget cls requested requestedEnergy now :=
    (congrArg (fun g : Governor => g.filledInput budget cls requested requestedEnergy now)
      same).symm
  have policies : right.policy = left.policy := (congrArg policy same).symm
  have filled := exec_fillInput_of_disabled disabled budget cls requested requestedEnergy duration
    now
  rw [answerTo_of_disabled disabled, answerTo_of_disabled disabled', inputs]
  unfold GrantsByDefault held
  rw [filled, policies]
  cases made : left.filledInput budget cls requested requestedEnergy now with
  | error fault =>
      refine iff_of_true rfl ?_
      rintro ⟨input, _, impossible, _⟩
      cases impossible
  | ok input =>
      have ruled : input.policy = left.policy := (facts_of_filledInput made).1
      show (left.engine.resolve input now).map _ = (right.engine.resolve input now).map _ ↔ _
      unfold DecisionEngine.resolve
      cases staged : input.stages with
      | returned outcome =>
          refine iff_of_true rfl ?_
          rintro ⟨other, _, filledOther, stagedOther⟩
          obtain rfl := Except.ok.inj filledOther
          rw [staged] at stagedOther
          cases stagedOther
      | defaultAllow outcome =>
          dsimp only
          rw [DecisionEngine.hold_answer_iff (DecisionInput.default_verdict staged), ruled]
          exact ⟨fun same _ => same, fun same => same ⟨input, outcome, rfl, staged⟩⟩

end Governor

/-- The extra decisions leave no trace outside the engine's last verdict and the
decision ids. -/
theorem undecided_of_tenantRuns {budget : BudgetId} {workload : WorkloadId}
    {left right : Governor × Telemetry}
    (reached : (tenantRuns budget workload).Reachable (left, right)) :
    left.1.undecided = right.1.undecided := by
  refine reached.same_view (fun s => s.1.undecided) ?_ ?_
  · rintro s t call _ _ same rfl rfl
    show (call.after s.1).undecided = (call.after t.1).undecided
    rw [← call.undecided_after s.1, ← call.undecided_after t.1]
    exact congrArg (fun g => (call.after g).undecided) same
  · rintro s call _ reached independent rfl
    cases call with
    | decideFor other caller cls requested requestedEnergy duration now =>
        have stock := DeviceState.stock_invariant.of_reachable reached
        show ((Governor.decideFor _ _ _ _ _ _ _).exec s.1).2.undecided = _
        rw [Governor.undecided_decideFor, Governor.exec_fillInput_of_disabled stock.burst]
    | _ => exact independent.elim

/-- Decisions on independent budgets interfere through the hysteresis of the one
engine and through nothing else: the two runs answer a decision alike exactly when it
is not allowed by default or both hold the same verdict. -/
theorem tenants_agree_iff {budget : BudgetId} {workload : WorkloadId}
    {left right : Governor × Telemetry}
    (reached : (tenantRuns budget workload).Reachable (left, right)) (cls : WorkloadPowerClass)
    (requested : Watts) (requestedEnergy : Joules) (duration : ℚ) (now : Timestamp) :
    left.1.undecided = right.1.undecided ∧
      (left.1.answerTo budget workload cls requested requestedEnergy duration now =
          right.1.answerTo budget workload cls requested requestedEnergy duration now ↔
        (left.1.GrantsByDefault budget cls requested requestedEnergy duration now →
          left.1.held now = right.1.held now)) := by
  have same := undecided_of_tenantRuns reached
  have stock := DeviceState.stock_invariant.of_reachable reached.of_paired.1
  exact ⟨same, Governor.answerTo_eq_iff same stock.burst budget workload cls requested
    requestedEnergy duration now⟩

/-! Two budgets of 100 W. Another workload asks 200 W of one and is limited; 100 ms
later 5 W are asked of the other. -/

def strangerCall : GovernorCall :=
  .decideFor ⟨3⟩ ⟨9⟩ .throughput (Watts.clamped 200) Joules.zero 0 .fullSecond

/-- The run without that decision. -/
def quietRun : Governor × Telemetry :=
  observedRun [.installBudget (budgetOf 2 0 1 100), .installBudget (budgetOf 3 0 1 100)]

theorem reachable_strangerCall :
    (tenantRuns ⟨2⟩ ⟨1⟩).Reachable (quietRun, governorStep quietRun strangerCall) := by
  have opened : (tenantRuns ⟨2⟩ ⟨1⟩).Reachable
      ((.construct ⟨⟨1⟩, ⟨1⟩, .first⟩ .start, ⟨none, none⟩),
        (.construct ⟨⟨1⟩, ⟨1⟩, .first⟩ .start, ⟨none, none⟩)) := by
    apply TransitionSystem.Reachable.start
    exact ⟨⟨_, _, rfl⟩, rfl⟩
  have quiet : (tenantRuns ⟨2⟩ ⟨1⟩).Reachable (quietRun, quietRun) :=
    opened.of_foldl (fun _ _ => rfl) _
  refine .step (.extra strangerCall) quiet ?_
  exact ⟨⟨by decide, by decide +kernel⟩, rfl, rfl⟩

/-- 200 ms after the stranger's decision its verdict is no longer held. -/
theorem tenants_agree_iff_later :
    quietRun.1.answerTo ⟨2⟩ ⟨1⟩ .throughput (Watts.clamped 5) Joules.zero 0
        ⟨1200000000, by decide, by decide⟩ =
      (governorStep quietRun strangerCall).1.answerTo ⟨2⟩ ⟨1⟩ .throughput (Watts.clamped 5)
        Joules.zero 0 ⟨1200000000, by decide, by decide⟩ := by
  apply (tenants_agree_iff reachable_strangerCall .throughput (Watts.clamped 5) Joules.zero 0
    ⟨1200000000, by decide, by decide⟩).2.mpr
  intro _
  decide +kernel

/-- The stranger's verdict is repeated to the other workload. -/
theorem tenant_disturbed :
    ¬ ∀ (budget : BudgetId) (workload : WorkloadId) (left right : Governor × Telemetry),
      (tenantRuns budget workload).Reachable (left, right) →
        ∀ (cls : WorkloadPowerClass) (requested : Watts) (requestedEnergy : Joules) (duration : ℚ)
          (now : Timestamp),
          left.1.answerTo budget workload cls requested requestedEnergy duration now =
            right.1.answerTo budget workload cls requested requestedEnergy duration now := by
  intro claimed
  have same := claimed ⟨2⟩ ⟨1⟩ _ _ reachable_strangerCall .throughput (Watts.clamped 5)
    Joules.zero 0 decisionTime
  revert same
  decide +kernel

end PowerGovernor
