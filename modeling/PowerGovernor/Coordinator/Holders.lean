import PowerGovernor.Coordinator.Fencing
import PowerGovernor.Coordinator.Grants
import PowerGovernor.Reservation.Effect

/-!
Who acts on a reservation.

Owns which reservations hold capacity without a grant, what an ACTIVATE or RELEASE that
is answered ok has found, and whose reservation it is. The fence takes the boot of any
worker and no call knows the sender, so the guarantee holds in the runs that a step
condition describes.
-/

set_option autoImplicit false

namespace PowerGovernor

/-! ## What lets a reservation hold capacity -/

namespace ReservationCall

variable {s : Books} {call : ReservationCall} {id : ReservationId}

/-- A reservation that holds capacity after a call held it before, or the call reserves it. -/
theorem holds_cases {r' : Reservation} (found : (call.after s).reservations.find? id = some r')
    (holds : r'.state.holds = true) :
    (∃ r, s.reservations.find? id = some r ∧ r.state.holds = true) ∨
      ∃ r gen, r.id = id ∧ call.Reserves s r gen := by
  have effect := call.effect s
  generalize call.after s = s' at found effect
  -- Any write but a reserve leaves a holding reservation only where one was.
  have kept : ∀ {r : Reservation} {f : Reservation → Reservation} {keeps : ∀ r, (f r).id = r.id}
      {budgets : BudgetManager}, s.reservations.find? r.id = some r →
      (s.write r.id f keeps budgets).reservations.find? id = some r' →
      ((f r).state.holds = true → r.state.holds = true) →
      ∃ r, s.reservations.find? id = some r ∧ r.state.holds = true := by
    intro r f keeps budgets before written back
    rw [Books.find?_write before] at written
    split at written
    · rename_i same
      obtain rfl := Option.some.inj written
      exact ⟨r, same ▸ before, back holds⟩
    · exact ⟨r', written, holds⟩
  cases effect with
  | idle reservations budgets =>
      rw [reservations] at found
      exact .inl ⟨r', found, holds⟩
  | @plan r ids fresh planned unreserved asked =>
      have fresh : s.reservations.map.find? r.id = none := fresh
      have found : (s.reservations.map.emplace r).find? id = some r' := found
      rw [Keyed.find?_emplace fresh] at found
      split at found
      · obtain rfl := Option.some.inj found
        rw [planned] at holds
        cases holds
      · exact .inl ⟨r', found, holds⟩
  | quiet keeps before edge same =>
      exact .inl (kept before found fun after => edge.holds ▸ after)
  | lapse lapses =>
      exact .inl (kept lapses.found found fun after => absurd after Bool.false_ne_true)
  | @reserve r gen reserves =>
      by_cases same : r.id = id
      · exact .inr ⟨r, gen, same, reserves⟩
      · rw [Books.find?_write_of_ne (Ne.symm same)] at found
        exact .inl ⟨r', found, holds⟩
  | activate activates =>
      exact .inl (kept activates.found found
        fun _ => ReservationState.holds_of_waiting activates.waiting)
  | release releases =>
      exact .inl (kept releases.found found fun after => absurd after Bool.false_ne_true)

end ReservationCall

/-! ## What the sections answer -/

/-- A state that is not final is one before the reserve or holds capacity. -/
theorem ReservationState.holds_or_early {state : ReservationState} (released : state ≠ .released)
    (expired : state ≠ .expired) :
    state.holds = true ∨ state = .planned ∨ state = .validated := by
  cases state <;> simp [holds] at released expired ⊢

namespace Pending

variable {cs : CoordShared} {rr : ReserveMsg} {id : ReservationId}

/-- A RESERVE whose call reserves is answered ok. -/
theorem replies_reserve {gen : BudgetGeneration} {r : Reservation}
    (reserves : ReservationCall.Reserves cs.gov.books
      (.reserve id rr.budgetGen (.ofInt64 rr.timestampNs)) r gen) :
    ∃ reply, ((Pending.reserve rr id).run.exec cs).1 = .ok (.replied reply) ∧
      reply.ok = true := by
  obtain ⟨left, accepted⟩ := ReservationCall.exec_of_reserves reserves
  obtain ⟨g, returned, _⟩ := Governor.reserveReservation_returns accepted
  refine ⟨sendAck rr.workload.raw true (.text (toString id.raw.toNat)), ?_, rfl⟩
  unfold run reserveSection
  simp only [Stateful.exec_bind, CoordShared.exec_call, returned]
  rfl

/-- The message names the current generation of the reservation's budget. -/
def Current (cs : CoordShared) (ba : BudgetActionMsg) (r : Reservation) : Prop :=
  ∃ st, cs.gov.budgets.state? r.budget = some st ∧ st.cfg.generation = ba.budgetGen

/-- The states in which a reservation that holds capacity takes the action. -/
def Takes (r : Reservation) : BudgetAction → Prop
  | .activate => r.state = .reserved ∨ r.state = .admitted
  | .release => r.state.holds = true

theorem Takes.holds {r : Reservation} {action : BudgetAction} (takes : Takes r action) :
    r.state.holds = true := by
  cases action with
  | activate => exact ReservationState.holds_of_waiting takes
  | release => exact takes

/-- What an ACTIVATE or RELEASE finds that is answered ok: the reservation holds capacity,
or it is released before it was reserved. -/
theorem found_of_acts {action : BudgetAction} {ba : BudgetActionMsg} {reply : Reply}
    (replied : ((Pending.act action ba).run.exec cs).1 = .ok (.replied reply))
    (ok : reply.ok = true) :
    ∃ r, cs.gov.reservations.find? ba.reservation = some r ∧ Current cs ba r ∧ (Takes r action ∨
      action = .release ∧ (r.state = .planned ∨ r.state = .validated)) := by
  unfold run actSection at replied
  simp only [Stateful.exec_bind, CoordShared.exec_call] at replied
  cases action with
  | activate =>
      dsimp only at replied
      cases returned : cs.gov.activateReservation ba.reservation ba.budgetGen Timestamp.zero with
      | error fault =>
          rw [returned] at replied
          cases replied
      | ok outcome =>
          rw [returned] at replied
          obtain rfl := Progress.replied.inj (Except.ok.inj replied)
          obtain ⟨left, called, _⟩ := Governor.exec_of_activateReservation returned
          cases result : outcome.2
          rw [result] at ok called
          cases ReservationCall.returns_activate called with
          | activated activates =>
              obtain ⟨found, waiting, _, _, bookable⟩ := activates
              obtain ⟨st, installed, current, _⟩ := bookable.installed
              exact ⟨_, found, ⟨st, installed, current⟩, .inl waiting⟩
          | _ => cases ok
  | release =>
      dsimp only at replied
      cases returned : cs.gov.releaseReservation ba.reservation ba.budgetGen Timestamp.zero with
      | error fault =>
          rw [returned] at replied
          cases replied
      | ok outcome =>
          rw [returned] at replied
          obtain rfl := Progress.replied.inj (Except.ok.inj replied)
          obtain ⟨left, called, _⟩ := Governor.exec_of_releaseReservation returned
          cases result : outcome.2
          rw [result] at ok called
          cases ReservationCall.returns_release called with
          | @released _ _ _ r releases =>
              obtain ⟨_, found, notReleased, notExpired, returnable⟩ := releases
              refine ⟨r, found, returnable.installed, ?_⟩
              rcases ReservationState.holds_or_early notReleased notExpired with holds | early
              · exact .inl holds
              · exact .inr ⟨rfl, early⟩
          | _ => cases ok

end Pending

/-! ## Grants behind what is held -/

namespace Coordinator

variable {s : Coordinator} {event : Event} {id : ReservationId}

/-- A reservation that holds capacity after a step held it before, or the step ends its
RESERVE with an ok. -/
theorem holds_of_after {r' : Reservation}
    (found : (s.after event).shared.gov.reservations.find? id = some r')
    (holds : r'.state.holds = true) :
    (∃ r, s.shared.gov.reservations.find? id = some r ∧ r.state.holds = true) ∨
      ∃ rr, (s.concludes event).bind Pending.reservation = some (id, rr) := by
  have same : (s.after event).shared.gov.reservations =
      (s.shared.gov.afterCall ((s.works event).bind Pending.governorCall)).reservations :=
    congrArg Prod.fst (holdings_after s event)
  rw [same] at found
  cases working : s.works event with
  | none =>
      rw [working] at found
      exact .inl ⟨r', found, holds⟩
  | some work =>
      rw [working, Option.bind_some] at found
      cases made : work.governorCall with
      | none =>
          rw [made] at found
          exact .inl ⟨r', found, holds⟩
      | some call =>
          rw [made] at found
          have found : (call.after s.shared.gov).reservations.find? id = some r' := found
          have lifecycle : ∀ lifecycleCall, call.lifecycle s.shared.gov = some lifecycleCall →
              (∃ r, s.shared.gov.reservations.find? id = some r ∧ r.state.holds = true) ∨
                ∃ r gen, r.id = id ∧ lifecycleCall.Reserves s.shared.gov.books r gen := by
            intro lifecycleCall is
            have books : (call.after s.shared.gov).reservations =
                (lifecycleCall.after s.shared.gov.books).reservations :=
              congrArg Books.reservations (GovernorCall.books_after is)
            rw [books] at found
            exact ReservationCall.holds_cases found holds
          cases Pending.makes_of_governorCall made with
          | @observe po sample sampled =>
              obtain ⟨generation, left⟩ :=
                Governor.observeBackend_leaves sample (.ofInt64 po.timestampNs) s.shared.gov
              have kept := congrArg Governor.reservations left
              exact .inl ⟨r', kept ▸ found, holds⟩
          | @decide dr power powered =>
              obtain ⟨burst, engine, ids, _, left⟩ := Governor.decideFor_leaves dr.budget
                dr.workload .throughput power Joules.zero 1 Timestamp.zero s.shared.gov
              have kept := congrArg Governor.reservations left
              exact .inl ⟨r', kept ▸ found, holds⟩
          | plan => exact (lifecycle _ rfl).imp_right fun ⟨_, _, _, reserves⟩ => reserves.elim
          | activate => exact (lifecycle _ rfl).imp_right fun ⟨_, _, _, reserves⟩ => reserves.elim
          | release => exact (lifecycle _ rfl).imp_right fun ⟨_, _, _, reserves⟩ => reserves.elim
          | @reserve rr planned =>
              rcases lifecycle _ rfl with before | ⟨r, gen, rfl, reserves⟩
              · exact .inl before
              obtain rfl : r.id = planned := Keyed.key_of_find? reserves.2.1
              obtain ⟨reply, replied, ok⟩ := Pending.replies_reserve reserves
              obtain ⟨running, conn, reg, rfl, busy⟩ := works_eq_some working
              have sent : s.sends (.proceed conn) = some (conn, reply) :=
                sends_proceed_iff.mpr ⟨running, rfl, reg, _, busy, replied⟩
              refine .inr ⟨rr, ?_⟩
              unfold concludes acknowledges
              rw [sent, Option.any_some, if_pos ok, working]
              rfl

/-- Every reservation that holds capacity was granted. -/
def HeldGranted (s : Coordinator) : Prop :=
  ∀ id r, s.shared.gov.reservations.find? id = some r → r.state.holds = true →
    ∃ grant ∈ s.granted, grant.reservation = id

theorem heldGranted_after (granted : s.HeldGranted) (event : Event) :
    (s.after event).HeldGranted := by
  intro id r' found holds
  rcases holds_of_after found holds with ⟨r, before, held⟩ | ⟨rr, concluded⟩
  · obtain ⟨grant, member, same⟩ := granted id r before held
    exact ⟨grant, granted_after member event, same⟩
  · obtain ⟨_, reg, _, _, _, _, _, added, _⟩ := granted_of_concludes concluded
    refine ⟨⟨id, reg.worker, rr.boot⟩, ?_, rfl⟩
    rw [added]
    exact List.mem_append_right _ (List.mem_singleton.mpr rfl)

/-! ## The holder of a reservation -/

/-- The reservation of a message was granted to a worker under the boot of the message,
and the worker is registered under that boot. -/
def Holds (s : Coordinator) (worker : WorkerId) (ba : BudgetActionMsg) : Prop :=
  ⟨ba.reservation, worker, ba.boot⟩ ∈ s.granted ∧ s.shared.bootOf worker = some ba.boot

/-- An ACTIVATE or RELEASE that the step answers ok is one of the holder. -/
def HolderActs (s : Coordinator) (event : Event) : Prop :=
  ∀ conn reg action ba, event = .proceed conn →
    s.connections conn = some ⟨reg, some (.act action ba)⟩ → s.acknowledges event = true →
      s.Holds reg.worker ba

/-- The step uses no gap of the fence. An ACTIVATE or RELEASE that passes it carries the
boot of its own worker, and no REGISTER replaces that boot before the message reaches the
Governor. Where it then names the budget's generation, no other worker and no other boot was
granted the reservation that takes the action, and a RELEASE finds none that is still to be
reserved. -/
structure HolderSends (s : Coordinator) (event : Event) : Prop where
  registered : ∀ conn m reg action ba, event = .frame conn m →
    s.connections conn = some ⟨reg, none⟩ → s.shared.Accepts m (.act action ba) →
      s.shared.bootOf reg.worker = some ba.boot
  settled : ∀ reg, s.Registers event reg → ∀ conn c action ba, s.connections conn = some c →
    c.work = some (.act action ba) → c.reg.worker = reg.worker → ba.boot = reg.boot
  foreign : ∀ conn reg action ba r, event = .proceed conn →
    s.connections conn = some ⟨reg, some (.act action ba)⟩ →
    s.shared.gov.reservations.find? ba.reservation = some r → Pending.Current s.shared ba r →
      Pending.Takes r action → ∀ grant ∈ s.granted, grant.reservation = r.id →
        grant.worker = reg.worker ∧ grant.boot = ba.boot
  planned : ∀ conn reg ba r, event = .proceed conn →
    s.connections conn = some ⟨reg, some (.act .release ba)⟩ →
    s.shared.gov.reservations.find? ba.reservation = some r → Pending.Current s.shared ba r →
      r.state ≠ .planned ∧ r.state ≠ .validated

/-- Every ACTIVATE or RELEASE in flight carries the boot of its worker. -/
def ActsRegistered (s : Coordinator) : Prop :=
  ∀ conn c action ba, s.connections conn = some c → c.work = some (.act action ba) →
    s.shared.bootOf c.reg.worker = some ba.boot

theorem actsRegistered_after (acts : s.ActsRegistered) (sends : HolderSends s event) :
    (s.after event).ActsRegistered := by
  intro conn c action ba found busy
  cases arises_of_after found busy with
  | same before working =>
      have registered := acts conn c action ba before working
      rcases fencing_after s event with same | ⟨reg, registers, written⟩ | ⟨_, written⟩
      · rw [bootOf_of_fencing same, registered]
      · rw [bootOf_of_fencing written]
        show (Option.map Registration.boot ((s.shared.workers.assign _).find? _)) = _
        rw [Keyed.find?_assign]
        split
        · rename_i own
          rw [sends.settled reg registers conn c action ba before working own]
          rfl
        · exact registered
      · rw [← registered]
        unfold CoordShared.bootOf
        rw [(Prod.mk.inj written).2]
  | welcome decoded greets => cases greets
  | @accepted m before accepts =>
      have registered := sends.registered conn m c.reg action ba rfl before accepts
      rcases fencing_after s (.frame conn m) with
        same | ⟨reg, ⟨_, _, different, _⟩, _⟩ | ⟨rolled, _⟩
      · rw [bootOf_of_fencing same, registered]
      · cases different
      · cases rolled
  | planned before reserves => cases reserves

/-- No ACTIVATE or RELEASE is in flight. -/
def Quiet (s : Coordinator) : Prop :=
  ∀ conn c action ba, s.connections conn = some c → c.work ≠ some (.act action ba)

/-- The step receives no ACTIVATE or RELEASE. -/
def ReceivesNone (event : Event) : Prop :=
  ∀ conn m action, event = .frame conn m → m.type ≠ BudgetAction.msgType action

theorem holderSends_of_quiet (quiet : s.Quiet) (none : ReceivesNone event) :
    HolderSends s event where
  registered := by
    rintro conn m reg action ba rfl _ accepts
    cases accepts with
    | act type decoded passed => exact absurd type (none conn m action rfl)
  settled _ _ conn c action ba found busy := absurd busy (quiet conn c action ba found)
  foreign conn reg action ba _ _ found := absurd rfl (quiet conn _ action ba found)
  planned conn reg ba _ _ found := absurd rfl (quiet conn _ .release ba found)

theorem quiet_after (quiet : s.Quiet) (none : ReceivesNone event) : (s.after event).Quiet := by
  intro conn c action ba found busy
  cases arises_of_after found busy with
  | same before working => exact quiet conn c action ba before working
  | welcome decoded greets => cases greets
  | @accepted m before accepts =>
      cases accepts with
      | act type decoded passed => exact none conn m action rfl type
  | planned before reserves => cases reserves

/-- A run that receives no ACTIVATE or RELEASE uses no gap. -/
theorem along_of_receivesNone (quiet : s.Quiet) {events : List Event}
    (none : ∀ event ∈ events, ReceivesNone event) : Along after HolderSends s events := by
  induction events generalizing s with
  | nil => trivial
  | cons event rest inductionHypothesis =>
      have here := none event List.mem_cons_self
      exact ⟨holderSends_of_quiet quiet here, inductionHypothesis (quiet_after quiet here)
        fun other member => none other (List.mem_cons_of_mem event member)⟩

theorem along_granting : Along after HolderSends start granting := by
  refine along_of_receivesNone ?_ ?_
  · intro conn c action ba found
    cases found
  · intro event member conn m action received
    subst received
    obtain ⟨_, rfl⟩ : conn = 1 ∧ m = reserveFrame 10 := by
      simpa [granting, planning] using member
    cases action <;> nofun

/-- The holder activates its reservation. -/
theorem holderSends_activate :
    HolderSends (granting.foldl after start) (.frame 1 (activateFrame 10)) := by
  have connected : (granting.foldl after start).connections 1 =
      some ⟨⟨⟨1⟩, ⟨10⟩, ⟨1⟩, []⟩, none⟩ := by decide +kernel
  have registered : (granting.foldl after start).shared.bootOf ⟨1⟩ = some ⟨10⟩ := by
    decide +kernel
  have decoded : decodeBudgetAction (activateFrame 10) = some (actionMsg 10) := by decide +kernel
  generalize granting.foldl after start = s at *
  generalize activateFrame 10 = m at *
  constructor
  · rintro _ _ reg action ba ⟨⟩ found accepts
    rw [connected] at found
    cases found
    cases accepts with
    | act type decodes passed =>
        rw [decoded] at decodes
        cases decodes
        exact registered
  · rintro reg ⟨_, _, same, _⟩
    cases same
  · rintro _ _ _ _ _ ⟨⟩
  · rintro _ _ _ _ ⟨⟩

/-- Worker 1 has sent the ACTIVATE. -/
def activating : List Event := granting ++ [.frame 1 (activateFrame 10)]

theorem reachable_activating : (runs HolderSends).Reachable (activating.foldl after start) := by
  unfold activating
  rw [List.foldl_append]
  exact .foldl (.foldl (.start rfl) along_granting) ⟨holderSends_activate, trivial⟩

/-- Another worker, or the same worker under a new boot, activates the reservation
that was granted to worker 1 under boot 10. -/
def intruding (worker boot : UInt64) : List Event :=
  granting ++ [.connect 2 (registerFrame worker boot), .proceed 2, .frame 2 (activateFrame boot)]

/-- The restarted worker 1 is answered ok as well. -/
example : ((intruding 1 11).foldl after start).acknowledges (.proceed 2) = true := by
  decide +kernel

end Coordinator

end PowerGovernor
