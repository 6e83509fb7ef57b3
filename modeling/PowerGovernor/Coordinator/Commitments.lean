import PowerGovernor.Coordinator.Grants
import PowerGovernor.Reservation.Commitments

/-!
What a coordinator has promised.

Owns the RESERVE messages that were granted, with the reservations made for them, and the
theorem that what they asked for and still hold is reserved on the budgets and within the
maxima, in every run whose budgets name parents that are installed.
-/

set_option autoImplicit false

namespace PowerGovernor

/-! ## The books of a Governor -/

/-- What the reservations and budgets are, without the ids drawn. -/
def Governor.ledgers (g : Governor) : ReservationManager × BudgetManager :=
  (g.reservations, g.budgets)

/-- The budget of an `install_budget`. -/
def PowerBudget.commanded (id parent : UInt64) (hardMax softTarget : Watts) : PowerBudget :=
  { PowerBudget.blank with
    id := ⟨id⟩
    generation := .first
    domain := ⟨1⟩
    parent := if parent = 0 then none else some ⟨parent⟩
    hardMax := hardMax
    softTarget := softTarget
    name := [98, 117, 100, 103, 101, 116] }

namespace Governor

theorem ledgers_installPolicy (g : Governor) (p : PowerPolicy) :
    (g.installPolicy p).1.ledgers = g.ledgers := by
  rcases g.installPolicy_cases p with ⟨_, installed⟩ | ⟨_, refused⟩
  · rw [installed]
    rfl
  · rw [refused]

/-- A section makes one lifecycle call at most. -/
theorem ledgers_afterCall (g : Governor) (work : Pending) :
    (g.afterCall work.governorCall).ledgers = g.ledgers ∨ ∃ call : ReservationCall,
      (g.afterCall work.governorCall).ledgers =
        ((call.after g.books).reservations, (call.after g.books).budgets) := by
  cases made : work.governorCall with
  | none => exact .inl rfl
  | some call =>
      have lifecycle : ∀ lifecycleCall, call.lifecycle g = some lifecycleCall →
          (call.after g).ledgers =
            ((lifecycleCall.after g.books).reservations, (lifecycleCall.after g.books).budgets) :=
        fun lifecycleCall is => congrArg (fun books => (books.reservations, books.budgets))
          (GovernorCall.books_after is)
      cases Pending.makes_of_governorCall made with
      | @observe po sample sampled =>
          obtain ⟨generation, left⟩ :=
            Governor.observeBackend_leaves sample (.ofInt64 po.timestampNs) g
          have same := congrArg ledgers left
          exact .inl same
      | @decide dr power powered =>
          obtain ⟨burst, engine, ids, _, left⟩ := Governor.decideFor_leaves dr.budget dr.workload
            .throughput power Joules.zero 1 Timestamp.zero g
          have same := congrArg ledgers left
          exact .inl same
      | plan => exact .inr ⟨_, lifecycle _ rfl⟩
      | reserve => exact .inr ⟨_, lifecycle _ rfl⟩
      | activate => exact .inr ⟨_, lifecycle _ rfl⟩
      | release => exact .inr ⟨_, lifecycle _ rfl⟩

end Governor

namespace CoordShared

variable {cs : CoordShared}

theorem ledgers_setPolicy (cap : ℚ) :
    Stateful.Keeps (fun cs => cs.gov.ledgers) (setPolicy cap) := by
  apply Stateful.keeps_bind Stateful.keeps_get
  intro cs
  apply Stateful.keeps_bind fun _ => rfl
  intro _
  apply Stateful.keeps_bind (Stateful.keeps_ofExcept _)
  intro cap cs
  exact cs.gov.ledgers_installPolicy _

/-- An `install_budget` throws, or it is an install. -/
theorem ledgers_installBudget (id parent : UInt64) (hmax soft : ℚ) (cs : CoordShared) :
    ((installBudget id parent hmax soft).exec cs).2.gov.ledgers = cs.gov.ledgers ∨
      ∃ hardMax softTarget, ((installBudget id parent hmax soft).exec cs).2.gov.ledgers =
        (cs.gov.reservations,
          (cs.gov.budgets.install (.commanded id parent hardMax softTarget)).1) := by
  unfold installBudget
  rw [Stateful.exec_bind, Stateful.exec_ofExcept]
  cases (Quantity.construct hmax : Except Fault Watts) with
  | error fault => exact .inl rfl
  | ok hardMax =>
      dsimp only
      rw [Stateful.exec_bind, Stateful.exec_ofExcept]
      cases (Quantity.construct soft : Except Fault Watts) with
      | error fault => exact .inl rfl
      | ok softTarget => exact .inr ⟨hardMax, softTarget, rfl⟩

end CoordShared

namespace Coordinator

variable {s : Coordinator} {event : Event} {calls : Nat}

/-- A step that is no `install_budget` does to the ledgers what its section does. -/
theorem ledgers_after (other : ∀ id parent hmax soft, event ≠ .installBudget id parent hmax soft) :
    (s.after event).shared.gov.ledgers =
      (s.shared.gov.afterCall ((s.works event).bind Pending.governorCall)).ledgers := by
  unfold after works
  split
  case isFalse stopped => rfl
  case isTrue running =>
    unfold take
    cases event with
    | connect conn first =>
        dsimp only
        repeat' split
        all_goals rfl
    | frame conn m =>
        dsimp only
        split
        · have same : (s.shared.receive m).2.gov = s.shared.gov :=
            CoordShared.view_receive CoordShared.gov fun _ _ _ => rfl
          exact congrArg Governor.ledgers same
        · rfl
    | proceed conn =>
        dsimp only
        rcases s.connections conn with _ | ⟨reg, _ | work⟩
        · rfl
        · rfl
        · have ran := Pending.shared_run work s.shared
          dsimp only
          generalize work.run.exec s.shared = ended at ran ⊢
          obtain ⟨result, shared⟩ := ended
          obtain rfl : shared = _ := ran
          cases result <;> rfl
    | disconnect conn =>
        dsimp only
        split <;> rfl
    | installBudget id parent hmax soft => exact absurd rfl (other id parent hmax soft)
    | setPolicy cap => exact CoordShared.ledgers_setPolicy cap s.shared
    | rollEpoch => rfl

/-- What a step can do to the ledgers. -/
inductive Posting (s : Coordinator) : Event → ReservationManager × BudgetManager → Prop where
  | same {event : Event} : Posting s event s.shared.gov.ledgers
  | lifecycle {event : Event} (call : ReservationCall)   : Posting s event
      ((call.after s.shared.gov.books).reservations, (call.after s.shared.gov.books).budgets)
  | installed {id parent : UInt64} {hmax soft : ℚ} (hardMax softTarget : Watts) :
      Posting s (.installBudget id parent hmax soft) (s.shared.gov.reservations,
        (s.shared.gov.budgets.install (.commanded id parent hardMax softTarget)).1)

theorem posting_after (s : Coordinator) (event : Event) :
    Posting s event (s.after event).shared.gov.ledgers := by
  by_cases installs : ∃ id parent hmax soft, event = .installBudget id parent hmax soft
  case neg =>
    rw [ledgers_after fun id parent hmax soft is => installs ⟨id, parent, hmax, soft, is⟩]
    cases s.works event with
    | none => exact .same
    | some work =>
        rcases s.shared.gov.ledgers_afterCall work with same | ⟨call, made⟩
        · exact same ▸ .same
        · exact made ▸ .lifecycle call
  case pos =>
    obtain ⟨id, parent, hmax, soft, rfl⟩ := installs
    by_cases running : s.running = true
    case neg =>
      have same : s.after (.installBudget id parent hmax soft) = s := if_neg running
      rw [same]
      exact .same
    case pos =>
      have taken : (s.after (.installBudget id parent hmax soft)).shared =
          ((CoordShared.installBudget id parent hmax soft).exec s.shared).2 := by
        unfold after
        rw [if_pos running]
        rfl
      rw [taken]
      rcases CoordShared.ledgers_installBudget id parent hmax soft s.shared with
        same | ⟨hardMax, softTarget, made⟩
      · exact same ▸ .same
      · exact made ▸ .installed hardMax softTarget

/-! ## Growing a forest -/

/-- An `install_budget` names no parent, or one that is installed. -/
def Grows (s : Coordinator) : Event → Prop
  | .installBudget _ parent _ _ => parent = 0 ∨ s.shared.gov.budgets.has ⟨parent⟩ = true
  | _ => True

/-- The installed budgets are all of the first generation. -/
def FirstIssue (s : Coordinator) : Prop :=
  ∀ id st, s.shared.gov.budgets.state? id = some st → st.cfg.generation = .first

/-- A second `install_budget` of an id is refused, since it is of the same generation. -/
theorem install_cases (first : s.FirstIssue) {id parent : UInt64} {hmax soft : ℚ}
    (hardMax softTarget : Watts) (grows : s.Grows (.installBudget id parent hmax soft)) :
    (BudgetCall.install (.commanded id parent hardMax softTarget)).GrowsForest
        s.shared.gov.budgets ∨
      (s.shared.gov.budgets.install (.commanded id parent hardMax softTarget)).1 =
        s.shared.gov.budgets := by
  cases found : s.shared.gov.budgets.state? ⟨id⟩ with
  | some st =>
      have superseded : s.shared.gov.budgets.Superseded
          (.commanded id parent hardMax softTarget) := by
        refine ⟨st, found, ?_⟩
        rw [first _ st found]
        exact Generation.le_refl _
      exact .inr (congrArg Prod.fst (BudgetManager.install_refused superseded))
  | none =>
      refine .inl ⟨found, fun p named valid => ?_⟩
      have parents : (if parent = 0 then none else some (⟨parent⟩ : BudgetId)) = some p := named
      rcases grows with zero | present
      · rw [if_pos zero] at parents
        cases parents
      · split at parents
        · cases parents
        · obtain rfl := Option.some.inj parents
          exact present

theorem committed_after (committed : s.shared.gov.books.Committed calls) (first : s.FirstIssue)
    (grows : s.Grows event) : (s.after event).shared.gov.books.Committed (calls + 1) := by
  have more := Nat.le_succ calls
  have posting := s.posting_after event
  generalize left : (s.after event).shared.gov.ledgers = ledgers at posting
  have reservations := congrArg Prod.fst left
  have budgets := congrArg Prod.snd left
  cases posting with
  | same => exact (committed.mono more).of_same reservations budgets
  | lifecycle call => exact (committed.lifecycle call).of_same reservations budgets
  | installed hardMax softTarget =>
      rcases install_cases first hardMax softTarget grows with fresh | refused
      · exact ((committed.install fresh).mono more).of_same reservations budgets
      · exact (committed.mono more).of_same reservations (budgets.trans refused)

theorem firstIssue_after (first : s.FirstIssue) (event : Event) : (s.after event).FirstIssue := by
  have posting := s.posting_after event
  generalize left : (s.after event).shared.gov.ledgers = ledgers at posting
  have budgets : (s.after event).shared.gov.budgets = ledgers.2 := congrArg Prod.snd left
  unfold FirstIssue
  rw [budgets]
  cases posting with
  | same => exact first
  | lifecycle call =>
      intro id st found
      have same := (call.effect s.shared.gov.books).cfg id
      dsimp only at found
      rw [found] at same
      obtain ⟨before, here, cfg⟩ := Option.map_eq_some_iff.mp same.symm
      rw [← cfg]
      exact first id before here
  | @installed id parent hmax soft hardMax softTarget =>
      intro k st found
      dsimp only at found
      by_cases superseded : s.shared.gov.budgets.Superseded
          (.commanded id parent hardMax softTarget)
      · rw [BudgetManager.install_refused superseded] at found
        exact first k st found
      · rw [BudgetManager.state?_install (BudgetManager.install_granted_iff.mpr superseded)]
          at found
        split at found
        · obtain rfl := Option.some.inj found
          rfl
        · exact first k st found

end Coordinator

/-! ## The reservations of the grants -/

/-- The reservation was planned for the RESERVE. -/
structure Reservation.For (r : Reservation) (rr : ReserveMsg) : Prop where
  workload : r.workload = rr.workload
  scope : r.scope = rr.scope
  budget : r.budget = rr.budget
  power : r.requestedPower.value = rr.requestedMw.toInt / 1000

def Governor.PlannedFor (g : Governor) (id : ReservationId) (rr : ReserveMsg) : Prop :=
  ∃ r, g.reservations.find? id = some r ∧ r.For rr

theorem Reservation.For.of_terms {r r' : Reservation} {rr : ReserveMsg} (planned : r.For rr)
    (same : r'.asPlanned = r.asPlanned) : r'.For rr where
  workload := (congrArg Reservation.workload same).trans planned.workload
  scope := (congrArg Reservation.scope same).trans planned.scope
  budget := (congrArg Reservation.budget same).trans planned.budget
  power := (congrArg (fun r => r.requestedPower.value) same).trans planned.power

/-- A plan that goes on to a reserve has planned the reservation for its message. -/
theorem Pending.plannedFor_of_plan {rr : ReserveMsg} {id : ReservationId}
    {cs shared : CoordShared}
    (ran : (Pending.plan rr).run.exec cs = (.ok (.pending (.reserve rr id)), shared)) :
    shared.gov.PlannedFor id rr := by
  obtain ⟨fresh, power, energy, validity, powered, table⟩ := Pending.added_of_plan ran
  let r := ReservationManager.planned id rr.workload .throughput rr.scope rr.budget power energy
    .first .first cs.gov.authority.envelope (.ofInt64 rr.timestampNs) validity
  have absent : cs.gov.reservations.map.find? r.id = none := fresh
  refine ⟨r, ?_, rfl, rfl, rfl, powered⟩
  rw [table]
  exact (Keyed.find?_emplace absent id).trans (if_pos rfl)

namespace Coordinator

variable {s : Coordinator} {id : ReservationId} {rr : ReserveMsg}

theorem plannedFor_after (planned : s.shared.gov.PlannedFor id rr) (event : Event) :
    (s.after event).shared.gov.PlannedFor id rr := by
  obtain ⟨r, found, forMessage⟩ := planned
  obtain ⟨r', found', _, terms⟩ := known_after found event
  exact ⟨r', found', forMessage.of_terms terms⟩

/-- A handler in front of a reserve has planned the reservation for its message. -/
def PlansFor (s : Coordinator) : Prop :=
  ∀ conn reg rr id, s.connections conn = some ⟨reg, some (.reserve rr id)⟩ →
    s.shared.gov.PlannedFor id rr

theorem plansFor_after (plans : s.PlansFor) (event : Event) : (s.after event).PlansFor := by
  intro conn reg rr id found
  rcases planned_of_after found with before | ⟨_, ran⟩
  · exact plannedFor_after (plans conn reg rr id before) event
  · exact Pending.plannedFor_of_plan ran

end Coordinator

/-! ## The grants -/

/-- A coordinator and the RESERVE messages it has granted, with their reservations; no step
reads them. -/
structure Commitments where
  coordinator : Coordinator
  granted : List (ReservationId × ReserveMsg)

namespace Commitments

def start : Commitments := ⟨.start, []⟩

def after (x : Commitments) (event : Event) : Commitments where
  coordinator := x.coordinator.after event
  granted := x.granted ++ ((x.coordinator.concludes event).bind Pending.reservation).toList

/-- What a granted message has asked for on a budget, as long as its reservation holds. -/
def heldOn (x : Commitments) (b : BudgetId) (grant : ReservationId × ReserveMsg) : ℚ :=
  if (x.coordinator.shared.gov.reservations.find? grant.1).any (fun r => r.state.holds) ∧
      b ∈ x.coordinator.shared.gov.budgets.chain grant.2.budget then
    grant.2.requestedMw.toInt / 1000
  else 0

/-- What is promised on a budget, in watts. -/
def promised (x : Commitments) (b : BudgetId) : ℚ := (x.granted.map (x.heldOn b)).sum

/-- The grants are of different reservations, planned for their messages and booked. -/
structure Honored (x : Commitments) (steps : Nat) : Prop where
  committed : x.coordinator.shared.gov.books.Committed steps
  first : x.coordinator.FirstIssue
  plans : x.coordinator.PlansFor
  granted : ∀ grant ∈ x.granted, x.coordinator.shared.gov.PlannedFor grant.1 grant.2
  exclusive : x.coordinator.Exclusive
  ids : x.granted.map Prod.fst = x.coordinator.granted.map Grant.reservation

variable {x : Commitments} {steps : Nat}

theorem honored_start : start.Honored 0 where
  committed := .empty _
  first := fun id st found => by cases found
  plans := fun conn reg rr id found => by cases found
  granted := fun grant member => absurd member List.not_mem_nil
  exclusive := Coordinator.exclusive_start
  ids := rfl

namespace Honored

theorem granted_after (honored : x.Honored steps) (event : Event) :
    ∀ grant ∈ (x.after event).granted,
      (x.after event).coordinator.shared.gov.PlannedFor grant.1 grant.2 := by
  intro grant member
  apply Coordinator.plannedFor_after
  rcases List.mem_append.mp member with before | new
  · exact honored.granted grant before
  · obtain ⟨conn, reg, _, _, found, _⟩ :=
      Coordinator.granted_of_concludes (Option.mem_toList.mp new)
    exact honored.plans conn reg grant.2 grant.1 found

theorem ids_after (honored : x.Honored steps) (event : Event) :
    (x.after event).granted.map Prod.fst =
      (x.coordinator.after event).granted.map Grant.reservation := by
  unfold after
  dsimp only
  rw [List.map_append, honored.ids]
  cases concluded : (x.coordinator.concludes event).bind Pending.reservation with
  | none =>
      rw [Coordinator.granted_of_none concluded]
      exact List.append_nil _
  | some grant =>
      obtain ⟨_, _, _, _, _, _, _, granted, _⟩ := Coordinator.granted_of_concludes concluded
      rw [granted, List.map_append]
      rfl

theorem after (honored : x.Honored steps) {event : Event} (grows : x.coordinator.Grows event) :
    (x.after event).Honored (steps + 1) where
  committed := Coordinator.committed_after honored.committed honored.first grows
  first := Coordinator.firstIssue_after honored.first event
  plans := Coordinator.plansFor_after honored.plans event
  granted := honored.granted_after event
  exclusive := honored.exclusive.after event
  ids := honored.ids_after event

theorem foldl (honored : x.Honored steps) {events : List Event}
    (grows : Along Coordinator.after Coordinator.Grows x.coordinator events) :
    (events.foldl Commitments.after x).Honored (steps + events.length) := by
  induction events generalizing x steps with
  | nil => exact honored
  | cons event rest inductionHypothesis =>
      obtain ⟨now, later⟩ := grows
      have held := inductionHypothesis (honored.after now) later
      rw [Nat.add_right_comm] at held
      exact held

/-- A grant holds what its reservation has set aside. -/
theorem heldOn_eq (honored : x.Honored steps) {grant : ReservationId × ReserveMsg}
    (member : grant ∈ x.granted) (b : BudgetId) :
    x.heldOn b grant = ((x.coordinator.shared.gov.reservations.find? grant.1).map
      (Reservation.share x.coordinator.shared.gov.budgets .reserved b)).getD 0 := by
  obtain ⟨r, found, planned⟩ := honored.granted grant member
  have regular := honored.committed.regular r (Keyed.mem_of_find? found)
  unfold heldOn Reservation.share
  rw [found, Option.any_some, Option.map_some, Option.getD_some, planned.budget]
  by_cases held : r.state.holds = true ∧
      b ∈ x.coordinator.shared.gov.budgets.chain grant.2.budget
  · have counted : Counter.reserved.counts r.state = true ∧
        b ∈ x.coordinator.shared.gov.budgets.chain grant.2.budget := held
    rw [if_pos held, if_pos counted, regular.holding held.1, planned.power]
  · have uncounted : ¬ (Counter.reserved.counts r.state = true ∧
        b ∈ x.coordinator.shared.gov.budgets.chain grant.2.budget) := held
    rw [if_neg held, if_neg uncounted]

/-- What is promised is reserved. -/
theorem promised_le (honored : x.Honored steps) {b : BudgetId} {amount : Watts}
    (counted : x.coordinator.shared.gov.budgets.amount? .reserved b = some amount) :
    x.promised b ≤ amount.value := by
  have distinct : (x.granted.map Prod.fst).Nodup := honored.ids ▸ honored.exclusive.distinct
  have shares : x.promised b = ((x.granted.map Prod.fst).map fun id =>
      ((x.coordinator.shared.gov.reservations.find? id).map
        (Reservation.share x.coordinator.shared.gov.budgets .reserved b)).getD 0).sum := by
    unfold promised
    rw [List.map_map]
    exact congrArg List.sum (List.map_congr_left fun grant member => honored.heldOn_eq member b)
  calc x.promised b
      ≤ x.coordinator.shared.gov.books.outstanding .reserved b :=
        shares ▸ Keyed.sum_weights_le_total _ (fun _ => Reservation.share_nonneg) distinct
    _ ≤ amount.value := honored.committed.covered b amount counted

end Honored

/-- No coordinator promises more than it has. In every run whose budgets name parents that
are installed, whatever the peers send and however the handlers interleave: the grants are of
different reservations, each planned for its message, and what the messages have asked for
and their reservations still hold is reserved on every budget of the chain, which is booked
within its maximum and one tolerance for each step. -/
theorem promises_within_hardMax {events : List Event}
    (grows : Along Coordinator.after Coordinator.Grows Coordinator.start events)
    {x : Commitments} (ran : events.foldl after start = x) :
    (x.granted.map Prod.fst).Nodup ∧
    (∀ grant ∈ x.granted, x.coordinator.shared.gov.PlannedFor grant.1 grant.2) ∧
    ∀ b st, x.coordinator.shared.gov.budgets.state? b = some st →
      x.promised b ≤ st.reserved.value ∧
        st.reserved.value + st.used.value ≤
          st.cfg.hardMax.value + events.length * (1 / 1000000000) := by
  have honored := honored_start.foldl grows
  rw [ran, Nat.zero_add] at honored
  refine ⟨honored.ids ▸ honored.exclusive.distinct, honored.granted, fun b st installed => ?_⟩
  have counted : x.coordinator.shared.gov.budgets.amount? .reserved b = some st.reserved :=
    BudgetManager.amount?_eq_some.mpr ⟨st, installed, rfl⟩
  exact ⟨honored.promised_le counted, honored.committed.sound.bounded b st installed⟩

/-- Two frames of one worker, handled one after the other. -/
def granting : List Event :=
  Coordinator.granting ++ [Event.frame 1 (Coordinator.reserveFrame 10), .proceed 1, .proceed 1]

theorem promises_within_hardMax_granting : ∃ st,
    (granting.foldl after start).coordinator.shared.gov.budgets.state? ⟨1⟩ = some st ∧
      (granting.foldl after start).promised ⟨1⟩ ≤ st.reserved.value := by
  have grows : Along Coordinator.after Coordinator.Grows Coordinator.start granting :=
    ⟨trivial, trivial, .inl rfl, trivial, trivial, trivial, trivial, trivial, trivial, trivial⟩
  obtain ⟨_, _, within⟩ := promises_within_hardMax grows rfl
  have present : ((granting.foldl after start).coordinator.shared.gov.budgets.state?
      ⟨1⟩).isSome = true := by decide +kernel
  obtain ⟨st, installed⟩ := Option.isSome_iff_exists.mp present
  exact ⟨st, installed, (within ⟨1⟩ st installed).1⟩

example : (granting.foldl after start).promised ⟨1⟩ = 100 := by decide +kernel

end Commitments

end PowerGovernor
