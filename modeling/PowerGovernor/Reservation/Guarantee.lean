import PowerGovernor.Reservation.Ledger

/-!
What a reservation guarantees.

Owns the runs that mix lifecycle calls with direct budget calls over a fixed
acyclic forest, the invariant that a held reservation's budget is installed under
the recorded generation, and the exact conditions under which a reserved or
admitted reservation can be activated. Activation books the power a second time,
as usage next to the reserved amount, so it needs room for it a second time.
-/

set_option autoImplicit false

namespace PowerGovernor

/-! ## Runs without re-issue -/

/-- A call on one of the two managers. -/
inductive AccountingCall where
  | budget (call : BudgetCall)
  | lifecycle (call : ReservationCall)

/-- The books after a call. -/
def AccountingCall.after (s : Books) : AccountingCall → Books
  | .budget call => { s with budgets := (call.exec s.budgets).1 }
  | .lifecycle call => call.after s

/-- A call that installs nothing. -/
def AccountingCall.KeepsForest : AccountingCall → Prop
  | .budget (.install _) => False
  | _ => True

/-- Runs of both interfaces over a fixed acyclic forest. -/
def accountingRuns : TransitionSystem Books AccountingCall where
  init := Books.Initial
  step := fun s call s' => call.KeepsForest ∧ s' = call.after s

/-! ## The invariant -/

/-- The budget of a held reservation is installed under the generation the
reservation recorded, and so is every budget on its chain. -/
structure Backed (m : BudgetManager) (r : Reservation) : Prop where
  installed : ∃ cfg, (m.state? r.budget).map BudgetState.cfg = some cfg ∧
    cfg.generation = r.budgetGeneration
  chain : ∀ b ∈ m.chain r.budget, m.has b = true

theorem Backed.congr {m m' : BudgetManager} {r : Reservation} (backed : Backed m r)
    (same : ∀ k, (m'.state? k).map BudgetState.cfg = (m.state? k).map BudgetState.cfg) :
    Backed m' r := by
  refine ⟨?_, fun b onChain => ?_⟩
  · rw [same]
    exact backed.installed
  · rw [BudgetManager.chain_congr (BudgetManager.parentOf_congr same)] at onChain
    have present := backed.chain b onChain
    have kept := congrArg Option.isSome (same b)
    rw [Option.isSome_map, Option.isSome_map] at kept
    exact kept.trans present

/-- The invariant of `accountingRuns`. -/
structure Secured (s : Books) : Prop where
  acyclic : s.budgets.Acyclic
  regular : ∀ r ∈ s.reservations.map.entries, r.Regular
  backed : ∀ r ∈ s.reservations.map.entries, r.state.holds = true → Backed s.budgets r

namespace Secured

variable {s s' : Books}

private theorem acyclic_congr {m m' : BudgetManager} (acyclic : m.Acyclic)
    (same : ∀ k, (m'.state? k).map BudgetState.cfg = (m.state? k).map BudgetState.cfg) :
    m'.Acyclic := by
  unfold BudgetManager.Acyclic
  rw [BudgetManager.parentOf_congr same]
  exact acyclic

theorem of_initial (initial : s.Initial) : Secured s := by
  obtain ⟨none, acyclic, _⟩ := initial
  have noEntries : s.reservations.map.entries = [] := by
    rw [none]
    rfl
  refine ⟨acyclic, ?_, ?_⟩
  · simp [noEntries]
  · simp [noEntries]

/-- A direct budget call moves counters and no definition. -/
theorem budget_step (secured : Secured s) {call : BudgetCall}
    (keeps : (AccountingCall.budget call).KeepsForest) :
    Secured ((AccountingCall.budget call).after s) := by
  have same : ∀ k, (((call.exec s.budgets).1).state? k).map BudgetState.cfg =
      (s.budgets.state? k).map BudgetState.cfg := by
    have booking : ∀ counter needsAuthority id amount gen k,
        (((BudgetManager.book counter needsAuthority s.budgets id amount gen).1).state? k).map
          BudgetState.cfg = (s.budgets.state? k).map BudgetState.cfg := by
      intro counter needsAuthority id amount gen k
      rcases BudgetManager.book_cases counter needsAuthority s.budgets id amount gen with
        ⟨refused, _⟩ | ⟨granted, _⟩
      · rw [refused]
      · rw [granted]
        exact BudgetManager.adjustChain_cfg _ _ _ k
    have returning : ∀ counter id amount gen k,
        (((BudgetManager.unbook counter s.budgets id amount gen).1).state? k).map
          BudgetState.cfg = (s.budgets.state? k).map BudgetState.cfg := by
      intro counter id amount gen k
      rcases BudgetManager.unbook_cases counter s.budgets id amount gen with
        ⟨refused, _⟩ | ⟨granted, _⟩
      · rw [refused]
      · rw [granted]
        exact BudgetManager.adjustChain_cfg _ _ _ k
    cases call with
    | install b => exact keeps.elim
    | reserve id amount rid gen => exact booking .reserved true id amount gen
    | release id amount rid gen => exact returning .reserved id amount gen
    | activate id amount rid gen => exact booking .used false id amount gen
    | deactivate id amount rid gen => exact returning .used id amount gen
  refine ⟨acyclic_congr secured.acyclic same, secured.regular, fun r member holds => ?_⟩
  exact (secured.backed r member holds).congr same

/-- Only `reserve` starts to hold capacity, and it checks what `Backed` says. -/
theorem lifecycle_step (secured : Secured s) {call : ReservationCall}
    (effect : Effect s call s') : Secured s' := by
  refine ⟨acyclic_congr secured.acyclic effect.cfg, Tallied.regular_step secured.regular effect, ?_⟩
  have before : ∀ r ∈ s.reservations.map.entries, r.state.holds = true → Backed s'.budgets r :=
    fun r member holds => (secured.backed r member holds).congr effect.cfg
  cases effect with
  | idle reservations _ =>
      rw [reservations]
      exact before
  | plan fresh planned _ =>
      apply Keyed.forall_emplace before
      intro holds
      simp [planned, ReservationState.holds] at holds
  | @quiet r f keeps found edge same =>
      apply Books.forall_write before found
      intro holds
      rw [edge.holds] at holds
      obtain ⟨installed, chain⟩ := before r (Keyed.mem_of_find? found) holds
      refine ⟨?_, ?_⟩
      · rw [same.budget, same.budgetGeneration]
        exact installed
      · rw [same.budget]
        exact chain
  | lapse lapses =>
      apply Books.forall_write before lapses.found
      exact fun holds => absurd holds Bool.false_ne_true
  | @reserve r gen reserves =>
      apply Books.forall_write before reserves.found
      intro _
      obtain ⟨⟨st, installed, current, _⟩, room⟩ := reserves.bookable
      have backed : Backed s.budgets (r.reservedUnder gen) := by
        refine ⟨⟨st.cfg, ?_, current⟩, fun b onChain => ?_⟩
        · change (s.budgets.state? r.budget).map BudgetState.cfg = some st.cfg
          rw [installed, Option.map_some]
        · obtain ⟨other, present, _⟩ := room b onChain
          exact BudgetManager.has_iff.mpr ⟨other, present⟩
      exact backed.congr (BudgetManager.adjustChain_cfg _ _ _)
  | @activate r now activates =>
      apply Books.forall_write before activates.found
      intro _
      have held : r.state.holds = true := by
        rcases activates.waiting with reserved | admitted
        · rw [reserved]
          rfl
        · rw [admitted]
          rfl
      obtain ⟨installed, chain⟩ := before r (Keyed.mem_of_find? activates.found) held
      exact ⟨installed, chain⟩
  | release releases =>
      apply Books.forall_write before releases.found
      exact fun holds => absurd holds Bool.false_ne_true

theorem of_reachable (reached : accountingRuns.Reachable s) : Secured s := by
  refine reached.invariant Secured (fun _ => of_initial) ?_
  rintro s call _ secured ⟨keeps, rfl⟩
  cases call with
  | budget call => exact secured.budget_step keeps
  | lifecycle call => exact secured.lifecycle_step (call.effect s)

end Secured

/-! ## Activation -/

/-- `activate`, under the generation the reservation recorded, succeeds and
leaves `budgets` behind. -/
def ActivatesTo (s : Books) (r : Reservation) (now : Timestamp) (budgets : BudgetManager) : Prop :=
  ∃ result rm, s.reservations.activate r.id s.budgets r.budgetGeneration now =
    .ok (result, rm, budgets) ∧ result.ok = true

/-- Every budget on the reservation's chain has room for its power beside what
is booked already, the reservation's own reserved amount included. -/
def RoomTwice (s : Books) (r : Reservation) : Prop :=
  ∀ b ∈ s.budgets.chain r.budget, ∀ st, s.budgets.state? b = some st →
    r.reservedPower.value ≤ st.ownAvailable.value + 1 / 1000000000

/-- Every budget that draws on the reservation's chain has nothing available, or
no more than stays on that chain beside the reservation's power. -/
def LeavesRest (s : Books) (r : Reservation) : Prop :=
  ∀ x y st, y ∈ s.budgets.chain x → y ∈ s.budgets.chain r.budget →
    s.budgets.state? y = some st → (s.budgets.available x).value = 0 ∨
      (s.budgets.available x).value ≤ st.ownAvailable.value - r.reservedPower.value

section Activation

variable {s : Books} {r : Reservation} {now : Timestamp}

/-- Within the validity only the booking of the usage decides. -/
theorem activatesTo_iff (found : s.reservations.find? r.id = some r)
    (waiting : r.state = .reserved ∨ r.state = .admitted) (alive : r.expired now = .ok false)
    {budgets : BudgetManager} :
    ActivatesTo s r now budgets ↔
      s.budgets.Bookable false r.budget r.requestedPower r.budgetGeneration ∧
        budgets = s.budgets.adjustChain .used r.requestedPower.value
          (s.budgets.chain r.budget) := by
  have pending : ¬ (r.state ≠ .admitted ∧ r.state ≠ .reserved) := by
    rcases waiting with reserved | admitted
    · exact fun other => other.2 reserved
    · exact fun other => other.1 admitted
  have got : s.reservations.mutableGet r.id = .ok r :=
    ReservationManager.mutableGet_eq_ok.mpr found
  unfold ActivatesTo ReservationManager.activate
  simp only [got, alive, bind, Except.bind, if_neg pending, ne_eq, not_true_eq_false, if_false,
    Bool.false_eq_true]
  rcases BudgetManager.book_cases .used false s.budgets r.budget r.requestedPower
    r.budgetGeneration with ⟨refused, notBookable⟩ | ⟨granted, bookable⟩
  · simp [BudgetManager.activate, refused, notBookable, ReservationResult.refused]
  · have accepted : (ReservationResult.accepted "active").ok = true := rfl
    simp only [BudgetManager.activate, granted, Bool.not_true, Bool.false_eq_true, if_false,
      Except.ok.injEq, Prod.mk.injEq]
    constructor
    · rintro ⟨_, _, ⟨rfl, rfl, rfl⟩, _⟩
      exact ⟨bookable, rfl⟩
    · rintro ⟨_, rfl⟩
      exact ⟨_, _, ⟨rfl, rfl, rfl⟩, accepted⟩

theorem requested_of_waiting (secured : Secured s) (found : s.reservations.find? r.id = some r)
    (waiting : r.state = .reserved ∨ r.state = .admitted) : r.reservedPower = r.requestedPower := by
  apply (secured.regular r (Keyed.mem_of_find? found)).holding
  rcases waiting with reserved | admitted
  · rw [reserved]
    rfl
  · rw [admitted]
    rfl

/-- A held reservation's budget is still the one it was reserved on, so only
the room on the chain can refuse the activation. -/
theorem bookable_iff_room (secured : Secured s) (found : s.reservations.find? r.id = some r)
    (waiting : r.state = .reserved ∨ r.state = .admitted) :
    s.budgets.Bookable false r.budget r.requestedPower r.budgetGeneration ↔ RoomTwice s r := by
  have holds : r.state.holds = true := by
    rcases waiting with reserved | admitted
    · rw [reserved]
      rfl
    · rw [admitted]
      rfl
  have member := Keyed.mem_of_find? found
  obtain ⟨⟨cfg, installed, current⟩, chain⟩ := secured.backed r member holds
  obtain ⟨st, present, rfl⟩ := Option.map_eq_some_iff.mp installed
  have requested := requested_of_waiting secured found waiting
  unfold RoomTwice
  rw [requested]
  constructor
  · intro bookable b onChain other otherPresent
    obtain ⟨same, samePresent, room⟩ := bookable.room b onChain
    rw [otherPresent] at samePresent
    rw [Option.some.inj samePresent]
    exact room
  · intro room
    refine ⟨⟨st, present, current, nofun⟩, fun b onChain => ?_⟩
    obtain ⟨other, otherPresent⟩ := BudgetManager.has_iff.mp (chain b onChain)
    exact ⟨other, otherPresent, room b onChain other otherPresent⟩

/-- Activation that takes nothing from anybody takes no more than the
tolerance. -/
theorem small_of_unlowered (secured : Secured s) (found : s.reservations.find? r.id = some r)
    (waiting : r.state = .reserved ∨ r.state = .admitted) (valid : r.budget.isValid = true)
    (positive : 0 < r.reservedPower.value) (room : RoomTwice s r)
    (kept : LeavesRest s r) :
    r.reservedPower.value ≤ 1 / 1000000000 := by
  by_contra large
  have surplus : 0 < r.reservedPower.value - 1 / 1000000000 := by linarith
  have bookable := (bookable_iff_room secured found waiting).mpr room
  have atLeast : ∀ bound : ℚ, 0 < bound →
      (∀ b ∈ s.budgets.chain r.budget, ∀ st, s.budgets.state? b = some st →
        bound ≤ st.ownAvailable.value) → bound ≤ (s.budgets.available r.budget).value := by
    intro bound boundPositive own
    have each : ∀ b ∈ s.budgets.chain r.budget, ∃ st, s.budgets.state? b = some st ∧
        bound ≤ st.ownAvailable.value := by
      intro b onChain
      obtain ⟨st, installed, _⟩ := bookable.room b onChain
      exact ⟨st, installed, own b onChain st installed⟩
    exact (BudgetManager.le_available_iff boundPositive).mpr
      ⟨each r.budget (BudgetManager.mem_chain_self valid), each⟩
  have available : 0 < (s.budgets.available r.budget).value :=
    lt_of_lt_of_le surplus <| atLeast _ surplus fun b onChain st installed => by
      have enough := room b onChain st installed
      linarith
  have beyond := atLeast ((s.budgets.available r.budget).value + r.reservedPower.value)
    (by linarith) fun b onChain st installed => by
      rcases kept r.budget b st onChain onChain installed with zero | room
      · linarith
      · linarith
  linarith

theorem room_and_kept_of_harmless
    (harmless : r.budget.isValid = false ∨ r.reservedPower.value = 0 ∨
      r.reservedPower.value ≤ 1 / 1000000000 ∧ LeavesRest s r) :
    RoomTwice s r ∧ LeavesRest s r := by
  rcases harmless with invalid | zero | ⟨small, kept⟩
  · have none := BudgetManager.chain_of_invalid (m := s.budgets) invalid
    refine ⟨fun b onChain => ?_, fun x y st _ onChain => ?_⟩
    · simp [none] at onChain
    · simp [none] at onChain
  · refine ⟨fun b _ st _ => ?_, fun x y st onOwn _ installed => ?_⟩
    · rw [zero]
      exact add_nonneg st.ownAvailable.nonneg (by norm_num)
    · rcases (s.budgets.available x).nonneg.eq_or_lt with none | positive
      · exact .inl none.symm
      · obtain ⟨_, chain⟩ := (BudgetManager.le_available_iff positive).mp (le_refl _)
        obtain ⟨other, found, bound⟩ := chain y onOwn
        rw [installed] at found
        rw [zero, sub_zero, Option.some.inj found]
        exact .inr bound
  · refine ⟨fun b _ st _ => ?_, kept⟩
    exact small.trans (le_add_of_nonneg_left st.ownAvailable.nonneg)

end Activation

theorem accounting_reachable_run {s : Books} (reached : accountingRuns.Reachable s)
    (calls : List ReservationCall) : accountingRuns.Reachable (s.run calls) := by
  induction calls generalizing s with
  | nil => exact reached
  | cons call rest inductionHypothesis =>
      have keeps : (AccountingCall.lifecycle call).KeepsForest := trivial
      exact inductionHypothesis (.step (.lifecycle call) reached ⟨keeps, rfl⟩)

/-- The first reservation of some books. -/
def firstReservation (s : Books) : Reservation := (s.reservations.find? ⟨1⟩).getD .blank

end PowerGovernor
