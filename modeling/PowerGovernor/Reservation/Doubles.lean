import PowerGovernor.Budget.Doubles
import PowerGovernor.Reservation.Effect

/-!
The reservation lifecycle over budgets in doubles.

Owns the three lifecycle operations that move power, with the rounding of the budgets they
book on, and the condition on a call under which the rounding changes nothing.
-/

set_option autoImplicit false

namespace PowerGovernor

/-! ## The operations -/

namespace ReservationManager

def reserveInDoubles (rm : ReservationManager) (id : ReservationId) (budgets : BudgetManager)
    (budgetGen : BudgetGeneration) (now : Timestamp) :
    Except Fault (ReservationResult × ReservationManager × BudgetManager) := do
  let r ← rm.mutableGet id
  if r.state ≠ .validated ∧ r.state ≠ .planned then
    .ok (.refused "reservation not reservable (already reserved/active/released)", rm, budgets)
  else if ← r.expired now then
    .ok (.refused "reservation expired", rm.setState id .expired, budgets)
  else
    let (budgets, ok) := InDoubles.reserve budgets r.budget r.requestedPower id budgetGen
    if !ok then
      .ok (.refused "budget reserve failed (capacity/generation/authority)", rm, budgets)
    else
      let rm := rm.write id (.reservedUnder budgetGen) (Reservation.reservedUnder_id budgetGen)
      .ok (.accepted "reserved", rm, budgets)

def activateInDoubles (rm : ReservationManager) (id : ReservationId) (budgets : BudgetManager)
    (budgetGen : BudgetGeneration) (now : Timestamp) :
    Except Fault (ReservationResult × ReservationManager × BudgetManager) := do
  let r ← rm.mutableGet id
  if r.state ≠ .admitted ∧ r.state ≠ .reserved then
    .ok (.refused "stale activation: reservation not admitted", rm, budgets)
  else if ← r.expired now then
    .ok (.refused "reservation expired", rm.setState id .expired, budgets)
  else if r.budgetGeneration ≠ budgetGen then
    .ok (.refused "stale activation: budget generation changed", rm, budgets)
  else
    let (budgets, ok) := InDoubles.activate budgets r.budget r.requestedPower id budgetGen
    if !ok then
      .ok (.refused "budget activate failed", rm, budgets)
    else
      let rm := rm.write id (.activeFrom now) (Reservation.activeFrom_id now)
      .ok (.accepted "active", rm, budgets)

def releaseInDoubles (rm : ReservationManager) (id : ReservationId) (budgets : BudgetManager)
    (budgetGen : BudgetGeneration) (now : Timestamp) :
    Except Fault (ReservationResult × ReservationManager × BudgetManager) := do
  let r ← rm.mutableGet id
  if r.state = .released then
    .ok (.refused "double release", rm, budgets)
  else if r.state = .expired then
    .ok (.refused "already expired", rm, budgets)
  else if r.budgetGeneration.isNull ∧ (r.state = .admitted ∨ r.state = .active) then
    .ok (.refused "release with unknown budget generation", rm, budgets)
  else
    let (budgets, released) := InDoubles.release budgets r.budget r.reservedPower id budgetGen
    if !released then
      .ok (.refused "budget release failed (over-release/stale generation)", rm, budgets)
    else
      let budgets :=
        if r.state = .active ∨ r.state = .admitted ∨ r.state = .reserved then
          (InDoubles.deactivate budgets r.budget r.reservedPower id budgetGen).1
        else budgets
      let rm := rm.write id (.releasedFrom now) (Reservation.releasedFrom_id now)
      .ok (.accepted "released", rm, budgets)

end ReservationManager

namespace ReservationCall

/-- The result of a call, with all rounding, and the books it leaves behind. -/
def execInDoubles (s : Books) : ReservationCall → Except Fault (ReservationResult × Books)
  | .reserve id budgetGen now => do
    let (result, rm, bm) ← s.reservations.reserveInDoubles id s.budgets budgetGen now
    .ok (result, { s with reservations := rm, budgets := bm })
  | .activate id budgetGen now => do
    let (result, rm, bm) ← s.reservations.activateInDoubles id s.budgets budgetGen now
    .ok (result, { s with reservations := rm, budgets := bm })
  | .release id budgetGen now => do
    let (result, rm, bm) ← s.reservations.releaseInDoubles id s.budgets budgetGen now
    .ok (result, { s with reservations := rm, budgets := bm })
  -- The other operations book no power.
  | call => call.exec s

def afterInDoubles (s : Books) (call : ReservationCall) : Books :=
  match call.execInDoubles s with
  | .ok (_, s') => s'
  | .error _ => s

/-! ## Calls that come out exactly -/

/-- The budgets a call books on come out as without rounding. -/
def Exactly (s : Books) : ReservationCall → Prop
  | .reserve id _ _ => ∀ r ∈ s.reservations.find? id, r.state = .planned ∨ r.state = .validated →
    InDoubles.BooksExactly .reserved s.budgets r.budget r.requestedPower
  | .activate id _ _ => ∀ r ∈ s.reservations.find? id, r.state = .reserved ∨ r.state = .admitted →
    InDoubles.BooksExactly .used s.budgets r.budget r.requestedPower
  | .release id _ _ => ∀ r ∈ s.reservations.find? id, r.state ≠ .released → r.state ≠ .expired →
    InDoubles.ReturnsExactly .reserved s.budgets r.budget r.reservedPower ∧
      (r.state.holds = true →
        InDoubles.ReturnsExactly .used s.budgets r.budget r.reservedPower)
  | _ => True

end ReservationCall

namespace ReservationManager

variable {rm : ReservationManager} {m : BudgetManager} {id : ReservationId} {r : Reservation}
  {budgetGen : BudgetGeneration} {now : Timestamp}

theorem reserveInDoubles_of_exact (acyclic : m.Acyclic)
    (exactly : ∀ r ∈ rm.find? id, r.state = .planned ∨ r.state = .validated →
      InDoubles.BooksExactly .reserved m r.budget r.requestedPower) :
    rm.reserveInDoubles id m budgetGen now = rm.reserve id m budgetGen now := by
  unfold reserveInDoubles reserve
  cases got : rm.mutableGet id with
  | error fault => rfl
  | ok r =>
      have found : rm.find? id = some r := mutableGet_eq_ok.mp got
      dsimp only [bind, Except.bind]
      by_cases refused : r.state ≠ .validated ∧ r.state ≠ .planned
      · rw [if_pos refused, if_pos refused]
      · have early : r.state = .planned ∨ r.state = .validated := by tauto
        have same : InDoubles.reserve m r.budget r.requestedPower id budgetGen =
            m.reserve r.budget r.requestedPower id budgetGen :=
          InDoubles.book_of_exact (BudgetManager.nodup_chain acyclic r.budget)
            (exactly r found early) true budgetGen
        rewrite [if_neg refused, if_neg refused, same]
        rfl

theorem activateInDoubles_of_exact (acyclic : m.Acyclic)
    (exactly : ∀ r ∈ rm.find? id, r.state = .reserved ∨ r.state = .admitted →
      InDoubles.BooksExactly .used m r.budget r.requestedPower) :
    rm.activateInDoubles id m budgetGen now = rm.activate id m budgetGen now := by
  unfold activateInDoubles activate
  cases got : rm.mutableGet id with
  | error fault => rfl
  | ok r =>
      have found : rm.find? id = some r := mutableGet_eq_ok.mp got
      dsimp only [bind, Except.bind]
      by_cases refused : r.state ≠ .admitted ∧ r.state ≠ .reserved
      · rw [if_pos refused, if_pos refused]
      · have waiting : r.state = .reserved ∨ r.state = .admitted := by tauto
        have same : InDoubles.activate m r.budget r.requestedPower id budgetGen =
            m.activate r.budget r.requestedPower id budgetGen :=
          InDoubles.book_of_exact (BudgetManager.nodup_chain acyclic r.budget)
            (exactly r found waiting) false budgetGen
        rewrite [if_neg refused, if_neg refused, same]
        rfl

/-- The second return of a release finds the usage that the first one left alone. -/
theorem deactivate_of_exact (acyclic : m.Acyclic) {amount : Watts} {budget : BudgetId}
    (exactly : InDoubles.ReturnsExactly .used m budget amount) (rid : ReservationId) :
    InDoubles.deactivate (m.release budget amount rid budgetGen).1 budget amount rid budgetGen =
      (m.release budget amount rid budgetGen).1.deactivate budget amount rid budgetGen := by
  unfold BudgetManager.release
  rcases BudgetManager.unbook_cases .reserved m budget amount budgetGen with
    ⟨refused, _⟩ | ⟨taken, _⟩
  · rw [refused]
    exact InDoubles.unbook_of_exact (BudgetManager.nodup_chain acyclic budget) exactly budgetGen
  · rw [taken]
    have chain : (m.adjustChain .reserved (-amount.value) (m.chain budget)).chain budget =
        m.chain budget :=
      BudgetManager.chain_congr (BudgetManager.parentOf_adjustChain _ _ _) budget
    refine InDoubles.unbook_of_exact ?_ (InDoubles.returnsExactly_congr chain (fun b => ?_) exactly)
      budgetGen
    · show (BudgetManager.chain _ budget).Nodup
      rw [chain]
      exact BudgetManager.nodup_chain acyclic budget
    · exact BudgetManager.amount?_adjustChain_other (by decide) _ _ b

theorem releaseInDoubles_of_exact (acyclic : m.Acyclic)
    (exactly : ∀ r ∈ rm.find? id, r.state ≠ .released → r.state ≠ .expired →
      InDoubles.ReturnsExactly .reserved m r.budget r.reservedPower ∧
        (r.state.holds = true → InDoubles.ReturnsExactly .used m r.budget r.reservedPower)) :
    rm.releaseInDoubles id m budgetGen now = rm.release id m budgetGen now := by
  unfold releaseInDoubles release
  cases got : rm.mutableGet id with
  | error fault => rfl
  | ok r =>
      have found : rm.find? id = some r := mutableGet_eq_ok.mp got
      dsimp only [bind, Except.bind]
      by_cases released : r.state = .released
      · rw [if_pos released, if_pos released]
      by_cases expired : r.state = .expired
      · rw [if_neg released, if_neg released, if_pos expired, if_pos expired]
      obtain ⟨first, second⟩ := exactly r found released expired
      have same : InDoubles.release m r.budget r.reservedPower id budgetGen =
          m.release r.budget r.reservedPower id budgetGen :=
        InDoubles.unbook_of_exact (BudgetManager.nodup_chain acyclic r.budget) first budgetGen
      rw [if_neg released, if_neg released, if_neg expired, if_neg expired, same]
      by_cases holds : r.state = .active ∨ r.state = .admitted ∨ r.state = .reserved
      · have holding : r.state.holds = true := by
          rcases holds with active | admitted | reserved
          · rw [active]; rfl
          · rw [admitted]; rfl
          · rw [reserved]; rfl
        rewrite [deactivate_of_exact acyclic (second holding)]
        rfl
      · rewrite [if_neg holds, if_neg holds]
        rfl

end ReservationManager

namespace ReservationCall

/-- On an acyclic forest a call that comes out exactly is the call without rounding. -/
theorem execInDoubles_of_exact {s : Books} {call : ReservationCall} (acyclic : s.budgets.Acyclic)
    (exactly : call.Exactly s) : call.execInDoubles s = call.exec s := by
  cases call with
  | reserve id budgetGen now =>
      dsimp only [execInDoubles, exec]
      rw [ReservationManager.reserveInDoubles_of_exact acyclic exactly]
  | activate id budgetGen now =>
      dsimp only [execInDoubles, exec]
      rw [ReservationManager.activateInDoubles_of_exact acyclic exactly]
  | release id budgetGen now =>
      dsimp only [execInDoubles, exec]
      rw [ReservationManager.releaseInDoubles_of_exact acyclic exactly]
  | _ => rfl

theorem afterInDoubles_of_exact {s : Books} {call : ReservationCall} (acyclic : s.budgets.Acyclic)
    (exactly : call.Exactly s) : call.afterInDoubles s = call.after s := by
  unfold afterInDoubles after
  rewrite [execInDoubles_of_exact acyclic exactly]
  cases call.exec s with
  | error fault => rfl
  | ok result => rfl

end ReservationCall

/-! ## Calls on a grid -/

/-- All powers in the books are on one grid. -/
structure Books.OnGrid (k : ℤ) (s : Books) : Prop where
  budgets : s.budgets.OnGrid k
  powers : ∀ r ∈ s.reservations.map.entries,
    Binary64.OnGrid k r.requestedPower.value ∧ Binary64.OnGrid k r.reservedPower.value

section Grid

variable {k : ℤ} {s s' : Books} {call : ReservationCall} {r : Reservation}

/-- On a grid every call comes out exactly. -/
theorem ReservationCall.exactly_of_onGrid (grid : s.OnGrid k) (coarse : -28 ≤ k) (finite : k ≤ 970)
    (call : ReservationCall) : call.Exactly s := by
  have powers : ∀ {id : ReservationId}, ∀ r ∈ s.reservations.find? id,
      Binary64.OnGrid k r.requestedPower.value ∧ Binary64.OnGrid k r.reservedPower.value :=
    fun r found => grid.powers r (Keyed.mem_of_find? found)
  cases call with
  | reserve id budgetGen now =>
      exact fun r found _ =>
        InDoubles.booksExactly_of_onGrid grid.budgets (powers r found).1 coarse finite
  | activate id budgetGen now =>
      exact fun r found _ =>
        InDoubles.booksExactly_of_onGrid grid.budgets (powers r found).1 coarse finite
  | release id budgetGen now =>
      exact fun r found _ _ =>
        ⟨InDoubles.returnsExactly_of_onGrid grid.budgets (powers r found).2 coarse finite,
          fun _ => InDoubles.returnsExactly_of_onGrid grid.budgets (powers r found).2 coarse finite⟩
  | _ => trivial

/-- The two returns of a release stay on the grid. -/
theorem Books.onGrid_returned (grid : s.OnGrid k) (acyclic : s.budgets.Acyclic)
    (coarse : -28 ≤ k) (onGrid : Binary64.OnGrid k r.reservedPower.value)
    {gen : BudgetGeneration}
    (returnable : s.budgets.Returnable .reserved r.budget r.reservedPower gen) :
    (s.returned r gen).OnGrid k := by
  have taken : ∀ {m : BudgetManager} {counter : Counter}, m.OnGrid k →
      m.Returnable counter r.budget r.reservedPower gen → ∀ b ∈ m.chain r.budget, ∀ st,
        m.state? b = some st →
          Binary64.OnGrid k ((st.get counter).value + -r.reservedPower.value) := by
    intro m counter grid returnable b onChain st found
    obtain ⟨other, same, covers⟩ := returnable.booked b onChain
    obtain rfl := Option.some.inj (found.symm.trans same)
    exact (InDoubles.covered_of_onGrid (grid b st found) onGrid coarse covers).2
  have first : (s.unreserved r).OnGrid k :=
    InDoubles.onGrid_adjustChain grid.budgets (BudgetManager.nodup_chain acyclic r.budget)
      (taken grid.budgets returnable)
  rcases s.returned_cases r gen with ⟨once, _⟩ | ⟨twice, _, again⟩
  · rw [once]
    exact first
  · rw [twice, ← s.chain_unreserved r]
    exact InDoubles.onGrid_adjustChain first
      (BudgetManager.nodup_chain (s.acyclic_unreserved r acyclic) r.budget) (taken first again)

/-- A call that asks for power on the grid keeps the books on it. -/
theorem Books.onGrid_of_effect (grid : s.OnGrid k) (acyclic : s.budgets.Acyclic)
    (coarse : -28 ≤ k) (finite : k ≤ 970) (effect : Effect s call s')
    (asks : ∀ power ∈ call.asks, Binary64.OnGrid k power.value) : s'.OnGrid k := by
  have booked : ∀ {counter : Counter} {needsAuthority : Bool} {r : Reservation}
      {gen : BudgetGeneration}, s.reservations.find? r.id = some r →
        s.budgets.Bookable needsAuthority r.budget r.requestedPower gen →
          (s.budgets.adjustChain counter r.requestedPower.value
            (s.budgets.chain r.budget)).OnGrid k := by
    intro counter needsAuthority r gen found bookable
    refine InDoubles.onGrid_adjustChain grid.budgets
      (BudgetManager.nodup_chain acyclic r.budget) fun b onChain st installed => ?_
    obtain ⟨other, same, room⟩ := bookable.room b onChain
    obtain rfl := Option.some.inj (installed.symm.trans same)
    exact (InDoubles.fits_of_onGrid (grid.budgets b st installed)
      (grid.powers r (Keyed.mem_of_find? found)).1 coarse finite room).2
  cases effect with
  | idle reservations budgets =>
      refine ⟨?_, ?_⟩
      · rw [budgets]
        exact grid.budgets
      · rw [reservations]
        exact grid.powers
  | @plan r ids fresh planned unreserved asked =>
      refine ⟨grid.budgets, Keyed.forall_emplace grid.powers ⟨asks _ asked, ?_⟩⟩
      rw [unreserved]
      exact Binary64.onGrid_zero
  | @quiet r f keeps found edge same =>
      refine ⟨grid.budgets, Books.forall_write grid.powers found ?_⟩
      rw [same.requestedPower, same.reservedPower]
      exact grid.powers r (Keyed.mem_of_find? found)
  | @lapse r lapses =>
      exact ⟨grid.budgets, Books.forall_write grid.powers lapses.found
        (grid.powers r (Keyed.mem_of_find? lapses.found))⟩
  | @reserve r gen reserves =>
      have powers := grid.powers r (Keyed.mem_of_find? reserves.found)
      exact ⟨booked reserves.found reserves.bookable,
        Books.forall_write grid.powers reserves.found ⟨powers.1, powers.1⟩⟩
  | @activate r now activates =>
      obtain ⟨gen, bookable⟩ := activates.bookable
      exact ⟨booked activates.found bookable, Books.forall_write grid.powers activates.found
        (grid.powers r (Keyed.mem_of_find? activates.found))⟩
  | @release r gen now releases =>
      have powers := grid.powers r (Keyed.mem_of_find? releases.found)
      exact ⟨Books.onGrid_returned grid acyclic coarse powers.2 releases.returnable,
        Books.forall_write grid.powers releases.found powers⟩

end Grid

end PowerGovernor
