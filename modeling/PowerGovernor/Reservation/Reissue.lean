import PowerGovernor.Budget.Forest
import PowerGovernor.Reservation.Guarantee
import PowerGovernor.Reservation.Lifecycle

/-!
Reservations over budgets that are re-issued.

Owns the runs that mix lifecycle calls with newer generations of installed
budgets, the record of where each reservation's power was put on either counter,
and the conditions on a step under which the bookings stay within the maxima and
every reservation that holds power can give it back where it was put, and no more.

A re-issue replaces the configuration under the counters: a lowered maximum is
not compared with what is booked, and a moved parent changes the chain that a
later release walks.
-/

set_option autoImplicit false

namespace PowerGovernor

/-- A lifecycle call, or a newer generation of an installed budget. -/
inductive ReissueCall where
  | lifecycle (call : ReservationCall)
  | reissue (b : PowerBudget)

/-- The power a call brings in. -/
def ReissueCall.power? : ReissueCall → Option Watts
  | .lifecycle call => call.asks
  | .reissue b => some b.hardMax

/-- The books, the bookings granted so far, and the budgets each reservation's
power was reserved on and, once it was active, counted as used on. -/
structure Placements where
  books : Books
  granted : Nat
  placed : ReservationId → List BudgetId
  usedOn : ReservationId → List BudgetId

namespace ReservationCall

/-- A call that books power. -/
def booksPower : ReservationCall → Bool
  | .reserve .. | .activate .. => true
  | _ => false

/-- The call admits or activates a reservation that waits. -/
def TakesOn (s : Books) : ReservationCall → Reservation → Prop
  | .admitReservation id now, r =>
      s.reservations.find? id = some r ∧ r.state = .reserved ∧ r.expired now = .ok false
  | .activate id budgetGen now, r => (ReservationCall.activate id budgetGen now).Activates s r
  | _, _ => False

end ReservationCall

/-- The books an operation leaves behind. -/
def Books.leftBy (s : Books) : Except Fault (ReservationResult × Books) → Books
  | .ok (_, s') => s'
  | .error _ => s

/-- The operation returned a result that is accepted. -/
def Books.accepts : Except Fault (ReservationResult × Books) → Bool
  | .ok (result, _) => result.ok
  | .error _ => false

namespace Placements

/-- A reservation that becomes RESERVED puts its power on the chain of its budget. -/
def placedAfter (s : Placements) (after : Books) (id : ReservationId) : List BudgetId :=
  match s.books.reservations.find? id, after.reservations.find? id with
  | some r, some r' =>
    if r.state.progress < 2 ∧ r'.state = .reserved then s.books.budgets.chain r.budget
    else s.placed id
  | _, _ => s.placed id

/-- One that becomes ACTIVE is counted as usage on that chain. -/
def usedOnAfter (s : Placements) (after : Books) (id : ReservationId) : List BudgetId :=
  match s.books.reservations.find? id, after.reservations.find? id with
  | some r, some r' =>
    if r.state ≠ .active ∧ r'.state = .active then s.books.budgets.chain r.budget
    else s.usedOn id
  | _, _ => s.usedOn id

/-- The record once a call had this outcome. -/
def record (s : Placements) (call : ReservationCall)
    (outcome : Except Fault (ReservationResult × Books)) : Placements :=
  { books := s.books.leftBy outcome
    granted := s.granted + if call.booksPower && Books.accepts outcome then 1 else 0
    placed := s.placedAfter (s.books.leftBy outcome)
    usedOn := s.usedOnAfter (s.books.leftBy outcome) }

def after (s : Placements) : ReissueCall → Placements
  | .lifecycle call => s.record call (call.execInDoubles s.books)
  | .reissue b => { s with books := { s.books with budgets := (s.books.budgets.install b).1 } }

end Placements

/-- A re-issue names an installed budget, carries a newer generation and keeps
the forest. -/
def ReissueCall.KeepsForest (s : Placements) : ReissueCall → Prop
  | .lifecycle _ => True
  | .reissue b => s.books.budgets.has b.id = true ∧ ¬ s.books.budgets.Superseded b ∧
      s.books.budgets.Supports b

/-- The runs of these calls that meet a condition, with the rounding of the budgets and with
all maxima and requests among some powers: no reservation and nothing booked at the start, on
any forest. -/
def reissueRuns (Power : Watts → Prop) (Meets : Placements → ReissueCall → Prop) :
    TransitionSystem Placements ReissueCall where
  init := fun s => s.books.reservations = .empty ∧ s.books.budgets.Forest ∧ s.granted = 0 ∧
    ∀ id st, s.books.budgets.state? id = some st →
      Power st.cfg.hardMax ∧ st.reserved = Watts.zero ∧ st.used = Watts.zero
  step := fun s call s' => call.KeepsForest s ∧ (∀ power ∈ call.power?, Power power) ∧
    Meets s call ∧ s' = s.after call

theorem reachable_lifecycle {Power : Watts → Prop} {Meets : Placements → ReissueCall → Prop}
    {s : Placements} (reached : (reissueRuns Power Meets).Reachable s) {call : ReservationCall}
    (asks : ∀ power ∈ call.asks, Power power) (meets : Meets s (.lifecycle call)) :
    (reissueRuns Power Meets).Reachable (s.after (.lifecycle call)) :=
  .step (ReissueCall.lifecycle call) reached ⟨trivial, asks, meets, rfl⟩

/-- `release` under this generation succeeds and takes the reservation's power off
the budgets it was put on, on the counters it was put on, and off no other. -/
def Placements.GivesBack (s : Placements) (r : Reservation) (gen : BudgetGeneration)
    (now : Timestamp) : Prop :=
  ∃ result s', (ReservationCall.release r.id gen now).execInDoubles s.books = .ok (result, s') ∧
    result.ok = true ∧ ∀ b,
      (s'.budgets.reserved b).value = (s.books.budgets.reserved b).value -
        (if b ∈ s.placed r.id then r.reservedPower.value else 0) ∧
      (s'.budgets.used b).value = (s.books.budgets.used b).value -
        if r.state = .active ∧ b ∈ s.usedOn r.id then r.reservedPower.value else 0

/-- No budget is booked beyond its maximum and one tolerance for each booking
granted, and what is held can be given back. -/
structure Placements.Sound (s : Placements) : Prop where
  bounded : ∀ id st, s.books.budgets.state? id = some st →
    st.reserved.value + st.used.value ≤ st.cfg.hardMax.value + s.granted * (1 / 1000000000)
  releasable : ∀ r, s.books.reservations.find? r.id = some r → r.state.holds = true →
    ∃ st, s.books.budgets.state? r.budget = some st ∧
      ∀ now, s.GivesBack r st.cfg.generation now

/-- The usage of some budget on the chain, with what is about to be added to it, stays below
this power, so that `deactivate` takes none of it off. -/
def BudgetManager.LacksUsage (m : BudgetManager) (added : BudgetId → ℚ) (id : BudgetId)
    (power : Watts) : Prop :=
  power.value = 0 ∨ m.chain id = [] ∨ ∃ b ∈ m.chain id, ∃ amount,
    m.amount? .used b = some amount ∧ amount.value + added b + slack < power.value

/-- The condition on a lifecycle call. A reservation made under the null generation is not
admitted or activated, since `release` then refuses it. Nothing is reserved where its release
could take the usage of others, and nothing is activated where a waiting reservation could
take its usage. -/
structure ReservationCall.KeepsPlaces (s : Books) (call : ReservationCall) : Prop where
  known : ∀ r, call.TakesOn s r → r.budgetGeneration.isNull = false
  reserves : ∀ r gen, call.Reserves s r gen →
    s.budgets.LacksUsage (fun _ => 0) r.budget r.requestedPower
  activates : ∀ r, call.Activates s r → ∀ other ∈ s.reservations.map.entries, other.id ≠ r.id →
    other.state = .reserved ∨ other.state = .admitted →
      s.budgets.LacksUsage
        (fun b => if b ∈ s.budgets.chain r.budget then r.requestedPower.value else 0)
        other.budget other.reservedPower

/-- The condition on a step. A re-issue leaves room for what is booked, and keeps
the parent of a budget that power is placed on, unless the guard ends the chain
there. -/
def ReissueCall.KeepsPlaces (s : Placements) : ReissueCall → Prop
  | .reissue b =>
    (∀ st, s.books.budgets.state? b.id = some st →
      st.booked ≤ b.hardMax.value + s.granted * slack) ∧
    (b.parent.filter StrongId.isValid = s.books.budgets.parentOf b.id ∨
      ∀ r ∈ s.books.reservations.map.entries, r.state.holds = true →
        0 < r.reservedPower.value → b.id ∉ (s.books.budgets.chain r.budget).take 64)
  | .lifecycle call => call.KeepsPlaces s.books

/-! ## The invariant -/

/-- The invariant of the runs whose steps keep the places. -/
structure Placed (k : ℤ) (s : Placements) : Prop where
  forest : s.books.budgets.Forest
  grid : s.books.OnGrid k
  bounded : ∀ id st, s.books.budgets.state? id = some st →
    st.booked ≤ st.cfg.hardMax.value + s.granted * slack
  tallied : Tallied .used s.books
  installed : ∀ r ∈ s.books.reservations.map.entries, r.state.holds = true →
    s.books.budgets.has r.budget = true
  known : ∀ r ∈ s.books.reservations.map.entries, r.state = .admitted ∨ r.state = .active →
    r.budgetGeneration.isNull = false
  inPlace : ∀ r ∈ s.books.reservations.map.entries, r.state.holds = true →
    0 < r.reservedPower.value → s.books.budgets.chain r.budget = s.placed r.id
  usedInPlace : ∀ r ∈ s.books.reservations.map.entries, r.state = .active →
    0 < r.reservedPower.value → s.books.budgets.chain r.budget = s.usedOn r.id
  apart : ∀ r ∈ s.books.reservations.map.entries, r.state = .reserved ∨ r.state = .admitted →
    s.books.budgets.LacksUsage (fun _ => 0) r.budget r.reservedPower
  covered : ∀ b amount, s.books.budgets.amount? .reserved b = some amount →
    s.books.outstanding .reserved b ≤ amount.value

/-- What lacks usage lacks it where the chain is the same and its usage has not grown. -/
theorem BudgetManager.lacksUsage_of_le {m m' : BudgetManager} {added added' : BudgetId → ℚ}
    {id : BudgetId} {power : Watts} (chain : m'.chain id = m.chain id)
    (le : ∀ b ∈ m.chain id, ∀ amount, m.amount? .used b = some amount →
      ∃ amount', m'.amount? .used b = some amount' ∧
        amount'.value + added' b ≤ amount.value + added b)
    (lacks : m.LacksUsage added id power) : m'.LacksUsage added' id power := by
  unfold LacksUsage
  rw [chain]
  rcases lacks with zero | none | ⟨b, onChain, amount, counted, short⟩
  · exact .inl zero
  · exact .inr (.inl none)
  · obtain ⟨amount', counted', less⟩ := le b onChain amount counted
    exact .inr (.inr ⟨b, onChain, amount', counted', by linarith⟩)

/-- What lacks usage still lacks it where no usage has grown. -/
theorem BudgetManager.lacksUsage_of_shrinks {m m' : BudgetManager} {added : BudgetId → ℚ}
    {id : BudgetId} {power : Watts} (chain : m'.chain id = m.chain id)
    (shrinks : ∀ b amount, m.amount? .used b = some amount →
      ∃ amount', m'.amount? .used b = some amount' ∧ amount'.value ≤ amount.value)
    (lacks : m.LacksUsage added id power) : m'.LacksUsage added id power := by
  refine lacksUsage_of_le chain (fun b _ amount counted => ?_) lacks
  obtain ⟨amount', counted', less⟩ := shrinks b amount counted
  exact ⟨amount', counted', by linarith⟩

/-- On a chain that lacks the usage a release takes none. -/
theorem ReservationCall.leavesUsage_of_lacks {s : Books} {call : ReservationCall}
    (lacks : ∀ r ∈ s.reservations.map.entries, r.state = .reserved ∨ r.state = .admitted →
      s.budgets.LacksUsage (fun _ => 0) r.budget r.reservedPower) : call.LeavesUsage s := by
  intro r gen releases waiting
  rcases lacks r (Keyed.mem_of_find? releases.found) waiting with
    zero | none | ⟨b, onChain, amount, counted, short⟩
  · exact .inl zero
  · refine .inr (.inr fun b onChain => ?_)
    rw [none] at onChain
    cases onChain
  · refine .inr (.inl fun returnable => ?_)
    obtain ⟨st, installed, covers⟩ := returnable.booked b onChain
    obtain ⟨other, same, rfl⟩ := BudgetManager.amount?_eq_some.mp counted
    obtain rfl := Option.some.inj (installed.symm.trans same)
    linarith

namespace ReservationCall

variable {s : Books} {call : ReservationCall} {r : Reservation}

theorem TakesOn.found (takes : call.TakesOn s r) : s.reservations.find? r.id = some r := by
  cases call with
  | admitReservation =>
      have same : r.id = _ := Keyed.key_of_find? takes.1
      rw [same]
      exact takes.1
  | activate id budgetGen now =>
      have activates : (activate id budgetGen now).Activates s r := takes
      exact activates.found
  | _ => exact takes.elim

theorem accepted_of_reserves {gen : BudgetGeneration} (reserves : call.Reserves s r gen) :
    (call.booksPower && Books.accepts (call.exec s)) = true := by
  cases call with
  | reserve id budgetGen now =>
      obtain ⟨left, returned⟩ := exec_of_reserves reserves
      simp [booksPower, Books.accepts, returned, ReservationResult.accepted]
  | _ => exact reserves.elim

theorem accepted_of_activates (activates : call.Activates s r) :
    (call.booksPower && Books.accepts (call.exec s)) = true := by
  cases call with
  | activate id budgetGen now =>
      obtain ⟨found, waiting, alive, current, bookable⟩ := activates
      have activatable : ¬ (r.state ≠ .admitted ∧ r.state ≠ .reserved) := by tauto
      simp [booksPower, Books.accepts, exec_activate found activatable alive current bookable,
        ReservationResult.accepted]
  | _ => exact activates.elim

/-- A reservation that lapses goes no further. -/
theorem not_advanced_of_lapsed {id : ReservationId} {r' : Reservation}
    (found : s.reservations.find? id = some r)
    (lapsed : (call.after s).reservations = s.reservations.setState id .expired)
    (foundAfter : (call.after s).reservations.find? id = some r') :
    ¬ (r'.state = .admitted ∨ r'.state = .active) := by
  have written : (s.write id .lapsed Reservation.lapsed_id s.budgets).reservations.find? id =
      some r.lapsed := Books.find?_write_self found
  rw [lapsed] at foundAfter
  obtain rfl := Option.some.inj (foundAfter.symm.trans written)
  rintro (other | other) <;> cases other

theorem takesOn_of_admitReservation {id : ReservationId} {now : Timestamp} {r' : Reservation}
    (found : s.reservations.find? id = some r) (reserved : r.state = .reserved)
    (foundAfter : ((admitReservation id now).after s).reservations.find? id = some r')
    (advanced : r'.state = .admitted ∨ r'.state = .active) :
    (admitReservation id now).TakesOn s r := by
  have got := ReservationManager.mutableGet_eq_ok.mpr found
  refine ⟨found, reserved, ?_⟩
  cases expired : r.expired now with
  | error fault =>
      have kept : ((admitReservation id now).after s).reservations = s.reservations := by
        simp [after, exec, ReservationManager.admitReservation, got, reserved, expired, bind,
          Except.bind]
      rw [kept, found] at foundAfter
      obtain rfl := Option.some.inj foundAfter
      rw [reserved] at advanced
      rcases advanced with other | other <;> cases other
  | ok late =>
      cases late with
      | false => rfl
      | true =>
          have lapsed : ((admitReservation id now).after s).reservations =
              s.reservations.setState id .expired := by
            simp [after, exec, ReservationManager.admitReservation, got, reserved, expired, bind,
              Except.bind]
          exact absurd advanced (not_advanced_of_lapsed found lapsed foundAfter)

theorem takesOn_of_activate {id : ReservationId} {gen : BudgetGeneration} {now : Timestamp}
    {r' : Reservation} (found : s.reservations.find? id = some r) (reserved : r.state = .reserved)
    (foundAfter : ((activate id gen now).after s).reservations.find? id = some r')
    (advanced : r'.state = .admitted ∨ r'.state = .active) :
    (activate id gen now).TakesOn s r := by
  have got := ReservationManager.mutableGet_eq_ok.mpr found
  have stays : ((activate id gen now).after s).reservations ≠ s.reservations := by
    intro kept
    rw [kept, found] at foundAfter
    obtain rfl := Option.some.inj foundAfter
    rw [reserved] at advanced
    rcases advanced with other | other <;> cases other
  cases expired : r.expired now with
  | error fault =>
      exact absurd (by simp [after, exec, ReservationManager.activate, got, reserved, expired,
        bind, Except.bind]) stays
  | ok late =>
      cases late with
      | true =>
          have lapsed : ((activate id gen now).after s).reservations =
              s.reservations.setState id .expired := by
            simp [after, exec, ReservationManager.activate, got, reserved, expired, bind,
              Except.bind]
          exact absurd advanced (not_advanced_of_lapsed found lapsed foundAfter)
      | false =>
          by_cases current : r.budgetGeneration = gen
          · rcases BudgetManager.book_cases .used false s.budgets r.budget r.requestedPower gen
              with ⟨refused, _⟩ | ⟨_, bookable⟩
            · exact absurd (by simp [after, exec, ReservationManager.activate, got, reserved,
                expired, bind, Except.bind, current, BudgetManager.activate, refused]) stays
            · exact ⟨found, .inl reserved, expired, current, bookable⟩
          · exact absurd (by simp [after, exec, ReservationManager.activate, got, reserved, expired,
              bind, Except.bind, current]) stays

/-- Only a call that takes it on makes a RESERVED reservation ADMITTED or ACTIVE. -/
theorem takesOn_of_advanced {id : ReservationId} {r' : Reservation}
    (found : s.reservations.find? id = some r) (reserved : r.state = .reserved)
    (foundAfter : (call.after s).reservations.find? id = some r')
    (advanced : r'.state = .admitted ∨ r'.state = .active) : call.TakesOn s r := by
  have moved : (call.after s).reservations.find? id ≠ s.reservations.find? id := by
    rw [foundAfter, found]
    intro same
    obtain rfl := Option.some.inj same
    rw [reserved] at advanced
    rcases advanced with other | other <;> cases other
  obtain rfl : id = call.named s := by
    by_contra different
    exact moved ((LifecycleOperation.orderly s.reservations
      (.lifecycle call s.budgets s.ids)).others id different)
  have got := ReservationManager.mutableGet_eq_ok.mpr found
  cases call with
  | admitReservation id now => exact takesOn_of_admitReservation found reserved foundAfter advanced
  | activate id gen now => exact takesOn_of_activate found reserved foundAfter advanced
  | plan =>
      have taken : s.reservations.map.contains s.ids.allocateReservation.1 = true :=
        Option.isSome_iff_exists.mpr ⟨r, found⟩
      exact absurd (by simp [after, exec, ReservationManager.plan, taken]) moved
  | validate id policyGen =>
      change s.reservations.mutableGet id = .ok r at got
      exact absurd (by simp [after, exec, ReservationManager.validate, got, reserved, bind,
        Except.bind]) moved
  | reserve id gen now =>
      change s.reservations.mutableGet id = .ok r at got
      exact absurd (by simp [after, exec, ReservationManager.reserve, got, reserved, bind,
        Except.bind]) moved
  | accountEnergy id energy provenance now =>
      change s.reservations.mutableGet id = .ok r at got
      exact absurd (by simp [after, exec, ReservationManager.accountEnergy, got, reserved, bind,
        Except.bind]) moved
  | release id gen now =>
      rcases release_cases s id gen now with refused | ⟨other, releases, granted⟩
      · exact absurd (by rw [refused]) moved
      · obtain rfl : other = r := Option.some.inj (releases.2.1.symm.trans found)
        obtain rfl : other.id = id := Keyed.key_of_find? found
        rw [granted] at foundAfter
        change (s.write _ _ _ _).reservations.find? other.id = some r' at foundAfter
        rw [Books.find?_write_self releases.found] at foundAfter
        obtain rfl := Option.some.inj foundAfter
        rcases advanced with other | other <;> cases other

end ReservationCall

namespace Placed

variable {k : ℤ} {s : Placements}

theorem sound (placed : Placed k s) : s.books.budgets.Sound s.granted :=
  ⟨placed.forest.acyclic, placed.forest.parentsInstalled, placed.bounded⟩

/-- On the grid a call is recorded as it comes out without rounding. -/
theorem after_lifecycle (placed : Placed k s) (coarse : -28 ≤ k) (finite : k ≤ 970)
    (call : ReservationCall) : s.after (.lifecycle call) = s.record call (call.exec s.books) := by
  have exactly := call.exactly_of_onGrid placed.grid coarse finite
  have same := call.execInDoubles_of_exact placed.forest.acyclic exactly
  rw [Placements.after, same]

theorem of_init {Meets : Placements → ReissueCall → Prop}
    (initial : (reissueRuns (fun power => Binary64.OnGrid k power.value) Meets).init s) :
    Placed k s := by
  obtain ⟨none, forest, ungranted, unbooked⟩ := initial
  have noEntries : s.books.reservations.map.entries = [] := by
    rw [none]
    rfl
  have start : s.books.Initial :=
    ⟨none, forest.acyclic, fun id st found => (unbooked id st found).2⟩
  refine ⟨forest, ⟨fun id st installed => ?_, ?_⟩, fun id st installed => ?_,
    Tallied.of_initial .used start, ?_, ?_, ?_, ?_, ?_, fun b amount counted => ?_⟩
  · obtain ⟨hardMax, reserved, used⟩ := unbooked id st installed
    refine ⟨hardMax, fun counter => ?_⟩
    cases counter with
    | reserved => exact (congrArg Quantity.value reserved).symm ▸ Binary64.onGrid_zero
    | used => exact (congrArg Quantity.value used).symm ▸ Binary64.onGrid_zero
  · simp [noEntries]
  · obtain ⟨_, reserved, used⟩ := unbooked id st installed
    simp [BudgetState.booked, reserved, used, ungranted, st.cfg.hardMax.nonneg]
  · simp [noEntries]
  · simp [noEntries]
  · simp [noEntries]
  · simp [noEntries]
  · simp [noEntries]
  · simpa [Books.outstanding, Keyed.total, noEntries] using amount.nonneg

/-! ## A lifecycle call -/

/-- A call keeps the bound, with one more tolerance for a booking it makes. -/
theorem sound_lifecycle (placed : Placed k s) (call : ReservationCall) :
    (call.after s.books).budgets.Sound (s.record call (call.exec s.books)).granted := by
  have sound := placed.sound
  have effect := call.effect s.books
  generalize after : call.after s.books = s' at effect
  have more : s.granted ≤ (s.record call (call.exec s.books)).granted := Nat.le_add_right _ _
  cases effect with
  | idle _ budgets =>
      rw [budgets]
      exact sound.mono more
  | plan | quiet | lapse => exact sound.mono more
  | reserve reserves =>
      have one : (s.record call (call.exec s.books)).granted = s.granted + 1 := by
        simp [Placements.record, ReservationCall.accepted_of_reserves reserves]
      rw [one]
      exact BudgetManager.sound_book sound .reserved reserves.bookable
  | activate activates =>
      have one : (s.record call (call.exec s.books)).granted = s.granted + 1 := by
        simp [Placements.record, ReservationCall.accepted_of_activates activates]
      obtain ⟨gen, bookable⟩ := activates.bookable
      rw [one]
      exact BudgetManager.sound_book sound .used bookable
  | @release r gen now releases =>
      have first : (s.books.unreserved r).Sound s.granted :=
        BudgetManager.sound_unbook sound .reserved r.budget r.reservedPower
      change (s.books.returned r gen).Sound _
      rcases s.books.returned_cases r gen with ⟨once, _⟩ | ⟨twice, _⟩
      · rw [once]
        exact first.mono more
      · rw [twice, ← s.books.chain_unreserved r]
        exact (BudgetManager.sound_unbook first .used r.budget r.reservedPower).mono more

/-- The power of a reservation that holds is on every budget of its chain. -/
theorem reservedPower_le (placed : Placed k s) {r : Reservation}
    (found : s.books.reservations.find? r.id = some r) (holds : r.state.holds = true)
    {b : BudgetId} (onChain : b ∈ s.books.budgets.chain r.budget) {amount : Watts}
    (counted : s.books.budgets.amount? .reserved b = some amount) :
    r.reservedPower.value ≤ amount.value := by
  have counts : Counter.reserved.counts r.state = true := holds
  exact (Books.reservedPower_le_outstanding found counts onChain).trans
    (placed.covered b amount counted)

theorem covered_lifecycle (placed : Placed k s) (call : ReservationCall) {b : BudgetId}
    {after : Watts} (counted : (call.after s.books).budgets.amount? .reserved b = some after) :
    (call.after s.books).outstanding .reserved b ≤ after.value := by
  obtain ⟨amount, before, left, value, leaves⟩ := (call.effect s.books).reserved_moved
    placed.forest.acyclic placed.tallied.regular (fun r found holds c onChain amount before =>
      placed.reservedPower_le found holds onChain before) counted
  have covered := placed.covered b amount before
  have nonneg : 0 ≤ left := by
    rcases leaves with zero | ⟨r, _, share⟩
    · exact zero.ge
    · rw [share]
      exact Reservation.share_nonneg
  linarith

/-- The reservations that hold power stay installed and in place, also those the
call reserves. -/
theorem held_lifecycle (placed : Placed k s) (call : ReservationCall) {r' : Reservation}
    (member : r' ∈ (call.after s.books).reservations.map.entries)
    (holds : r'.state.holds = true) :
    s.books.budgets.has r'.budget = true ∧ (0 < r'.reservedPower.value →
      s.books.budgets.chain r'.budget = s.placedAfter (call.after s.books) r'.id) := by
  have foundAfter : (call.after s.books).reservations.find? r'.id = some r' :=
    Keyed.find?_of_mem member
  obtain ⟨r, found, budget, held⟩ := (call.effect s.books).held r' member holds
  have beforeMember := Keyed.mem_of_find? found
  rw [budget, Placements.placedAfter, found, foundAfter]
  rcases held with ⟨held, power, _⟩ | ⟨early, reserved, st, installed⟩
  · have far : ¬ (r.state.progress < 2 ∧ r'.state = .reserved) := by
      rintro ⟨short, _⟩
      cases state : r.state <;> simp [state, ReservationState.holds] at held <;>
        simp [state, ReservationState.progress] at short
    refine ⟨placed.installed r beforeMember held, fun positive => ?_⟩
    simp only [if_neg far]
    rw [placed.inPlace r beforeMember held (power ▸ positive), Keyed.key_of_find? found]
  · have short : r.state.progress < 2 := by
      rcases early with planned | validated
      · simp [planned, ReservationState.progress]
      · simp [validated, ReservationState.progress]
    refine ⟨BudgetManager.has_iff.mpr ⟨st, installed⟩, fun _ => ?_⟩
    simp only [if_pos (And.intro short reserved)]

/-- A reservation is taken on only under a generation `release` accepts. -/
theorem known_lifecycle (placed : Placed k s) {call : ReservationCall}
    (meets : call.KeepsPlaces s.books) {r' : Reservation}
    (member : r' ∈ (call.after s.books).reservations.map.entries)
    (advanced : r'.state = .admitted ∨ r'.state = .active) :
    r'.budgetGeneration.isNull = false := by
  have foundAfter : (call.after s.books).reservations.find? r'.id = some r' :=
    Keyed.find?_of_mem member
  have holds : r'.state.holds = true := by
    rcases advanced with state | state <;> rw [state] <;> rfl
  obtain ⟨r, found, _, held⟩ := (call.effect s.books).held r' member holds
  rcases held with ⟨held, _, generation⟩ | ⟨_, reserved, _⟩
  · rw [generation]
    by_cases waits : r.state = .reserved
    · exact meets.known r (ReservationCall.takesOn_of_advanced found waits foundAfter advanced)
    · refine placed.known r (Keyed.mem_of_find? found) ?_
      cases state : r.state <;> simp_all [ReservationState.holds]
  · rw [reserved] at advanced
    rcases advanced with other | other <;> cases other

/-- Usage stays where the activation put it. -/
theorem usedInPlace_lifecycle (placed : Placed k s) (call : ReservationCall) {r' : Reservation}
    (member : r' ∈ (call.after s.books).reservations.map.entries) (active : r'.state = .active)
    (positive : 0 < r'.reservedPower.value) :
    s.books.budgets.chain r'.budget = s.usedOnAfter (call.after s.books) r'.id := by
  have foundAfter : (call.after s.books).reservations.find? r'.id = some r' :=
    Keyed.find?_of_mem member
  have holds : r'.state.holds = true := by
    rw [active]
    rfl
  obtain ⟨r, found, budget, held⟩ := (call.effect s.books).held r' member holds
  rcases held with ⟨_, power, _⟩ | ⟨_, reserved, _⟩
  · rw [budget, Placements.usedOnAfter, found, foundAfter]
    by_cases before : r.state = .active
    · have again : ¬ (r.state ≠ .active ∧ r'.state = .active) := fun turned => turned.1 before
      simp only [if_neg again]
      rw [placed.usedInPlace r (Keyed.mem_of_find? found) before (power ▸ positive),
        Keyed.key_of_find? found]
    · simp only [if_pos (And.intro before active)]
  · rw [active] at reserved
    cases reserved

/-- A budget that was counted still is. -/
theorem counted_lifecycle {call : ReservationCall} {s' : Books}
    (effect : Effect s.books call s') {b : BudgetId} {amount : Watts}
    (counted : s.books.budgets.amount? .used b = some amount) :
    ∃ amount', s'.budgets.amount? .used b = some amount' := by
  obtain ⟨st, found, _⟩ := BudgetManager.amount?_eq_some.mp counted
  obtain ⟨st', found'⟩ := BudgetManager.has_iff.mp
    ((effect.has b).trans (BudgetManager.has_iff.mpr ⟨st, found⟩))
  exact ⟨_, BudgetManager.amount?_eq_some.mpr ⟨st', found', rfl⟩⟩

/-- A reservation other than the activated one still lacks usage, with what was added. -/
theorem apart_activate (placed : Placed k s) {call : ReservationCall}
    (meets : call.KeepsPlaces s.books) {r : Reservation} {now : Timestamp}
    (activates : call.Activates s.books r) :
    let s' := s.books.write r.id (.activeFrom now) (Reservation.activeFrom_id now)
      (s.books.budgets.adjustChain .used r.requestedPower.value (s.books.budgets.chain r.budget))
    Effect s.books call s' → ∀ other ∈ s'.reservations.map.entries,
      other.state = .reserved ∨ other.state = .admitted →
        s'.budgets.LacksUsage (fun _ => 0) other.budget other.reservedPower := by
  intro s' effect other member waiting
  have found := Keyed.find?_of_mem member
  change s'.reservations.find? other.id = some other at found
  by_cases same : other.id = r.id
  · rw [same, Books.find?_write_self activates.found] at found
    obtain rfl := Option.some.inj found
    rcases waiting with state | state <;> cases state
  · rw [Books.find?_write_of_ne same] at found
    have lacks := meets.activates r activates other (Keyed.mem_of_find? found) same waiting
    refine BudgetManager.lacksUsage_of_le
      (BudgetManager.chain_congr effect.parentOf other.budget) (fun b _ amount counted => ?_) lacks
    obtain ⟨amount', counted'⟩ := counted_lifecycle effect counted
    obtain ⟨old, original, value⟩ := BudgetManager.value_of_adjustChain placed.forest.acyclic
      (s.books.budgets.unclamped_book .used r.budget r.requestedPower) counted'
    obtain rfl := Option.some.inj (original.symm.trans counted)
    exact ⟨amount', counted', by linarith⟩

/-- No waiting reservation comes to lie on a chain whose usage covers its power. -/
theorem apart_lifecycle (placed : Placed k s) {call : ReservationCall}
    (meets : call.KeepsPlaces s.books) : ∀ r' ∈ (call.after s.books).reservations.map.entries,
      r'.state = .reserved ∨ r'.state = .admitted →
        (call.after s.books).budgets.LacksUsage (fun _ => 0) r'.budget r'.reservedPower := by
  have leaves : call.LeavesUsage s.books := ReservationCall.leavesUsage_of_lacks placed.apart
  have effect := call.effect s.books
  generalize call.after s.books = s' at effect
  have chain := BudgetManager.chain_congr effect.parentOf
  have acted := effect
  -- What waited before, where the usage on its chain has not grown.
  have before : (∀ b amount, s.books.budgets.amount? .used b = some amount →
      ∃ amount', s'.budgets.amount? .used b = some amount' ∧ amount'.value ≤ amount.value) →
      ∀ r ∈ s.books.reservations.map.entries, r.state = .reserved ∨ r.state = .admitted →
        s'.budgets.LacksUsage (fun _ => 0) r.budget r.reservedPower :=
    fun shrinks r member waiting =>
      BudgetManager.lacksUsage_of_shrinks (chain r.budget) shrinks (placed.apart r member waiting)
  cases effect with
  | idle reservations budgets =>
      rw [reservations]
      exact before fun b amount counted => ⟨amount, budgets ▸ counted, le_rfl⟩
  | plan fresh planned unreserved asked =>
      apply Keyed.forall_emplace (before fun b amount counted => ⟨amount, counted, le_rfl⟩)
      rw [planned]
      rintro (other | other) <;> cases other
  | @quiet r f keeps found edge same =>
      apply Books.forall_write (before fun b amount counted => ⟨amount, counted, le_rfl⟩) found
      intro waiting
      rw [same.budget, same.reservedPower]
      exact placed.apart r (Keyed.mem_of_find? found) (edge.waiting waiting)
  | @lapse r lapses =>
      apply Books.forall_write (before fun b amount counted => ⟨amount, counted, le_rfl⟩)
        lapses.found
      rintro (other | other) <;> cases other
  | @reserve r gen reserves =>
      have same : ∀ b amount, s.books.budgets.amount? .used b = some amount →
          ∃ amount', (s.books.budgets.adjustChain .reserved r.requestedPower.value
            (s.books.budgets.chain r.budget)).amount? .used b = some amount' ∧
              amount'.value ≤ amount.value := by
        intro b amount counted
        refine ⟨amount, ?_, le_rfl⟩
        rw [BudgetManager.amount?_adjustChain_other (by decide)]
        exact counted
      apply Books.forall_write (before same) reserves.found
      intro _
      exact BudgetManager.lacksUsage_of_shrinks (chain r.budget) same
        (meets.reserves r gen reserves)
  | @activate r now activates => exact placed.apart_activate meets activates acted
  | @release r gen now releases =>
      apply Books.forall_write (before fun b amount counted => ?_) releases.found
      · rintro (other | other) <;> cases other
      · obtain ⟨amount', counted'⟩ := counted_lifecycle acted counted
        obtain ⟨old, original, value⟩ :=
          placed.tallied.used_of_returned releases leaves counted'
        obtain rfl := Option.some.inj (original.symm.trans counted)
        have nonneg : 0 ≤ r.share s.books.budgets .used b := Reservation.share_nonneg
        exact ⟨amount', counted', by linarith⟩

theorem lifecycle_step (placed : Placed k s) (coarse : -28 ≤ k) (finite : k ≤ 970)
    {call : ReservationCall} (asks : ∀ power ∈ call.asks, Binary64.OnGrid k power.value)
    (meets : call.KeepsPlaces s.books) : Placed k (s.after (.lifecycle call)) := by
  rw [placed.after_lifecycle coarse finite]
  have books : (s.record call (call.exec s.books)).books = call.after s.books := by
    unfold Placements.record Books.leftBy ReservationCall.after
    cases call.exec s.books with
    | error fault => rfl
    | ok outcome => rfl
  have effect := call.effect s.books
  have sound := placed.sound_lifecycle call
  have placedAt : (s.record call (call.exec s.books)).placed =
      s.placedAfter (call.after s.books) := congrArg s.placedAfter books
  have usedAt : (s.record call (call.exec s.books)).usedOn =
      s.usedOnAfter (call.after s.books) := congrArg s.usedOnAfter books
  refine ⟨?_, ?_, ?_, ?_, ?_, ?_, ?_, ?_, ?_, ?_⟩
  all_goals rw [books]
  · exact sound.forest
  · exact Books.onGrid_of_effect placed.grid placed.forest.acyclic coarse finite effect asks
  · exact sound.bounded
  · exact placed.tallied.used_step effect (ReservationCall.leavesUsage_of_lacks placed.apart)
  · intro r' member holds
    exact (effect.has _).trans (placed.held_lifecycle call member holds).1
  · exact fun r' member advanced => placed.known_lifecycle meets member advanced
  · intro r' member holds positive
    rw [placedAt]
    exact (BudgetManager.chain_congr effect.parentOf _).trans
      ((placed.held_lifecycle call member holds).2 positive)
  · intro r' member active positive
    rw [usedAt]
    exact (BudgetManager.chain_congr effect.parentOf _).trans
      (placed.usedInPlace_lifecycle call member active positive)
  · exact placed.apart_lifecycle meets
  · exact fun b after counted => placed.covered_lifecycle call counted

/-! ## A re-issue -/

theorem reissue_step (placed : Placed k s) {b : PowerBudget}
    (keeps : (ReissueCall.reissue b).KeepsForest s) (onGrid : Binary64.OnGrid k b.hardMax.value)
    (meets : (ReissueCall.reissue b).KeepsPlaces s) : Placed k (s.after (.reissue b)) := by
  obtain ⟨present, newer, supports⟩ := keeps
  obtain ⟨room, inPlace⟩ := meets
  have granted : (s.books.budgets.install b).2 = true :=
    BudgetManager.install_granted_iff.mpr newer
  have forest : (s.books.budgets.install b).1.Forest :=
    (BudgetManager.forest_install_iff placed.forest granted).mpr supports
  have sameChain : ∀ r ∈ s.books.reservations.map.entries, r.state.holds = true →
      0 < r.reservedPower.value →
        (s.books.budgets.install b).1.chain r.budget = s.books.budgets.chain r.budget := by
    intro r member holds positive
    apply BudgetManager.chain_install granted
    rcases inPlace with sameParent | unmet
    · exact .inl sameParent
    · exact .inr (unmet r member holds positive)
  have sameShares : ∀ counter id, (s.after (.reissue b)).books.outstanding counter id =
      s.books.outstanding counter id := by
    intro counter id
    refine Keyed.total_congr fun r member => ?_
    by_cases counts : counter.counts r.state = true
    · rcases r.reservedPower.nonneg.eq_or_lt with zero | positive
      · rw [Reservation.share_of_zero zero.symm, Reservation.share_of_zero zero.symm]
      · have kept := sameChain r member (Counter.holds_of_counts counts) positive
        unfold Reservation.share
        rw [← kept]
        rfl
    · have uncounted : counter.counts r.state = false := Bool.not_eq_true _ ▸ counts
      rw [Reservation.share_of_uncounted uncounted, Reservation.share_of_uncounted uncounted]
  refine ⟨forest, ⟨?_, placed.grid.powers⟩, ?_, ⟨forest.acyclic, placed.tallied.regular, ?_⟩,
    ?_, placed.known, ?_, ?_, ?_, ?_⟩
  · intro id st installed
    change (s.books.budgets.install b).1.state? id = some st at installed
    rw [BudgetManager.state?_install granted] at installed
    split at installed
    · obtain ⟨old, found⟩ := BudgetManager.has_iff.mp present
      obtain rfl := Option.some.inj installed
      rw [BudgetManager.reserved, BudgetManager.used, found]
      refine ⟨onGrid, fun counter => ?_⟩
      cases counter with
      | reserved => exact (placed.grid.budgets b.id old found).counters .reserved
      | used => exact (placed.grid.budgets b.id old found).counters .used
    · exact placed.grid.budgets id st installed
  · intro id st installed
    change (s.books.budgets.install b).1.state? id = some st at installed
    rw [BudgetManager.state?_install granted] at installed
    split at installed
    · obtain ⟨old, found⟩ := BudgetManager.has_iff.mp present
      have fits := room old found
      obtain rfl := Option.some.inj installed
      rw [BudgetManager.reserved, BudgetManager.used, found]
      exact fits
    · exact placed.bounded id st installed
  · intro id amount counted
    change (s.books.budgets.install b).1.amount? .used id = some amount at counted
    rw [BudgetManager.amount?_reissue present granted] at counted
    rw [sameShares]
    exact placed.tallied.balanced id amount counted
  · intro r member holds
    exact (BudgetManager.has_install granted).mpr (.inr (placed.installed r member holds))
  · intro r member holds positive
    exact (sameChain r member holds positive).trans (placed.inPlace r member holds positive)
  · intro r member active positive
    have holds : r.state.holds = true := by
      rw [active]
      rfl
    exact (sameChain r member holds positive).trans (placed.usedInPlace r member active positive)
  · intro r member waiting
    rcases r.reservedPower.nonneg.eq_or_lt with zero | positive
    · exact .inl zero.symm
    · have kept := sameChain r member (ReservationState.holds_of_waiting waiting) positive
      refine BudgetManager.lacksUsage_of_le kept (fun id _ amount counted => ⟨amount, ?_, le_rfl⟩)
        (placed.apart r member waiting)
      exact (BudgetManager.amount?_reissue present granted .used id).trans counted
  · intro id amount counted
    change (s.books.budgets.install b).1.amount? .reserved id = some amount at counted
    rw [BudgetManager.amount?_reissue present granted] at counted
    rw [sameShares]
    exact placed.covered id amount counted

theorem of_reachable (coarse : -28 ≤ k) (finite : k ≤ 970)
    (reached : (reissueRuns (fun power => Binary64.OnGrid k power.value)
      ReissueCall.KeepsPlaces).Reachable s) : Placed k s := by
  refine reached.invariant (Placed k) (fun _ => of_init) ?_
  rintro s call _ placed ⟨keeps, powers, meets, rfl⟩
  cases call with
  | lifecycle call => exact placed.lifecycle_step coarse finite powers meets
  | reissue b => exact placed.reissue_step keeps (powers _ rfl) meets

/-! ## Giving back -/

/-- What is held can be returned under the current generation. -/
theorem returnable (placed : Placed k s) {r : Reservation}
    (found : s.books.reservations.find? r.id = some r) (holds : r.state.holds = true)
    {st : BudgetState} (installed : s.books.budgets.state? r.budget = some st) :
    s.books.budgets.Returnable .reserved r.budget r.reservedPower st.cfg.generation := by
  have present := placed.installed r (Keyed.mem_of_find? found) holds
  refine ⟨⟨st, installed, rfl⟩, fun b onChain => ?_⟩
  obtain ⟨other, foundOn⟩ :=
    BudgetManager.has_iff.mp (placed.forest.has_of_mem_chain present onChain)
  have counted : s.books.budgets.amount? .reserved b = some (other.get .reserved) :=
    BudgetManager.amount?_eq_some.mpr ⟨other, foundOn, rfl⟩
  exact ⟨other, foundOn, le_add_of_le_of_nonneg
    (placed.reservedPower_le found holds onChain counted) slack_nonneg⟩

/-- The share of a reservation that holds power is where it was put. -/
theorem share_eq (placed : Placed k s) {r : Reservation}
    (found : s.books.reservations.find? r.id = some r) (holds : r.state.holds = true)
    (b : BudgetId) : r.share s.books.budgets .reserved b =
      if b ∈ s.placed r.id then r.reservedPower.value else 0 := by
  have counts : Counter.reserved.counts r.state = true := holds
  rw [Reservation.share_of_counted counts rfl rfl]
  rcases r.reservedPower.nonneg.eq_or_lt with zero | positive
  · simp [← zero]
  · rw [placed.inPlace r (Keyed.mem_of_find? found) holds positive]

/-- The usage of an ACTIVE one too; a waiting one has none. -/
theorem usedShare_eq (placed : Placed k s) {r : Reservation}
    (found : s.books.reservations.find? r.id = some r) (b : BudgetId) :
    r.share s.books.budgets .used b =
      if r.state = .active ∧ b ∈ s.usedOn r.id then r.reservedPower.value else 0 := by
  by_cases active : r.state = .active
  · have counts : Counter.used.counts r.state = true := by
      rw [active]
      rfl
    rw [Reservation.share_of_counted counts rfl rfl]
    rcases r.reservedPower.nonneg.eq_or_lt with zero | positive
    · simp [← zero]
    · rw [placed.usedInPlace r (Keyed.mem_of_find? found) active positive]
      simp only [active, true_and]
  · have unused : Counter.used.counts r.state = false := by
      cases state : r.state with
      | active => exact absurd state active
      | _ => rfl
    rw [Reservation.share_of_uncounted unused, if_neg fun both => active both.1]

/-- Where a return moves a counter by the reservation's share, so it does for a budget that
is not installed, which is on no chain. -/
theorem taken_of_moved (placed : Placed k s) {r : Reservation} {gen : BudgetGeneration}
    (member : r ∈ s.books.reservations.map.entries) (holds : r.state.holds = true)
    {counter : Counter} {b : BudgetId}
    (moved : ∀ after, (s.books.returned r gen).amount? counter b = some after →
      ∃ amount, s.books.budgets.amount? counter b = some amount ∧
        after.value = amount.value - r.share s.books.budgets counter b) :
    (((s.books.returned r gen).amount? counter b).getD Watts.zero).value =
      ((s.books.budgets.amount? counter b).getD Watts.zero).value -
        r.share s.books.budgets counter b := by
  cases counted : (s.books.returned r gen).amount? counter b with
  | some after =>
      obtain ⟨amount, before, value⟩ := moved after counted
      rw [before]
      exact value
  | none =>
      have missing : s.books.budgets.state? b = none := by
        have same := s.books.cfg_returned r gen b
        rw [Option.map_eq_none_iff.mp counted] at same
        exact Option.map_eq_none_iff.mp same.symm
      have offChain : b ∉ s.books.budgets.chain r.budget := by
        intro onChain
        have present := placed.forest.has_of_mem_chain (placed.installed r member holds) onChain
        obtain ⟨other, foundOn⟩ := BudgetManager.has_iff.mp present
        rw [missing] at foundOn
        cases foundOn
      have uncounted : s.books.budgets.amount? counter b = none := by
        rw [BudgetManager.amount?, missing]
        rfl
      rw [uncounted]
      simp [Reservation.share, offChain]

theorem givesBack (placed : Placed k s) (coarse : -28 ≤ k) (finite : k ≤ 970) {r : Reservation}
    (found : s.books.reservations.find? r.id = some r) (holds : r.state.holds = true)
    {st : BudgetState} (installed : s.books.budgets.state? r.budget = some st)
    (now : Timestamp) : s.GivesBack r st.cfg.generation now := by
  have member := Keyed.mem_of_find? found
  have returnable := placed.returnable found holds installed
  have ended : r.state ≠ .released ∧ r.state ≠ .expired := by
    cases state : r.state <;> simp [state, ReservationState.holds] at holds ⊢
  have known : ¬ (r.budgetGeneration.isNull ∧ (r.state = .admitted ∨ r.state = .active)) := by
    rintro ⟨null, advanced⟩
    rw [placed.known r member advanced] at null
    cases null
  have pending : ¬ (r.state = .released ∨ r.state = .expired ∨
      (r.budgetGeneration.isNull ∧ (r.state = .admitted ∨ r.state = .active))) := by
    tauto
  have returned : ReservationCall.exec s.books (.release r.id st.cfg.generation now) = _ :=
    ReservationCall.exec_release found pending returnable
  have exactly := (ReservationCall.release r.id st.cfg.generation now).exactly_of_onGrid
    placed.grid coarse finite
  rw [← ReservationCall.execInDoubles_of_exact placed.forest.acyclic exactly] at returned
  have releases : (ReservationCall.release r.id st.cfg.generation now).Releases s.books r
      st.cfg.generation := ⟨rfl, found, ended.1, ended.2, returnable⟩
  refine ⟨_, _, returned, rfl, fun b => ⟨?_, ?_⟩⟩
  · rw [← placed.share_eq found holds, BudgetManager.reserved_eq, BudgetManager.reserved_eq]
    refine placed.taken_of_moved member holds fun after counted => ?_
    exact s.books.reserved_of_returned placed.forest.acyclic (placed.tallied.regular r member) ended
      (fun holds c onChain amount before => placed.reservedPower_le found holds onChain before)
      counted
  · rw [← placed.usedShare_eq found, BudgetManager.used_eq, BudgetManager.used_eq]
    refine placed.taken_of_moved member holds fun after counted => ?_
    exact placed.tallied.used_of_returned releases
      (ReservationCall.leavesUsage_of_lacks placed.apart) counted

end Placed

/-- In a run on a grid whose steps all meet `KeepsPlaces`, after every step no budget is
booked beyond its maximum, up to the tolerances, and every reservation that holds power can
be released under its budget's current generation, which takes its power off exactly the
budgets it was put on. -/
theorem sound_of_keepsPlaces {k : ℤ} {s : Placements} (coarse : -28 ≤ k) (finite : k ≤ 970)
    (reached : (reissueRuns (fun power => Binary64.OnGrid k power.value)
      ReissueCall.KeepsPlaces).Reachable s) : s.Sound := by
  have placed := Placed.of_reachable coarse finite reached
  refine ⟨placed.bounded, fun r found holds => ?_⟩
  obtain ⟨st, installed⟩ :=
    BudgetManager.has_iff.mp (placed.installed r (Keyed.mem_of_find? found) holds)
  exact ⟨st, installed, placed.givesBack coarse finite found holds installed⟩

/-! Re-issues of the accelerator's budget while 150 W are reserved on it. -/

def opening : Placements := ⟨opened, 0, fun _ => [], fun _ => []⟩

/-- The accelerator's budget with another maximum under another parent. -/
def reissuedGpu (hardMax : ℚ) (parent : Option BudgetId) : ReissueCall :=
  .reissue { BudgetManager.gpuBudget with
    generation := ⟨2⟩, hardMax := Watts.clamped hardMax, parent := parent }

def reservedOnGpu : Placements :=
  (opening.after (.lifecycle (planOnGpu 150))).after
    (.lifecycle (.reserve ⟨1⟩ .first planTime))

theorem twoLevels_forest : BudgetManager.twoLevels.Forest :=
  (BudgetManager.sound_of_reachable BudgetManager.twoLevels_reachable).forest

theorem opening_initial {Power : Watts → Prop} {Meets : Placements → ReissueCall → Prop}
    (node : Power (Watts.clamped 300)) (gpu : Power (Watts.clamped 200)) :
    (reissueRuns Power Meets).init opening := by
  refine ⟨opened_initial.none, twoLevels_forest, rfl, fun id st installed => ?_⟩
  have maxima : ∀ st ∈ BudgetManager.twoLevels.states.entries,
      st.cfg.hardMax = Watts.clamped 300 ∨ st.cfg.hardMax = Watts.clamped 200 := by decide +kernel
  refine ⟨?_, opened_initial.unbooked id st installed⟩
  rcases maxima st (Keyed.mem_of_find? installed) with is300 | is200
  · exact is300 ▸ node
  · exact is200 ▸ gpu

/-- The forest supports the new generation under the node, and as a root. -/
theorem reissuedGpu_keepsForest {s : Placements} (hardMax : ℚ) {parent : Option BudgetId}
    (known : parent = some ⟨1⟩ ∨ parent = none)
    (budgets : s.books.budgets.has ⟨1⟩ = true ∧ s.books.budgets.has ⟨2⟩ = true ∧
      s.books.budgets.parentOf ⟨1⟩ = none)
    (current : ∀ st ∈ s.books.budgets.states.entries, st.cfg.generation = .first) :
    (reissuedGpu hardMax parent).KeepsForest s := by
  obtain ⟨node, present, root⟩ := budgets
  refine ⟨present, ?_, ?_⟩
  · rintro ⟨st, installed, older⟩
    have newer : ¬ (⟨2⟩ : BudgetGeneration) ≤ .first := by decide
    rw [current st (Keyed.mem_of_find? installed)] at older
    exact newer older
  · rintro p named valid
    change parent = some p at named
    rcases known with rfl | rfl
    · obtain rfl := Option.some.inj named
      have different : (⟨1⟩ : BudgetId) ≠ ⟨2⟩ := by decide
      refine ⟨node, fun inside => ?_⟩
      rcases inside.cases_head with same | ⟨up, edge, _⟩
      · exact different same
      · rw [root] at edge
        cases edge
    · cases named

/-- 50 W are reserved and activated, and the budget is re-issued with 120 W under the same
parent. -/
theorem sound_of_keepsPlaces_lowered :
    ((((opening.after (.lifecycle (planOnGpu 50))).after
      (.lifecycle (.reserve ⟨1⟩ .first planTime))).after
        (.lifecycle (.activate ⟨1⟩ .first planTime))).after
          (reissuedGpu 120 (some ⟨1⟩))).Sound := by
  let planned := opening.after (.lifecycle (planOnGpu 50))
  let reserved := planned.after (.lifecycle (.reserve ⟨1⟩ .first planTime))
  let active := reserved.after (.lifecycle (.activate ⟨1⟩ .first planTime))
  let runs := reissueRuns (fun power => Binary64.OnGrid 0 power.value) ReissueCall.KeepsPlaces
  have plans : (planOnGpu 50).KeepsPlaces opening.books :=
    ⟨fun _ takes => takes.elim, fun _ _ reserves => reserves.elim,
      fun _ activates => activates.elim⟩
  have asked : ∀ power ∈ (planOnGpu 50).asks, Binary64.OnGrid 0 power.value := by decide +kernel
  have start : runs.init opening := by
    apply opening_initial
    all_goals decide +kernel
  have first : runs.Reachable planned := reachable_lifecycle (.start start) asked plans
  have one : (∀ r ∈ planned.books.reservations.map.entries,
        r.budget = ⟨2⟩ ∧ r.requestedPower = Watts.clamped 50) ∧
      ∀ r ∈ reserved.books.reservations.map.entries,
        r.id = ⟨1⟩ ∧ r.budgetGeneration.isNull = false := by
    constructor <;> decide +kernel
  have reserves : (ReservationCall.reserve ⟨1⟩ .first planTime).KeepsPlaces planned.books := by
    refine ⟨fun _ takes => takes.elim, fun r gen reserves => ?_, fun _ activates => activates.elim⟩
    obtain ⟨budget, power⟩ := one.1 r (Keyed.mem_of_find? reserves.found)
    rw [budget, power]
    refine .inr (.inr ⟨⟨2⟩, ?_, Watts.zero, ?_, ?_⟩)
    all_goals decide +kernel
  have second : runs.Reachable reserved := reachable_lifecycle first (by decide +kernel) reserves
  have activates : (ReservationCall.activate ⟨1⟩ .first planTime).KeepsPlaces reserved.books := by
    refine ⟨fun r takes => ?_, fun _ _ reserves => reserves.elim,
      fun r activates other member apart => ?_⟩
    · exact (one.2 r (Keyed.mem_of_find? takes.found)).2
    · have same := (one.2 other member).1.trans
        (one.2 r (Keyed.mem_of_find? activates.found)).1.symm
      exact absurd same apart
  have third : runs.Reachable active := reachable_lifecycle second (by decide +kernel) activates
  have keeps : (reissuedGpu 120 (some ⟨1⟩)).KeepsForest active := by
    apply reissuedGpu_keepsForest 120 (.inl rfl)
    all_goals decide +kernel
  have booked : ∀ st ∈ active.books.budgets.states.entries, st.booked ≤ 120 := by decide +kernel
  have lowers : (reissuedGpu 120 (some ⟨1⟩)).KeepsPlaces active := by
    refine ⟨fun st installed => ?_, .inl ?_⟩
    · have tolerances : 0 ≤ (active.granted : ℚ) * slack :=
        mul_nonneg (Nat.cast_nonneg _) slack_nonneg
      have fits : (120 : ℚ) ≤ (Watts.clamped 120).value := by norm_num
      exact (booked st (Keyed.mem_of_find? installed)).trans (by linarith)
    · decide +kernel
  have onGrid : Binary64.OnGrid 0 (Watts.clamped 120).value := by decide +kernel
  refine sound_of_keepsPlaces (by norm_num) (by norm_num)
    (.step _ third ⟨keeps, fun power brought => ?_, lowers, rfl⟩)
  obtain rfl := Option.some.inj brought
  exact onGrid

/-- With 100 W the budget is booked beyond its maximum, and without its parent
the release leaves the node's 150 W booked. -/
theorem reissue_breaks_accounting :
    ¬ (reservedOnGpu.after (reissuedGpu 100 (some ⟨1⟩))).Sound ∧
      ¬ (reservedOnGpu.after (reissuedGpu 200 none)).Sound ∧
      ¬ ∀ s, (reissueRuns (fun _ => True) fun _ _ => True).Reachable s → s.Sound := by
  have lowered : ¬ (reservedOnGpu.after (reissuedGpu 100 (some ⟨1⟩))).Sound := by
    intro sound
    have gpu : ((reservedOnGpu.after (reissuedGpu 100 (some ⟨1⟩))).books.budgets.state?
        ⟨2⟩).map (fun st => (st.booked, st.cfg.hardMax.value)) = some (150, 100) := by
      decide +kernel
    have granted : (reservedOnGpu.after (reissuedGpu 100 (some ⟨1⟩))).granted = 1 := by
      decide +kernel
    obtain ⟨st, installed, values⟩ := Option.map_eq_some_iff.mp gpu
    obtain ⟨booked, hardMax⟩ := Prod.mk.inj values
    have bound := sound.bounded ⟨2⟩ st installed
    rw [BudgetState.booked] at booked
    rw [booked, hardMax, granted] at bound
    norm_num at bound
  have moved : ¬ (reservedOnGpu.after (reissuedGpu 200 none)).Sound := by
    intro sound
    let s := reservedOnGpu.after (reissuedGpu 200 none)
    have found : s.books.reservations.find? (firstReservation s.books).id =
        some (firstReservation s.books) := by decide +kernel
    have holds : (firstReservation s.books).state.holds = true := by decide +kernel
    obtain ⟨st, installed, gives⟩ := sound.releasable _ found holds
    have current : ∀ st ∈ s.books.budgets.states.entries,
        st.cfg.id = (firstReservation s.books).budget → st.cfg.generation = ⟨2⟩ := by
      decide +kernel
    have generation := current st (Keyed.mem_of_find? installed)
      (BudgetManager.id_of_state? installed)
    obtain ⟨result, s', returned, _, taken⟩ := gives (seconds 2)
    have after : s' = (ReservationCall.release (firstReservation s.books).id ⟨2⟩
        (seconds 2)).afterInDoubles s.books := by
      rw [ReservationCall.afterInDoubles, ← generation, returned]
    have node := (taken ⟨1⟩).1
    rw [after] at node
    have left : (((ReservationCall.release (firstReservation s.books).id ⟨2⟩
        (seconds 2)).afterInDoubles s.books).budgets.reserved ⟨1⟩).value = 150 := by
      decide +kernel
    have put : (s.books.budgets.reserved ⟨1⟩).value -
        (if ⟨1⟩ ∈ s.placed (firstReservation s.books).id
          then (firstReservation s.books).reservedPower.value else 0) = 0 := by decide +kernel
    rw [left, put] at node
    norm_num at node
  refine ⟨lowered, moved, fun always => lowered (always _ ?_)⟩
  have start : (reissueRuns (fun _ => True) fun _ _ => True).init opening :=
    opening_initial trivial trivial
  have reserved : (reissueRuns (fun _ => True) fun _ _ => True).Reachable reservedOnGpu :=
    reachable_lifecycle (reachable_lifecycle (.start start) (fun _ _ => trivial) trivial)
      (fun _ _ => trivial) trivial
  have keeps : (reissuedGpu 100 (some ⟨1⟩)).KeepsForest reservedOnGpu := by
    apply reissuedGpu_keepsForest 100 (.inl rfl)
    all_goals decide +kernel
  exact .step _ reserved ⟨keeps, fun _ _ => trivial, trivial, rfl⟩

end PowerGovernor
