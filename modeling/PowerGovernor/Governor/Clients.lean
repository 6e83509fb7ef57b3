import Mathlib.Algebra.Order.BigOperators.Group.Finset
import PowerGovernor.Budget.Forest
import PowerGovernor.Governor.Lifecycle
import PowerGovernor.Reservation.Ledger
import PowerGovernor.Reservation.Lifecycle

/-!
Clients that share one Governor.

Owns the loop plan, validate, reserve, activate, release of a client, the runs in
which any number of such clients interleave their calls, and the invariant that
every counter is the sum of what each client contributes in its current phase.
Where twice the demand on each budget fits its maximum, no call fails and the
clients leave nothing behind.
-/

set_option autoImplicit false

namespace PowerGovernor

/-- What a client asks for in every round: an amount of one budget, under the
generation it knows. -/
structure Client where
  budget : BudgetId
  budgetGen : BudgetGeneration
  amount : Watts

/-- What a client keeps of its plan. -/
structure Ticket where
  id : ReservationId
  policyGen : PolicyGeneration
  planned : Timestamp
  validity : Duration
deriving DecidableEq

/-- Where a client stands in its round. -/
inductive ClientPhase where
  | idle
  | planned (ticket : Ticket)
  | validated (ticket : Ticket)
  | reserved (ticket : Ticket)
  | active (ticket : Ticket)
deriving DecidableEq

/-- The other arguments of a client's next call. -/
structure ClientArguments where
  workload : WorkloadId
  powerClass : WorkloadPowerClass
  scope : PowerDomainId
  energy : Joules
  policyGen : PolicyGeneration
  deviceGen : DeviceGeneration
  now : Timestamp
  validity : Duration

namespace ClientPhase

def ticket? : ClientPhase → Option Ticket
  | .idle => none
  | .planned ticket | .validated ticket | .reserved ticket | .active ticket => some ticket

/-- The state of the client's reservation. -/
def state : ClientPhase → ReservationState
  | .idle => .released
  | .planned _ => .planned
  | .validated _ => .validated
  | .reserved _ => .reserved
  | .active _ => .active

/-- The next call of a client. -/
def call (c : Client) (a : ClientArguments) (g : Governor) :
    ClientPhase → Except Fault (Governor × ReservationResult)
  | .idle =>
    .ok (g.planReservation a.workload a.powerClass a.scope c.budget c.amount a.energy a.policyGen
      a.deviceGen a.now a.validity)
  | .planned ticket => g.validateReservation ticket.id ticket.policyGen
  | .validated ticket => g.reserveReservation ticket.id c.budgetGen a.now
  | .reserved ticket => g.activateReservation ticket.id c.budgetGen a.now
  | .active ticket => g.releaseReservation ticket.id c.budgetGen a.now

/-- The phase after an accepted call. -/
def next (a : ClientArguments) (result : ReservationResult) : ClientPhase → ClientPhase
  | .idle => .planned ⟨result.id, a.policyGen, a.now, a.validity⟩
  | .planned ticket => .validated ticket
  | .validated ticket => .reserved ticket
  | .reserved ticket => .active ticket
  | .active _ => .idle

/-- The plans a call makes. -/
def plans : ClientPhase → Nat
  | .idle => 1
  | _ => 0

/-- A call that is checked for expiry comes within the validity. -/
def Timely (a : ClientArguments) : ClientPhase → Prop
  | .validated ticket | .reserved ticket => a.now.ns - ticket.planned.ns ≤ ticket.validity.ns
  | _ => True

instance (a : ClientArguments) (phase : ClientPhase) : Decidable (phase.Timely a) := by
  cases phase <;> unfold Timely <;> infer_instance

end ClientPhase

/-- A Governor, the phase of each of its clients, and the plans made so far. -/
structure SharedGovernor (ι : Type) where
  governor : Governor
  phases : ι → ClientPhase
  plans : Nat

namespace SharedGovernor

variable {ι : Type} [DecidableEq ι]

/-- One call of a client. A client whose call fails starts over. -/
def after (clients : ι → Client) (s : SharedGovernor ι) (turn : ι × ClientArguments) :
    SharedGovernor ι :=
  let (i, a) := turn
  let plans := s.plans + (s.phases i).plans
  match (s.phases i).call (clients i) a s.governor with
  | .error _ => { s with phases := Function.update s.phases i .idle, plans := plans }
  | .ok (g, result) =>
    { governor := g
      phases := Function.update s.phases i
        (if result.ok then (s.phases i).next a result else .idle)
      plans := plans }

/-- The state after an accepted call of a client in a known phase. -/
theorem after_eq {clients : ι → Client} {s : SharedGovernor ι} {i : ι} {a : ClientArguments}
    {phase : ClientPhase} {g : Governor}
    {result : ReservationResult} (stands : s.phases i = phase)
    (called : phase.call (clients i) a s.governor = .ok (g, result))
    (accepted : result.ok = true) :
    s.after clients (i, a) =
      ⟨g, Function.update s.phases i (phase.next a result), s.plans + phase.plans⟩ := by
  subst stands
  unfold after
  simp only [called, accepted, if_true]

omit [DecidableEq ι]

variable [Fintype ι]

open Classical in
/-- The clients meet a Governor without reservations on an unbooked forest. Each
names an authoritative budget under its installed generation, and no budget is
asked by the clients below it for more than half its maximum. -/
structure Opened (clients : ι → Client) (s : SharedGovernor ι) : Prop where
  unreserved : s.governor.reservations = .empty
  forest : s.governor.budgets.Forest
  unbooked : ∀ b st, s.governor.budgets.state? b = some st →
    st.reserved = Watts.zero ∧ st.used = Watts.zero
  installed : ∀ i, ∃ st, s.governor.budgets.state? (clients i).budget = some st ∧
    st.cfg.generation = (clients i).budgetGen ∧ st.cfg.authoritative = true
  demand : ∀ b st, s.governor.budgets.state? b = some st →
    2 * ∑ i with s.governor.budgets.InSubtree (clients i).budget b, (clients i).amount.value ≤
      st.cfg.hardMax.value
  idle : ∀ i, s.phases i = .idle
  unplanned : s.plans = 0

/-- The condition on the next call of a client: it is timely, and a plan is among
those that `Meets` allows. -/
def Allows (Meets : Nat → Prop) (s : SharedGovernor ι) (i : ι) (a : ClientArguments) : Prop :=
  (s.phases i).Timely a ∧ (s.phases i = .idle → Meets s.plans)

instance {Meets : Nat → Prop} [DecidablePred Meets] (s : SharedGovernor ι) (i : ι)
    (a : ClientArguments) : Decidable (s.Allows Meets i a) := by
  unfold Allows
  infer_instance

/-- No call that is allowed fails, and clients that are all done have left every
budget unbooked and every reservation RELEASED. -/
structure Clean (Meets : Nat → Prop) (clients : ι → Client) (s : SharedGovernor ι) : Prop where
  succeeds : ∀ i a, s.Allows Meets i a → ∃ g result,
    (s.phases i).call (clients i) a s.governor = .ok (g, result) ∧ result.ok = true
  ends : (∀ i, s.phases i = .idle) →
    (∀ b st, s.governor.budgets.state? b = some st →
      st.reserved = Watts.zero ∧ st.used = Watts.zero) ∧
    ∀ r ∈ s.governor.reservations.map.entries, r.state = .released

end SharedGovernor

/-- The interleavings of the clients' calls. `Meets` says after how many plans
another one is allowed. -/
def clientRuns {ι : Type} [DecidableEq ι] [Fintype ι] (Meets : Nat → Prop)
    (clients : ι → Client) : TransitionSystem (SharedGovernor ι) (ι × ClientArguments) where
  init := SharedGovernor.Opened clients
  step := fun s turn s' => s.Allows Meets turn.1 turn.2 ∧ s' = s.after clients turn

/-! ## The invariant -/

namespace Client

/-- What a client in a phase contributes to a counter of `b`. -/
def share (m : BudgetManager) (counter : Counter) (b : BudgetId) (c : Client)
    (phase : ClientPhase) : ℚ :=
  if counter.counts phase.state = true ∧ b ∈ m.chain c.budget then c.amount.value else 0

variable {m : BudgetManager} {counter : Counter} {b : BudgetId} {c : Client} {phase : ClientPhase}

theorem share_nonneg : 0 ≤ c.share m counter b phase := by
  unfold share
  split
  · exact c.amount.nonneg
  · exact le_refl 0

theorem share_congr {m' : BudgetManager} (same : m'.parentOf = m.parentOf) :
    c.share m' counter b phase = c.share m counter b phase := by
  rw [share, share, BudgetManager.chain_congr same]

/-- The reservation of a client in a phase. -/
structure Holds (c : Client) (phase : ClientPhase) (ticket : Ticket) (r : Reservation) :
    Prop where
  state : r.state = phase.state
  budget : r.budget = c.budget
  requested : r.requestedPower = c.amount
  policy : r.policyGeneration = ticket.policyGen
  created : r.created = ticket.planned
  validity : r.validity = ticket.validity
  held : phase.state.holds = true → r.reservedPower = c.amount ∧ r.budgetGeneration = c.budgetGen

end Client

section

variable {ι : Type} [Fintype ι]

/-- The forest serves the clients: what `Opened` says, along the chains. -/
structure Serves (clients : ι → Client) (m : BudgetManager) : Prop where
  acyclic : m.Acyclic
  installed : ∀ i, ∃ cfg, (m.state? (clients i).budget).map BudgetState.cfg = some cfg ∧
    cfg.generation = (clients i).budgetGen ∧ cfg.authoritative = true
  chained : ∀ i, ∀ b ∈ m.chain (clients i).budget, m.has b = true
  demand : ∀ b cfg, (m.state? b).map BudgetState.cfg = some cfg →
    2 * ∑ i, (if b ∈ m.chain (clients i).budget then (clients i).amount.value else 0) ≤
      cfg.hardMax.value

theorem Serves.congr {clients : ι → Client} {m m' : BudgetManager} (serves : Serves clients m)
    (same : ∀ k, (m'.state? k).map BudgetState.cfg = (m.state? k).map BudgetState.cfg) :
    Serves clients m' := by
  have parents := BudgetManager.parentOf_congr same
  have chains : ∀ id, m'.chain id = m.chain id := BudgetManager.chain_congr parents
  have has : ∀ k, m'.has k = m.has k := by
    intro k
    have kept := congrArg Option.isSome (same k)
    rwa [Option.isSome_map, Option.isSome_map] at kept
  refine ⟨?_, fun i => ?_, fun i b onChain => ?_, fun b cfg found => ?_⟩
  · unfold BudgetManager.Acyclic
    rw [parents]
    exact serves.acyclic
  · rw [same]
    exact serves.installed i
  · rw [chains] at onChain
    rw [has]
    exact serves.chained i b onChain
  · rw [same] at found
    simp only [chains]
    exact serves.demand b cfg found

/-- The invariant of the clients' runs. -/
structure Tracked (clients : ι → Client) (s : SharedGovernor ι) : Prop where
  serves : Serves clients s.governor.budgets
  counted : ∀ counter b amount, s.governor.budgets.amount? counter b = some amount →
    amount.value = ∑ i, (clients i).share s.governor.budgets counter b (s.phases i)
  held : ∀ i ticket, (s.phases i).ticket? = some ticket →
    ∃ r, s.governor.reservations.find? ticket.id = some r ∧
      (clients i).Holds (s.phases i) ticket r
  apart : ∀ i j left right, (s.phases i).ticket? = some left →
    (s.phases j).ticket? = some right → left.id = right.id → i = j
  settled : ∀ r ∈ s.governor.reservations.map.entries, r.state = .released ∨
    ∃ i ticket, (s.phases i).ticket? = some ticket ∧ ticket.id = r.id
  drawn : ∃ first : UInt64, s.governor.ids.reservation = first + UInt64.ofNat s.plans ∧
    s.governor.reservations.ids =
      (List.range s.plans).map fun k => ⟨first + UInt64.ofNat k⟩

namespace Tracked

variable {clients : ι → Client} {s : SharedGovernor ι}

theorem of_opened (opened : s.Opened clients) : Tracked clients s := by
  have noEntries : s.governor.reservations.map.entries = [] := by
    rw [opened.unreserved]
    rfl
  have noTickets : ∀ i, (s.phases i).ticket? = none := by
    intro i
    rw [opened.idle i]
    rfl
  refine ⟨⟨opened.forest.acyclic, fun i => ?_, fun i b onChain => ?_, fun b cfg found => ?_⟩,
    fun counter b amount counted => ?_, fun i ticket some => ?_, fun i _ _ _ some => ?_, ?_,
    s.governor.ids.reservation, ?_, ?_⟩
  · obtain ⟨st, found, generation, authority⟩ := opened.installed i
    exact ⟨st.cfg, by rw [found, Option.map_some], generation, authority⟩
  · obtain ⟨st, found, _⟩ := opened.installed i
    exact opened.forest.has_of_mem_chain (BudgetManager.has_iff.mpr ⟨st, found⟩) onChain
  · obtain ⟨st, installed, rfl⟩ := Option.map_eq_some_iff.mp found
    have bound := opened.demand b st installed
    classical
    have fewer : ∑ i, (if b ∈ s.governor.budgets.chain (clients i).budget
          then (clients i).amount.value else 0) ≤
        ∑ i with s.governor.budgets.InSubtree (clients i).budget b, (clients i).amount.value := by
      rw [Finset.sum_filter]
      refine Finset.sum_le_sum fun i _ => ?_
      by_cases onChain : b ∈ s.governor.budgets.chain (clients i).budget
      · rw [if_pos onChain, if_pos (BudgetManager.inSubtree_of_mem_chain onChain)]
      · rw [if_neg onChain]
        split
        · exact (clients i).amount.nonneg
        · exact le_refl 0
    linarith
  · obtain ⟨st, found, rfl⟩ := BudgetManager.amount?_eq_some.mp counted
    obtain ⟨reserved, used⟩ := opened.unbooked b st found
    have unshared : ∀ i, (clients i).share s.governor.budgets counter b (s.phases i) = 0 := by
      intro i
      rw [opened.idle i]
      exact if_neg fun counted => by cases counter <;> cases counted.1
    rw [Finset.sum_congr rfl fun i _ => unshared i, Finset.sum_const_zero]
    cases counter with
    | reserved => exact congrArg (fun amount : Watts => amount.value) reserved
    | used => exact congrArg (fun amount : Watts => amount.value) used
  · rw [noTickets] at some
    cases some
  · rw [noTickets] at some
    cases some
  · simp [noEntries]
  · simp [opened.unplanned]
  · simp [opened.unplanned, ReservationManager.ids, noEntries]

/-- The next id is new as long as the allocator has not come round. -/
theorem fresh (tracked : Tracked clients s) (bounded : s.plans < 2 ^ 64) :
    s.governor.reservations.find? ⟨s.governor.ids.reservation⟩ = none := by
  obtain ⟨first, allocator, ids⟩ := tracked.drawn
  rw [ReservationManager.find?_eq_none_iff, ids, allocator]
  intro member
  obtain ⟨k, before, same⟩ := List.mem_map.mp member
  have earlier := List.mem_range.mp before
  have steps : UInt64.ofNat k = UInt64.ofNat s.plans :=
    add_left_cancel (congrArg StrongId.raw same)
  have values := congrArg UInt64.toNat steps
  rw [UInt64.toNat_ofNat', UInt64.toNat_ofNat', Nat.mod_eq_of_lt bounded,
    Nat.mod_eq_of_lt (earlier.trans bounded)] at values
  omega

/-! ## What the counters leave -/

/-- A client's contribution is on every budget of its chain. -/
theorem amount_le (tracked : Tracked clients s) {counter : Counter} {i : ι}
    (counts : counter.counts (s.phases i).state = true) {b : BudgetId}
    (onChain : b ∈ s.governor.budgets.chain (clients i).budget) {amount : Watts}
    (counted : s.governor.budgets.amount? counter b = some amount) :
    (clients i).amount.value ≤ amount.value := by
  have own : (clients i).share s.governor.budgets counter b (s.phases i) =
      (clients i).amount.value := if_pos ⟨counts, onChain⟩
  rw [tracked.counted counter b amount counted, ← own]
  exact Finset.single_le_sum
    (f := fun j => (clients j).share s.governor.budgets counter b (s.phases j))
    (fun j _ => Client.share_nonneg) (Finset.mem_univ i)

/-- A contribution a client makes can be returned. -/
theorem returnable (tracked : Tracked clients s) {counter : Counter} {i : ι}
    (counts : counter.counts (s.phases i).state = true) :
    s.governor.budgets.Returnable counter (clients i).budget (clients i).amount
      (clients i).budgetGen := by
  obtain ⟨cfg, installed, generation, _⟩ := tracked.serves.installed i
  refine BudgetManager.returnable_iff.mpr ⟨⟨cfg, installed, generation⟩, fun b onChain => ?_⟩
  obtain ⟨st, found⟩ := BudgetManager.has_iff.mp (tracked.serves.chained i b onChain)
  have counted : s.governor.budgets.amount? counter b = some (st.get counter) :=
    BudgetManager.amount?_eq_some.mpr ⟨st, found, rfl⟩
  exact ⟨st.get counter, counted,
    le_add_of_le_of_nonneg (tracked.amount_le counts onChain counted) slack_nonneg⟩

/-- A booking moves the counters by what the client contributes from then on. -/
theorem moved_of_booked (tracked : Tracked clients s) {i : ι} {phase : ClientPhase}
    {which : Counter}
    (gains : ∀ counter : Counter, counter.counts phase.state = true ↔
      counter.counts (s.phases i).state = true ∨ counter = which)
    (free : which.counts (s.phases i).state = false) {counter : Counter} {b : BudgetId}
    {after : Watts}
    (counted : (s.governor.budgets.adjustChain which (clients i).amount.value
      (s.governor.budgets.chain (clients i).budget)).amount? counter b = some after) :
    ∃ amount, s.governor.budgets.amount? counter b = some amount ∧ after.value = amount.value +
      ((clients i).share s.governor.budgets counter b phase -
        (clients i).share s.governor.budgets counter b (s.phases i)) := by
  obtain ⟨amount, before, value⟩ := BudgetManager.moved_of_adjustChain tracked.serves.acyclic
    (s.governor.budgets.unclamped_book which _ _) counted
  refine ⟨amount, before, ?_⟩
  rw [value]
  unfold Client.share
  by_cases own : counter = which
  · subst own
    simp [gains, free]
  · simp [gains, own]

/-- The release of an active reservation takes its contribution off both
counters. -/
theorem moved_of_returned (tracked : Tracked clients s) {i : ι}
    (active : (s.phases i).state = .active) {r : Reservation} (state : r.state = .active)
    (budget : r.budget = (clients i).budget) (power : r.reservedPower = (clients i).amount)
    {counter : Counter} {b : BudgetId} {after : Watts}
    (counted : (s.governor.books.returned r (clients i).budgetGen).amount? counter b =
      some after) :
    ∃ amount, s.governor.budgets.amount? counter b = some amount ∧ after.value = amount.value -
      if b ∈ s.governor.budgets.chain (clients i).budget then (clients i).amount.value else 0 := by
  let m := s.governor.budgets
  have counts : ∀ counter : Counter, counter.counts (s.phases i).state = true := by
    intro counter
    rw [active]
    cases counter <;> rfl
  have unclamped : ∀ counter, ∀ c ∈ m.chain (clients i).budget, ∀ amount,
      m.amount? counter c = some amount → 0 ≤ amount.value + -(clients i).amount.value := by
    intro counter c onChain amount before
    have least := tracked.amount_le (counts counter) onChain before
    linarith
  let books := s.governor.books
  rcases books.returned_cases r (clients i).budgetGen with ⟨_, refused⟩ | ⟨twice, _, _⟩
  · refine absurd ?_ (refused (by rw [state]; rfl))
    refine (books.returnable_unreserved r).mpr ?_
    rw [budget, power]
    exact tracked.returnable (counts .used)
  · have first : books.unreserved r =
        m.adjustChain .reserved (-(clients i).amount.value) (m.chain (clients i).budget) := by
      rw [← budget, ← power]
      rfl
    have chain : (books.unreserved r).chain (clients i).budget = m.chain (clients i).budget :=
      books.chain_unreserved r _
    rw [twice, power, budget] at counted
    change ((books.unreserved r).adjustChain .used (-(clients i).amount.value)
      (m.chain (clients i).budget)).amount? counter b = some after at counted
    rw [← chain] at counted
    obtain ⟨middle, between, last⟩ := BudgetManager.moved_of_adjustChain
      (books.acyclic_unreserved r tracked.serves.acyclic)
      (fun c onChain amount before =>
        unclamped .used c (chain ▸ onChain) amount ((books.used_unreserved r c).symm.trans before))
      counted
    rw [first] at between
    obtain ⟨amount, before, value⟩ := BudgetManager.moved_of_adjustChain tracked.serves.acyclic
      (unclamped .reserved) between
    refine ⟨amount, before, ?_⟩
    rw [last, value, chain]
    by_cases onChain : b ∈ m.chain (clients i).budget
    · cases counter <;> simp [m, onChain, sub_eq_add_neg]
    · simp [m, onChain]

/-- Idle clients contribute nothing and hold no reservation. -/
theorem ends (tracked : Tracked clients s) (idle : ∀ i, s.phases i = .idle) :
    (∀ b st, s.governor.budgets.state? b = some st →
      st.reserved = Watts.zero ∧ st.used = Watts.zero) ∧
    ∀ r ∈ s.governor.reservations.map.entries, r.state = .released := by
  have empty : ∀ counter b st, s.governor.budgets.state? b = some st →
      st.get counter = Watts.zero := by
    intro counter b st found
    have none : ∀ i, (clients i).share s.governor.budgets counter b (s.phases i) = 0 := by
      intro i
      rw [idle i]
      exact if_neg fun counted => by cases counter <;> cases counted.1
    have counted := tracked.counted counter b _ (BudgetManager.amount?_eq_some.mpr ⟨st, found, rfl⟩)
    rw [Finset.sum_congr rfl fun i _ => none i, Finset.sum_const_zero] at counted
    exact Quantity.ext counted
  refine ⟨fun b st found => ⟨empty .reserved b st found, empty .used b st found⟩, ?_⟩
  intro r member
  rcases tracked.settled r member with released | ⟨i, ticket, some, _⟩
  · exact released
  · rw [idle i] at some
    cases some

variable [DecidableEq ι]

/-- The budgets of a chain have room for a contribution a client does not make
yet. -/
theorem room (tracked : Tracked clients s) {i : ι}
    (unused : Counter.used.counts (s.phases i).state = false) {b : BudgetId}
    (onChain : b ∈ s.governor.budgets.chain (clients i).budget) :
    ∃ st, s.governor.budgets.state? b = some st ∧
      (clients i).amount.value ≤ st.ownAvailable.value + slack := by
  obtain ⟨st, found⟩ := BudgetManager.has_iff.mp (tracked.serves.chained i b onChain)
  let m := s.governor.budgets
  let demand : ι → ℚ := fun j =>
    if b ∈ m.chain (clients j).budget then (clients j).amount.value else 0
  have most : ∀ counter j, (clients j).share m counter b (s.phases j) ≤ demand j := by
    intro counter j
    by_cases counted : counter.counts (s.phases j).state = true ∧ b ∈ m.chain (clients j).budget
    · exact (if_pos counted).trans_le (if_pos counted.2).ge
    · refine (if_neg counted).trans_le ?_
      dsimp only [demand]
      split
      · exact (clients j).amount.nonneg
      · exact le_refl 0
  have reserved : st.reserved.value ≤ ∑ j, demand j := by
    have counted : m.amount? .reserved b = some st.reserved :=
      BudgetManager.amount?_eq_some.mpr ⟨st, found, rfl⟩
    rw [tracked.counted .reserved b _ counted]
    exact Finset.sum_le_sum fun j _ => most .reserved j
  have used : st.used.value + (clients i).amount.value ≤ ∑ j, demand j := by
    have counted : m.amount? .used b = some st.used :=
      BudgetManager.amount?_eq_some.mpr ⟨st, found, rfl⟩
    have own : demand i = (clients i).amount.value := if_pos onChain
    have none : (clients i).share m .used b (s.phases i) = 0 := by
      simp [Client.share, unused]
    have others := Finset.sum_le_sum (s := Finset.univ.erase i) fun j _ => most .used j
    rw [tracked.counted .used b _ counted, ← Finset.add_sum_erase _ _ (Finset.mem_univ i),
      ← Finset.add_sum_erase _ demand (Finset.mem_univ i), none, own]
    linarith
  have fits := tracked.serves.demand b st.cfg (by rw [found, Option.map_some])
  have left : st.cfg.hardMax.value - st.reserved.value - st.used.value ≤
      st.ownAvailable.value := by
    rw [BudgetState.ownAvailable, Watts.clamped_value]
    exact le_max_right _ _
  have tolerance := slack_nonneg
  refine ⟨st, found, ?_⟩
  change 2 * ∑ j, demand j ≤ st.cfg.hardMax.value at fits
  linarith

/-! ## One call -/

/-- A sum over the phases changes by what one phase contributes. -/
theorem sum_update (weight : ι → ClientPhase → ℚ) (phases : ι → ClientPhase) (i : ι)
    (phase : ClientPhase) :
    ∑ j, weight j (Function.update phases i phase j) =
      ∑ j, weight j (phases j) + (weight i phase - weight i (phases i)) := by
  have others : ∑ j ∈ Finset.univ.erase i, weight j (Function.update phases i phase j) =
      ∑ j ∈ Finset.univ.erase i, weight j (phases j) := by
    refine Finset.sum_congr rfl fun j member => ?_
    rw [Function.update_of_ne (Finset.ne_of_mem_erase member)]
  rw [← Finset.add_sum_erase _ _ (Finset.mem_univ i), others, Function.update_self,
    ← Finset.add_sum_erase _ (fun j => weight j (phases j)) (Finset.mem_univ i)]
  ring

/-- The counters moved by the change of one client's contribution. -/
theorem counted_of_moved (tracked : Tracked clients s) {i : ι} {phase : ClientPhase}
    {budgets : BudgetManager}
    (same : ∀ k, (budgets.state? k).map BudgetState.cfg =
      (s.governor.budgets.state? k).map BudgetState.cfg)
    (moved : ∀ counter b after, budgets.amount? counter b = some after →
      ∃ amount, s.governor.budgets.amount? counter b = some amount ∧
        after.value = amount.value +
          ((clients i).share s.governor.budgets counter b phase -
            (clients i).share s.governor.budgets counter b (s.phases i)))
    (counter : Counter) (b : BudgetId) (after : Watts)
    (counted : budgets.amount? counter b = some after) :
    after.value =
      ∑ j, (clients j).share budgets counter b (Function.update s.phases i phase j) := by
  obtain ⟨amount, before, value⟩ := moved counter b after counted
  have parents : budgets.parentOf = s.governor.budgets.parentOf := BudgetManager.parentOf_congr same
  rw [value, tracked.counted counter b amount before,
    Finset.sum_congr rfl fun j _ => Client.share_congr parents,
    sum_update fun j => (clients j).share s.governor.budgets counter b]

/-- A reservation that the client whose turn it is does not name stays released or named. -/
theorem settled_update (tracked : Tracked clients s) {i : ι} (phase : ClientPhase)
    {v : Reservation} (member : v ∈ s.governor.reservations.map.entries)
    (unnamed : ∀ t, (s.phases i).ticket? = some t → t.id ≠ v.id) :
    v.state = .released ∨
      ∃ j t, (Function.update s.phases i phase j).ticket? = some t ∧ t.id = v.id := by
  rcases tracked.settled v member with released | ⟨j, t, some, named⟩
  · exact .inl released
  · have turn : j ≠ i := by
      rintro rfl
      exact unnamed t some named
    rw [← Function.update_of_ne turn phase s.phases] at some
    exact .inr ⟨j, t, some, named⟩

/-- A call that writes the client's reservation and moves the counters by the
change of its contribution keeps the invariant. -/
theorem of_write (tracked : Tracked clients s) {i : ι} {ticket : Ticket} {phase : ClientPhase}
    {r : Reservation} {f : Reservation → Reservation} {keeps : ∀ r, (f r).id = r.id}
    {budgets : BudgetManager} {g : Governor} (holding : (s.phases i).ticket? = some ticket)
    (found : s.governor.reservations.find? ticket.id = some r)
    (left : g.books = s.governor.books.write ticket.id f keeps budgets)
    (same : ∀ k, (budgets.state? k).map BudgetState.cfg =
      (s.governor.budgets.state? k).map BudgetState.cfg)
    (moved : ∀ counter b after, budgets.amount? counter b = some after →
      ∃ amount, s.governor.budgets.amount? counter b = some amount ∧
        after.value = amount.value +
          ((clients i).share s.governor.budgets counter b phase -
            (clients i).share s.governor.budgets counter b (s.phases i)))
    (ended : phase.ticket? = some ticket ∧ (clients i).Holds phase ticket (f r) ∨
      phase.ticket? = none ∧ (f r).state = .released) :
    Tracked clients ⟨g, Function.update s.phases i phase, s.plans⟩ := by
  obtain rfl : g.budgets = budgets := congrArg Books.budgets left
  have drawn : g.ids = s.governor.ids := congrArg Books.ids left
  have reservations : g.reservations = s.governor.reservations.write ticket.id f keeps :=
    congrArg Books.reservations left
  have own : g.reservations.find? ticket.id = some (f r) :=
    (congrArg (fun books : Books => books.reservations.find? ticket.id) left).trans
      (Books.find?_write_self found)
  have other : ∀ id, id ≠ ticket.id →
      g.reservations.find? id = s.governor.reservations.find? id := fun id different =>
    (congrArg (fun books : Books => books.reservations.find? id) left).trans
      (Books.find?_write_of_ne different)
  have earlier : ∀ j t, (Function.update s.phases i phase j).ticket? = some t →
      (s.phases j).ticket? = some t ∧ (j = i → (clients i).Holds phase ticket (f r)) := by
    intro j t some
    by_cases turn : j = i
    · subst turn
      rw [Function.update_self] at some
      rcases ended with ⟨still, holds⟩ | ⟨none, _⟩
      · exact ⟨holding.trans (still.symm.trans some), fun _ => holds⟩
      · rw [none] at some
        cases some
    · rw [Function.update_of_ne turn] at some
      exact ⟨some, fun same => absurd same turn⟩
  refine ⟨tracked.serves.congr same, tracked.counted_of_moved same moved, ?_, ?_, ?_, ?_⟩
  · intro j t some
    obtain ⟨before, holds⟩ := earlier j t some
    by_cases turn : j = i
    · subst turn
      obtain rfl : ticket = t := Option.some.inj (holding.symm.trans before)
      refine ⟨f r, own, ?_⟩
      dsimp only
      rw [Function.update_self]
      exact holds rfl
    · obtain ⟨held, heldFound, holds⟩ := tracked.held j t before
      refine ⟨held, ?_, ?_⟩
      · rw [other, heldFound]
        exact fun clash => turn (tracked.apart j i t ticket before holding clash)
      · dsimp only
        rw [Function.update_of_ne turn]
        exact holds
  · intro j k t u some some' clash
    exact tracked.apart j k t u (earlier j t some).1 (earlier k u some').1 clash
  · intro v member
    have present : g.reservations.find? v.id = some v := Keyed.find?_of_mem member
    by_cases written : v.id = ticket.id
    · rw [written, own] at present
      obtain rfl := Option.some.inj present
      rcases ended with ⟨still, _⟩ | ⟨_, released⟩
      · exact .inr ⟨i, ticket,
          (congrArg ClientPhase.ticket? (Function.update_self ..)).trans still, written.symm⟩
      · exact .inl released
    · rw [other v.id written] at present
      refine tracked.settled_update phase (Keyed.mem_of_find? present) fun t some named => ?_
      obtain rfl : ticket = t := Option.some.inj (holding.symm.trans some)
      exact written named.symm
  · obtain ⟨first, allocator, ids⟩ := tracked.drawn
    refine ⟨first, ?_, ?_⟩
    · rw [drawn]
      exact allocator
    · rw [reservations, ReservationManager.ids_write]
      exact ids

/-- A plan of an idle client keeps the invariant. -/
theorem of_plan (tracked : Tracked clients s) {i : ι} {ticket : Ticket} {r : Reservation}
    {g : Governor} (idle : s.phases i = .idle)
    (fresh : s.governor.reservations.find? ⟨s.governor.ids.reservation⟩ = none)
    (id : r.id = ⟨s.governor.ids.reservation⟩) (own : ticket.id = r.id)
    (holds : (clients i).Holds (.planned ticket) ticket r)
    (left : g.books = ⟨⟨s.governor.reservations.map.emplace r⟩, s.governor.budgets,
      s.governor.ids.allocateReservation.2⟩) :
    Tracked clients ⟨g, Function.update s.phases i (.planned ticket), s.plans + 1⟩ := by
  have budgets : g.budgets = s.governor.budgets := congrArg Books.budgets left
  have drawn : g.ids = s.governor.ids.allocateReservation.2 := congrArg Books.ids left
  have reservations : g.reservations = ⟨s.governor.reservations.map.emplace r⟩ :=
    congrArg Books.reservations left
  rw [← id] at fresh
  have lookup : ∀ k, g.reservations.find? k =
      if k = r.id then some r else s.governor.reservations.find? k := by
    intro k
    rw [reservations]
    exact Keyed.find?_emplace fresh k
  have noTicket : (s.phases i).ticket? = none := by
    rw [idle]
    rfl
  -- A ticket a client holds is the new one or names a reservation that was there.
  have tickets : ∀ j t, (Function.update s.phases i (.planned ticket) j).ticket? = some t →
      (j = i ∧ t = ticket) ∨ (j ≠ i ∧ (s.phases j).ticket? = some t ∧ t.id ≠ r.id) := by
    intro j t some
    by_cases turn : j = i
    · subst turn
      rw [Function.update_self] at some
      exact .inl ⟨rfl, (Option.some.inj some).symm⟩
    · rw [Function.update_of_ne turn] at some
      refine .inr ⟨turn, some, fun clash => ?_⟩
      obtain ⟨held, found, _⟩ := tracked.held j t some
      rw [clash, fresh] at found
      cases found
  refine ⟨?_, ?_, ?_, ?_, ?_, ?_⟩
  · rw [budgets]
    exact tracked.serves
  · dsimp only
    rw [budgets]
    refine tracked.counted_of_moved (fun _ => rfl) fun counter b amount counted => ?_
    refine ⟨amount, counted, ?_⟩
    rw [idle]
    cases counter <;> simp [Client.share, ClientPhase.state, Counter.counts,
      ReservationState.holds, ReservationState.uses]
  · intro j t some
    rcases tickets j t some with ⟨rfl, rfl⟩ | ⟨turn, before, different⟩
    · refine ⟨r, by rw [lookup, if_pos own], ?_⟩
      dsimp only
      rw [Function.update_self]
      exact holds
    · obtain ⟨held, found, heldHolds⟩ := tracked.held j t before
      refine ⟨held, by rw [lookup, if_neg different, found], ?_⟩
      dsimp only
      rw [Function.update_of_ne turn]
      exact heldHolds
  · intro j k t u some some' clash
    rcases tickets j t some with ⟨rfl, rfl⟩ | ⟨_, before, different⟩ <;>
      rcases tickets k u some' with ⟨rfl, rfl⟩ | ⟨_, before', different'⟩
    · rfl
    · exact absurd (clash.symm.trans own) different'
    · exact absurd (clash.trans own) different
    · exact tracked.apart j k t u before before' clash
  · rw [reservations]
    apply Keyed.forall_emplace
    · intro v member
      refine tracked.settled_update _ member fun t some => ?_
      rw [noTicket] at some
      cases some
    · have now : (ClientPhase.planned ticket).ticket? = some ticket := rfl
      refine .inr ⟨i, ticket, ?_, own⟩
      exact (congrArg ClientPhase.ticket? (Function.update_self ..)).trans now
  · obtain ⟨first, allocator, ids⟩ := tracked.drawn
    refine ⟨first, ?_, ?_⟩
    · rw [drawn]
      change s.governor.ids.reservation + 1 = first + UInt64.ofNat (s.plans + 1)
      rw [allocator, UInt64.ofNat_add, add_assoc]
      rfl
    · have added : (s.governor.reservations.map.emplace r).entries =
          s.governor.reservations.map.entries ++ [r] := Keyed.entries_emplace fresh
      rw [reservations]
      unfold ReservationManager.ids at ids ⊢
      rw [added, List.map_append, ids, List.range_succ, List.map_append, List.map_singleton,
        List.map_singleton, id, allocator]

/-- A call of client `i` succeeds and keeps the invariant. -/
def Turns (clients : ι → Client) (s : SharedGovernor ι) (i : ι) (a : ClientArguments) : Prop :=
  ∃ g result, (s.phases i).call (clients i) a s.governor = .ok (g, result) ∧
    result.ok = true ∧ Tracked clients (s.after clients (i, a))

variable {i : ι} {a : ClientArguments} {ticket : Ticket}

theorem turns_idle (tracked : Tracked clients s) (stands : s.phases i = .idle)
    (bounded : s.plans < 2 ^ 64) : Turns clients s i a := by
  have fresh := tracked.fresh bounded
  obtain ⟨g, planned, left⟩ := Governor.planReservation_fresh fresh a.workload a.powerClass a.scope
    (clients i).budget (clients i).amount a.energy a.policyGen a.deviceGen a.now a.validity
  have called : ClientPhase.idle.call (clients i) a s.governor = _ := congrArg Except.ok planned
  refine ⟨_, _, stands ▸ called, rfl, ?_⟩
  rw [SharedGovernor.after_eq stands called rfl]
  refine tracked.of_plan stands fresh rfl rfl ?_ left
  exact ⟨rfl, rfl, rfl, rfl, rfl, rfl, nofun⟩

theorem turns_planned (tracked : Tracked clients s) (stands : s.phases i = .planned ticket) :
    Turns clients s i a := by
  have holding : (s.phases i).ticket? = some ticket := by
    rw [stands]
    rfl
  obtain ⟨r, found, holds⟩ := tracked.held i ticket holding
  rw [stands] at holds
  obtain ⟨g, called, left⟩ := Governor.validateReservation_returns (g := s.governor)
    (ReservationCall.exec_validate found holds.state holds.policy)
  have called : (ClientPhase.planned ticket).call (clients i) a s.governor = _ := called
  refine ⟨_, _, stands ▸ called, rfl, ?_⟩
  rw [SharedGovernor.after_eq stands called rfl]
  refine tracked.of_write holding found left (fun _ => rfl) (fun counter b after counted => ?_)
    (.inl ⟨rfl, ⟨rfl, holds.budget, holds.requested, holds.policy, holds.created, holds.validity,
      nofun⟩⟩)
  refine ⟨after, counted, ?_⟩
  rw [stands]
  cases counter <;> simp [Client.share, ClientPhase.next, ClientPhase.state, Counter.counts,
    ReservationState.holds, ReservationState.uses]

/-- The budgets of a client take a contribution it does not make yet. -/
theorem bookable (tracked : Tracked clients s) {needsAuthority : Bool}
    (unused : Counter.used.counts (s.phases i).state = false) :
    s.governor.budgets.Bookable needsAuthority (clients i).budget (clients i).amount
      (clients i).budgetGen := by
  obtain ⟨cfg, installed, generation, authority⟩ := tracked.serves.installed i
  obtain ⟨st, found, rfl⟩ := Option.map_eq_some_iff.mp installed
  exact ⟨⟨st, found, generation, fun _ => authority⟩, fun b onChain => tracked.room unused onChain⟩

theorem turns_validated (tracked : Tracked clients s) (stands : s.phases i = .validated ticket)
    (timely : (s.phases i).Timely a) : Turns clients s i a := by
  have holding : (s.phases i).ticket? = some ticket := by
    rw [stands]
    rfl
  obtain ⟨r, found, holds⟩ := tracked.held i ticket holding
  have bookable : s.governor.budgets.Bookable true _ _ _ :=
    tracked.bookable (i := i) (by rw [stands]; rfl)
  rw [stands] at holds timely
  have reservable : ¬ (r.state ≠ .validated ∧ r.state ≠ .planned) := fun late =>
    late.1 holds.state
  have alive : r.expired a.now = .ok false := by
    apply Reservation.alive_of_within
    rw [holds.created, holds.validity]
    exact timely
  rw [← holds.budget, ← holds.requested] at bookable
  obtain ⟨g, called, left⟩ := Governor.reserveReservation_returns (g := s.governor)
    (ReservationCall.exec_reserve found reservable alive bookable)
  have called : (ClientPhase.validated ticket).call (clients i) a s.governor = _ := called
  refine ⟨_, _, stands ▸ called, rfl, ?_⟩
  rw [SharedGovernor.after_eq stands called rfl]
  refine tracked.of_write holding found left (BudgetManager.adjustChain_cfg _ _ _)
    (fun counter b after counted => ?_)
    (.inl ⟨rfl, ⟨rfl, holds.budget, holds.requested, holds.policy, holds.created, holds.validity,
      fun _ => ⟨holds.requested, rfl⟩⟩⟩)
  rw [holds.budget, holds.requested] at counted
  refine tracked.moved_of_booked (fun counter => ?_) (by rw [stands]; rfl) counted
  rw [stands]
  cases counter <;> simp [ClientPhase.next, ClientPhase.state, Counter.counts,
    ReservationState.holds, ReservationState.uses]

theorem turns_reserved (tracked : Tracked clients s) (stands : s.phases i = .reserved ticket)
    (timely : (s.phases i).Timely a) : Turns clients s i a := by
  have holding : (s.phases i).ticket? = some ticket := by
    rw [stands]
    rfl
  obtain ⟨r, found, holds⟩ := tracked.held i ticket holding
  have bookable : s.governor.budgets.Bookable false _ _ _ :=
    tracked.bookable (i := i) (by rw [stands]; rfl)
  rw [stands] at holds timely
  obtain ⟨power, generation⟩ := holds.held rfl
  have activatable : ¬ (r.state ≠ .admitted ∧ r.state ≠ .reserved) := fun other =>
    other.2 holds.state
  have alive : r.expired a.now = .ok false := by
    apply Reservation.alive_of_within
    rw [holds.created, holds.validity]
    exact timely
  rw [← holds.budget, ← holds.requested] at bookable
  obtain ⟨g, called, left⟩ := Governor.activateReservation_returns (g := s.governor)
    (ReservationCall.exec_activate found activatable alive generation bookable)
  have called : (ClientPhase.reserved ticket).call (clients i) a s.governor = _ := called
  refine ⟨_, _, stands ▸ called, rfl, ?_⟩
  rw [SharedGovernor.after_eq stands called rfl]
  refine tracked.of_write holding found left (BudgetManager.adjustChain_cfg _ _ _)
    (fun counter b after counted => ?_)
    (.inl ⟨rfl, ⟨rfl, holds.budget, holds.requested, holds.policy, holds.created, holds.validity,
      fun _ => ⟨power, generation⟩⟩⟩)
  rw [holds.budget, holds.requested] at counted
  refine tracked.moved_of_booked (fun counter => ?_) (by rw [stands]; rfl) counted
  rw [stands]
  cases counter <;> simp [ClientPhase.next, ClientPhase.state, Counter.counts,
    ReservationState.holds, ReservationState.uses]

theorem turns_active (tracked : Tracked clients s) (stands : s.phases i = .active ticket)
    (known : (clients i).budgetGen.isNull = false) : Turns clients s i a := by
  have holding : (s.phases i).ticket? = some ticket := by
    rw [stands]
    rfl
  obtain ⟨r, found, holds⟩ := tracked.held i ticket holding
  have returnable : s.governor.budgets.Returnable .reserved _ _ _ :=
    tracked.returnable (i := i) (by rw [stands]; rfl)
  rw [stands] at holds
  obtain ⟨power, generation⟩ := holds.held rfl
  have pending : ¬ (r.state = .released ∨ r.state = .expired ∨
      (r.budgetGeneration.isNull ∧ (r.state = .admitted ∨ r.state = .active))) := by
    have active : r.state = .active := holds.state
    simp [active, generation, known]
  rw [← holds.budget, ← power] at returnable
  have released : ReservationCall.exec s.governor.books (.release _ _ a.now) = _ :=
    ReservationCall.exec_release found pending returnable
  obtain ⟨g, called, left⟩ := Governor.releaseReservation_returns (g := s.governor) released
  have called : (ClientPhase.active ticket).call (clients i) a s.governor = _ := called
  refine ⟨_, _, stands ▸ called, rfl, ?_⟩
  rw [SharedGovernor.after_eq stands called rfl]
  refine tracked.of_write holding found left (s.governor.books.cfg_returned r _)
    (fun counter b after counted => ?_) (.inr ⟨rfl, rfl⟩)
  obtain ⟨amount, before, value⟩ := tracked.moved_of_returned (by rw [stands]; rfl) holds.state
    holds.budget power counted
  refine ⟨amount, before, ?_⟩
  rw [value, stands]
  cases counter <;> simp [Client.share, ClientPhase.next, ClientPhase.state, Counter.counts,
    ReservationState.holds, ReservationState.uses, sub_eq_add_neg]

theorem turns (tracked : Tracked clients s) (known : ∀ i, (clients i).budgetGen.isNull = false)
    (allowed : s.Allows (· < 2 ^ 64) i a) : Turns clients s i a := by
  obtain ⟨timely, bounded⟩ := allowed
  cases stands : s.phases i with
  | idle => exact tracked.turns_idle stands (bounded stands)
  | planned ticket => exact tracked.turns_planned stands
  | validated ticket => exact tracked.turns_validated stands timely
  | reserved ticket => exact tracked.turns_reserved stands timely
  | active ticket => exact tracked.turns_active stands (known i)

theorem of_reachable (known : ∀ i, (clients i).budgetGen.isNull = false)
    (reached : (clientRuns (· < 2 ^ 64) clients).Reachable s) : Tracked clients s := by
  refine reached.invariant (Tracked clients) (fun _ => of_opened) ?_
  rintro s ⟨i, a⟩ _ tracked ⟨allowed, rfl⟩
  obtain ⟨_, _, _, _, kept⟩ := tracked.turns known allowed
  exact kept

end Tracked

end

/-- Clients whose budgets have a generation, that make at most 2^64 plans between
them: in every interleaving no call fails, and when all are done every budget is
unbooked and every reservation RELEASED. -/
theorem clients_end_clean {ι : Type} [DecidableEq ι] [Fintype ι] {clients : ι → Client}
    {s : SharedGovernor ι} (known : ∀ i, (clients i).budgetGen.isNull = false)
    (reached : (clientRuns (· < 2 ^ 64) clients).Reachable s) :
    s.Clean (· < 2 ^ 64) clients := by
  have tracked := Tracked.of_reachable known reached
  refine ⟨fun i a allowed => ?_, tracked.ends⟩
  obtain ⟨g, result, called, accepted, _⟩ := tracked.turns known allowed
  exact ⟨g, result, called, accepted⟩

/-! Clients that take power of the accelerator in every round. -/

def gpuArguments : ClientArguments :=
  ⟨⟨100⟩, .throughput, ⟨2⟩, Joules.zero, .first, .first, planTime, planValidity⟩

/-- A Governor with these budgets before the first call of its clients. -/
def serving (ι : Type) (budgets : BudgetManager) : SharedGovernor ι :=
  ⟨{ Governor.construct ⟨⟨1⟩, ⟨1⟩, .first⟩ .start with budgets := budgets }, fun _ => .idle, 0⟩

theorem serving_opened {ι : Type} [Fintype ι] {clients : ι → Client} {budgets : BudgetManager}
    (forest : budgets.Forest)
    (unbooked : ∀ st ∈ budgets.states.entries, st.reserved = Watts.zero ∧ st.used = Watts.zero)
    (installed : ∀ i, ∃ st, budgets.state? (clients i).budget = some st ∧
      st.cfg.generation = (clients i).budgetGen ∧ st.cfg.authoritative = true)
    (demand : ∀ st ∈ budgets.states.entries,
      2 * ∑ i, (clients i).amount.value ≤ st.cfg.hardMax.value) :
    (serving ι budgets).Opened clients where
  unreserved := rfl
  forest := forest
  unbooked := fun b st found => unbooked st (Keyed.mem_of_find? found)
  installed := installed
  demand := fun b st found => by
    classical
    have fits := demand st (Keyed.mem_of_find? found)
    have fewer : ∑ i with budgets.InSubtree (clients i).budget b, (clients i).amount.value ≤
        ∑ i, (clients i).amount.value :=
      Finset.sum_le_sum_of_subset_of_nonneg (Finset.filter_subset _ _)
        fun i _ _ => (clients i).amount.nonneg
    change 2 * ∑ i with budgets.InSubtree (clients i).budget b, (clients i).amount.value ≤ _
    linarith
  idle := fun _ => rfl
  unplanned := rfl

/-- Running on along turns that are allowed. -/
theorem reachable_turns {ι : Type} [DecidableEq ι] [Fintype ι] {clients : ι → Client}
    {Meets : Nat → Prop} {s : SharedGovernor ι} {turns : List (ι × ClientArguments)}
    (reached : (clientRuns Meets clients).Reachable s)
    (allowed : Along (SharedGovernor.after clients)
      (fun s turn => s.Allows Meets turn.1 turn.2) s turns) :
    (clientRuns Meets clients).Reachable (turns.foldl (SharedGovernor.after clients) s) := by
  induction turns generalizing s with
  | nil => exact reached
  | cons turn rest inductionHypothesis =>
      obtain ⟨allows, others⟩ := allowed
      exact inductionHypothesis (.step turn reached ⟨allows, rfl⟩) others

/-- Two clients that take 20 W and 30 W. -/
def gpuClients : Bool → Client := fun second =>
  ⟨⟨2⟩, .first, Watts.clamped (if second then 30 else 20)⟩

/-- The two clients after some turns, which they take one after the other. -/
def gpuAfter (rounds : Nat) : SharedGovernor Bool :=
  (List.replicate rounds [(false, gpuArguments), (true, gpuArguments)]).flatten.foldl
    (SharedGovernor.after gpuClients) (serving Bool BudgetManager.twoLevels)

theorem gpuClients_opened : (serving Bool BudgetManager.twoLevels).Opened gpuClients := by
  refine serving_opened (BudgetManager.sound_of_reachable BudgetManager.twoLevels_reachable).forest
    (by decide +kernel) (fun i => ⟨⟨BudgetManager.gpuBudget, Watts.zero, Watts.zero⟩, ?_⟩)
    (by decide +kernel)
  cases i <;> decide +kernel

/-- Both are active at the same time, and both rounds end with nothing booked. -/
theorem clients_end_clean_gpu :
    (gpuAfter 4).governor.budgets.used ⟨2⟩ = Watts.clamped 50 ∧
      (gpuAfter 5).Clean (· < 2 ^ 64) gpuClients ∧
      ∀ b st, (gpuAfter 5).governor.budgets.state? b = some st →
        st.reserved = Watts.zero ∧ st.used = Watts.zero := by
  have known : ∀ i, (gpuClients i).budgetGen.isNull = false := fun _ => rfl
  have clean : (gpuAfter 5).Clean (· < 2 ^ 64) gpuClients :=
    clients_end_clean known (reachable_turns (.start gpuClients_opened) (by decide +kernel))
  have idle : ∀ i, (gpuAfter 5).phases i = .idle := by decide +kernel
  exact ⟨by decide +kernel, clean, (clean.ends idle).1⟩

/-! ## Where the loop fails -/

section

variable {ι : Type} [DecidableEq ι] [Fintype ι] {clients : ι → Client} {s : SharedGovernor ι}

/-- Allowing more plans allows more runs. -/
theorem reachable_mono {Fewer More : Nat → Prop} (more : ∀ n, Fewer n → More n)
    (reached : (clientRuns Fewer clients).Reachable s) : (clientRuns More clients).Reachable s := by
  induction reached with
  | start opened => exact .start opened
  | step turn _ taken inductionHypothesis =>
      obtain ⟨⟨timely, bounded⟩, left⟩ := taken
      exact .step turn inductionHypothesis ⟨⟨timely, fun idle => more _ (bounded idle)⟩, left⟩

/-- One turn of a client takes it to its next phase. -/
theorem reachable_turn (known : ∀ i, (clients i).budgetGen.isNull = false)
    (reached : (clientRuns (· < 2 ^ 64) clients).Reachable s) {i : ι} {a : ClientArguments}
    (allowed : s.Allows (· < 2 ^ 64) i a) :
    ∃ s' result, (clientRuns (· < 2 ^ 64) clients).Reachable s' ∧
      s'.phases i = (s.phases i).next a result ∧ s'.plans = s.plans + (s.phases i).plans := by
  obtain ⟨g, result, called, accepted, _⟩ :=
    (Tracked.of_reachable known reached).turns known allowed
  refine ⟨s.after clients (i, a), result, .step (i, a) reached ⟨allowed, rfl⟩, ?_⟩
  rw [SharedGovernor.after_eq rfl called accepted]
  exact ⟨Function.update_self .., rfl⟩

/-- A client that goes on makes any number of plans. -/
theorem exists_reachable_plans (known : ∀ i, (clients i).budgetGen.isNull = false)
    (opened : s.Opened clients) (i : ι) (a : ClientArguments) {n : Nat} (bounded : n ≤ 2 ^ 64) :
    ∃ s', (clientRuns (· < 2 ^ 64) clients).Reachable s' ∧ s'.phases i = .idle ∧ s'.plans = n := by
  induction n with
  | zero => exact ⟨s, .start opened, opened.idle i, opened.unplanned⟩
  | succ n inductionHypothesis =>
      obtain ⟨s₀, reached₀, phase₀, plans₀⟩ := inductionHypothesis (Nat.le_of_succ_le bounded)
      have timely : a.now.ns - a.now.ns ≤ a.validity.ns := by
        rw [sub_self]
        exact a.validity.nonneg
      obtain ⟨s₁, planned, reached₁, phase₁, plans₁⟩ := reachable_turn known reached₀ (a := a)
        ⟨by rw [phase₀]; trivial, fun _ => by rw [plans₀]; exact bounded⟩
      rw [phase₀] at phase₁ plans₁
      obtain ⟨s₂, _, reached₂, phase₂, plans₂⟩ := reachable_turn known reached₁ (a := a)
        ⟨by rw [phase₁]; trivial, fun idle => by rw [phase₁] at idle; cases idle⟩
      rw [phase₁] at phase₂ plans₂
      obtain ⟨s₃, _, reached₃, phase₃, plans₃⟩ := reachable_turn known reached₂ (a := a)
        ⟨by rw [phase₂]; exact timely, fun idle => by rw [phase₂] at idle; cases idle⟩
      rw [phase₂] at phase₃ plans₃
      obtain ⟨s₄, _, reached₄, phase₄, plans₄⟩ := reachable_turn known reached₃ (a := a)
        ⟨by rw [phase₃]; exact timely, fun idle => by rw [phase₃] at idle; cases idle⟩
      rw [phase₃] at phase₄ plans₄
      obtain ⟨s₅, _, reached₅, phase₅, plans₅⟩ := reachable_turn known reached₄ (a := a)
        ⟨by rw [phase₄]; trivial, fun idle => by rw [phase₄] at idle; cases idle⟩
      rw [phase₄] at phase₅ plans₅
      refine ⟨s₅, reached₅, phase₅, ?_⟩
      simp only [ClientPhase.next, ClientPhase.plans] at plans₁ plans₂ plans₃ plans₄ plans₅
      omega

omit [DecidableEq ι] in
/-- After 2^64 plans the next id is taken. -/
theorem plan_refused_of_wrapped (tracked : Tracked clients s) (plans : s.plans = 2 ^ 64) {i : ι}
    (idle : s.phases i = .idle) (a : ClientArguments) :
    ¬ ∃ g result, (s.phases i).call (clients i) a s.governor = .ok (g, result) ∧
      result.ok = true := by
  obtain ⟨first, allocator, ids⟩ := tracked.drawn
  have zero : UInt64.ofNat s.plans = UInt64.ofNat 0 := by
    rw [plans]
    rfl
  have taken : (⟨s.governor.ids.reservation⟩ : ReservationId) ∈ s.governor.reservations.ids := by
    rw [ids, allocator, zero]
    have some : 0 < s.plans := plans ▸ Nat.two_pow_pos 64
    exact List.mem_map.mpr ⟨0, List.mem_range.mpr some, rfl⟩
  rintro ⟨g, result, called, accepted⟩
  rw [idle] at called
  obtain ⟨refused, rm, planned, _, outcome⟩ := s.governor.reservations.plan_cases s.governor.ids
    a.workload a.powerClass a.scope (clients i).budget (clients i).amount a.energy a.policyGen
    a.deviceGen s.governor.authority.envelope a.now a.validity
  have rejected : refused.ok = false := by
    rcases outcome with ⟨_, rejected, _⟩ | ⟨free, _⟩
    · exact rejected
    · exact absurd taken free
  unfold ClientPhase.call Governor.planReservation at called
  simp only [planned, rejected, Bool.false_eq_true, if_false, Except.ok.injEq, Prod.mk.injEq]
    at called
  rw [← called.2, rejected] at accepted
  cases accepted

end

/-- One client of the accelerator. -/
def gpuClient : Unit → Client := fun _ => ⟨⟨2⟩, .first, Watts.clamped 20⟩

theorem gpuClient_opened : (serving Unit BudgetManager.twoLevels).Opened gpuClient := by
  refine serving_opened (BudgetManager.sound_of_reachable BudgetManager.twoLevels_reachable).forest
    (by decide +kernel) (fun _ => ⟨⟨BudgetManager.gpuBudget, Watts.zero, Watts.zero⟩, ?_⟩)
    (by decide +kernel)
  decide +kernel +revert

/-- A client of a budget that is installed under the null generation. -/
def nullClient : Unit → Client := fun _ => ⟨⟨1⟩, .null, Watts.clamped 20⟩

def nullBudgets : BudgetManager :=
  (BudgetManager.empty.install
    { PowerBudget.blank with id := ⟨1⟩, hardMax := Watts.clamped 100 }).1

/-- Its state after some calls. -/
def nullAfter (calls : Nat) : SharedGovernor Unit :=
  (List.replicate calls ((), gpuArguments)).foldl (SharedGovernor.after nullClient)
    (serving Unit nullBudgets)

def nullTicket : Ticket := ⟨⟨1⟩, .first, planTime, planValidity⟩

theorem nullAfter_reachable : (clientRuns (· < 2 ^ 64) nullClient).Reachable (nullAfter 4) := by
  have opened : (serving Unit nullBudgets).Opened nullClient := by
    refine serving_opened (BudgetManager.forest_of_ordered (by decide +kernel))
      (by decide +kernel) (fun _ => ⟨⟨{ PowerBudget.blank with
        id := ⟨1⟩, hardMax := Watts.clamped 100 }, Watts.zero, Watts.zero⟩, ?_⟩)
      (by decide +kernel)
    decide +kernel +revert
  have stands : (nullAfter 0).phases () = .idle ∧
      (nullAfter 1).phases () = .planned nullTicket ∧
      (nullAfter 2).phases () = .validated nullTicket ∧
      (nullAfter 3).phases () = .reserved nullTicket := by decide +kernel
  obtain ⟨idle, planned, validated, reserved⟩ := stands
  have timely : gpuArguments.now.ns - nullTicket.planned.ns ≤ nullTicket.validity.ns := by decide
  have first : (nullAfter 0).Allows (· < 2 ^ 64) () gpuArguments :=
    ⟨by rw [idle]; trivial, fun _ => Nat.two_pow_pos 64⟩
  have second : (nullAfter 1).Allows (· < 2 ^ 64) () gpuArguments :=
    ⟨by rw [planned]; trivial, fun other => by rw [planned] at other; cases other⟩
  have third : (nullAfter 2).Allows (· < 2 ^ 64) () gpuArguments :=
    ⟨by rw [validated]; exact timely, fun other => by rw [validated] at other; cases other⟩
  have fourth : (nullAfter 3).Allows (· < 2 ^ 64) () gpuArguments :=
    ⟨by rw [reserved]; exact timely, fun other => by rw [reserved] at other; cases other⟩
  let runs := clientRuns (· < 2 ^ 64) nullClient
  have reached : runs.Reachable (nullAfter 0) := .start opened
  have reached : runs.Reachable (nullAfter 1) := .step ((), gpuArguments) reached ⟨first, rfl⟩
  have reached : runs.Reachable (nullAfter 2) := .step ((), gpuArguments) reached ⟨second, rfl⟩
  have reached : runs.Reachable (nullAfter 3) := .step ((), gpuArguments) reached ⟨third, rfl⟩
  exact .step ((), gpuArguments) reached ⟨fourth, rfl⟩

/-- The release of a client under the null generation is refused, and so is the
plan after 2^64 plans. -/
theorem clients_fail :
    (¬ ∀ (clients : Unit → Client) s, (clientRuns (· < 2 ^ 64) clients).Reachable s →
      s.Clean (· < 2 ^ 64) clients) ∧
    ¬ ∀ (clients : Unit → Client) s, (∀ i, (clients i).budgetGen.isNull = false) →
      (clientRuns (fun _ => True) clients).Reachable s → s.Clean (fun _ => True) clients := by
  constructor
  · intro always
    have clean := always nullClient (nullAfter 4) nullAfter_reachable
    have active : (nullAfter 4).phases () = .active nullTicket := by decide +kernel
    have refused : (((nullAfter 4).phases ()).call (nullClient ()) gpuArguments
        (nullAfter 4).governor).toOption.map (fun outcome => outcome.2.ok) = some false := by
      decide +kernel
    have allowed : (nullAfter 4).Allows (· < 2 ^ 64) () gpuArguments :=
      ⟨by rw [active]; trivial, fun other => by rw [active] at other; cases other⟩
    obtain ⟨g, result, called, accepted⟩ := clean.succeeds () gpuArguments allowed
    rw [called] at refused
    have rejected : result.ok = false := Option.some.inj refused
    rw [rejected] at accepted
    cases accepted
  · intro always
    have known : ∀ i, (gpuClient i).budgetGen.isNull = false := fun _ => rfl
    obtain ⟨s, reached, idle, plans⟩ :=
      exists_reachable_plans known gpuClient_opened () gpuArguments (le_refl _)
    have clean := always gpuClient s known (reachable_mono (fun _ _ => trivial) reached)
    refine plan_refused_of_wrapped (Tracked.of_reachable known reached) plans idle gpuArguments
      (clean.succeeds () gpuArguments ⟨?_, fun _ => trivial⟩)
    rw [idle]
    trivial

end PowerGovernor
