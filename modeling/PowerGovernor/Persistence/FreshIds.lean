import PowerGovernor.Governor.Lifecycle
import PowerGovernor.Persistence.LoadedState
import PowerGovernor.Persistence.Loading
import PowerGovernor.Reservation.Identity

/-!
Fresh reservation ids.

Owns the link between the id allocator and the ids of the reservations, the
condition under which every step of a run keeps it, and what follows: planning
succeeds with an id no reservation had. A recovery does not know the allocator
and can bring the ids it will draw.
-/

set_option autoImplicit false

namespace PowerGovernor

namespace Governor

/-- The allocator is past the id of every reservation. -/
def IdsAhead (g : Governor) : Prop :=
  ∀ id ∈ g.reservations.ids, id.raw.toNat < g.ids.reservation.toNat

/-- A load of these bytes restores these reservations before it ends. -/
def Restores (g : Governor) (bytes : Bytes) (reservations : List Reservation) : Prop :=
  ∃ envelope header rest caps rest', decodeEnvelope bytes = .ok envelope ∧
    decodeHeader.run envelope.blob = .ok (header, rest) ∧
    (ByteReader.readAll decodeCap 4).run rest = .ok (caps, rest') ∧
    g.ReachesReservations rest' reservations

/-- No restored reservation has an id the allocator has yet to draw. -/
def RestoresBehind (g : Governor) (file : Option Bytes) : Prop :=
  ∀ bytes, file = some bytes → ∀ reservations, g.Restores bytes reservations →
    ∀ r ∈ reservations, r.id.raw.toNat < g.ids.reservation.toNat

end Governor

/-- The call keeps the allocator ahead: a plan does not exhaust it, and a load
brings no id it has yet to draw. -/
def GovernorCall.KeepsAhead (g : Governor) : GovernorCall → Prop
  | .planReservation .. => g.ids.reservation.toNat + 1 < 2 ^ 64
  | .load file _ => g.RestoresBehind file
  | _ => True

/-- A call that draws a reservation id. -/
def GovernorCall.Plans : GovernorCall → Prop
  | .planReservation .. => True
  | _ => False

/-- The runs of a Governor whose calls keep the allocator ahead. The allocator may
have served other Governors before. -/
def planningRuns : TransitionSystem Governor GovernorCall where
  init := fun g => ∃ cfg ids, g = .construct cfg ids
  step := fun g call g' => call.KeepsAhead g ∧ g' = call.after g

/-! ## Call by call -/

namespace Governor

variable {g g' : Governor}

theorem IdsAhead.of_same (ahead : g.IdsAhead) (ids : g'.reservations.ids = g.reservations.ids)
    (allocator : g'.ids.reservation = g.ids.reservation) : g'.IdsAhead := by
  unfold IdsAhead
  rw [ids, allocator]
  exact ahead

theorem frame_installPolicy (g : Governor) (p : PowerPolicy) :
    (g.installPolicy p).1.reservations = g.reservations ∧ (g.installPolicy p).1.ids = g.ids := by
  rcases g.installPolicy_cases p with ⟨_, installed⟩ | ⟨_, refused⟩
  · rw [installed]
    exact ⟨rfl, rfl⟩
  · rw [refused]
    exact ⟨rfl, rfl⟩

/-- Planning draws the next id and is refused exactly when a reservation has it. -/
theorem drawn_planReservation (g : Governor) (workload : WorkloadId)
    (powerClass : WorkloadPowerClass) (scope : PowerDomainId) (budget : BudgetId) (power : Watts)
    (energy : Joules) (policyGen : PolicyGeneration) (deviceGen : DeviceGeneration)
    (now : Timestamp) (validity : Duration) :
    let planned := g.planReservation workload powerClass scope budget power energy policyGen
      deviceGen now validity
    planned.2.id = ⟨g.ids.reservation⟩ ∧
      planned.1.ids.reservation = g.ids.reservation + 1 ∧
      ((⟨g.ids.reservation⟩ ∈ g.reservations.ids ∧ planned.2.ok = false ∧
          planned.1.reservations.ids = g.reservations.ids) ∨
        (⟨g.ids.reservation⟩ ∉ g.reservations.ids ∧ planned.2.ok = true ∧
          planned.1.reservations.ids = g.reservations.ids ++ [⟨g.ids.reservation⟩])) := by
  obtain ⟨result, rm, planned, drawn, outcome⟩ := g.reservations.plan_cases g.ids workload
    powerClass scope budget power energy policyGen deviceGen g.authority.envelope now validity
  unfold planReservation
  rw [planned]
  dsimp only
  split
  · exact ⟨drawn, rfl, outcome⟩
  · exact ⟨drawn, rfl, outcome⟩

theorem IdsAhead.plan (ahead : g.IdsAhead) (bounded : g.ids.reservation.toNat + 1 < 2 ^ 64)
    (allocator : g'.ids.reservation = g.ids.reservation + 1)
    (ids : g'.reservations.ids = g.reservations.ids ∨
      g'.reservations.ids = g.reservations.ids ++ [⟨g.ids.reservation⟩]) : g'.IdsAhead := by
  have next : g'.ids.reservation.toNat = g.ids.reservation.toNat + 1 := by
    rw [allocator, UInt64.toNat_add, UInt64.toNat_one]
    omega
  unfold IdsAhead
  rw [next]
  have old : ∀ id ∈ g.reservations.ids, id.raw.toNat < g.ids.reservation.toNat + 1 :=
    fun id member => Nat.lt_succ_of_lt (ahead id member)
  rcases ids with same | added
  · rw [same]
    exact old
  · rw [added]
    intro id member
    rcases List.mem_append.mp member with before | drawn
    · exact old id before
    · rw [List.mem_singleton.mp drawn]
      exact Nat.lt_succ_self _

/-! ## Recoveries -/

/-- What a load leaves of the reservations, their index and the budgets. -/
theorem restored_load (g : Governor) (bytes : Bytes) (now : Timestamp) :
    ∃ m reservations, (reservations = [] ∨ g.Restores bytes reservations) ∧
      g.reservations.map.Fresh reservations ∧
        (g.load (some bytes) now).2.restored =
          reservations.foldl Restored.add ⟨g.reservations, g.resIndex, m⟩ := by
  have nothing : g.reservations.map.Fresh [] := ⟨List.nodup_nil, fun _ member => nomatch member⟩
  cases decoded : decodeEnvelope bytes with
  | error text =>
      have untouched : (g.load (some bytes) now).2 = g := by
        unfold load
        dsimp only
        rw [decoded]
      rw [untouched]
      exact ⟨g.budgets, [], .inl rfl, nothing, rfl⟩
  | ok envelope =>
      rw [view_load restored (fun _ => rfl) decoded g now]
      rcases exec_decodeSections_cases g now envelope.blob with
        ⟨e, _, exec⟩ | ⟨header, rest, read, after⟩
      · rw [exec]
        exact ⟨g.budgets, [], .inl rfl, nothing, rfl⟩
      rcases after with ⟨e, _, exec⟩ | ⟨policy, rest', readPolicy, exec⟩
      · rw [exec]
        exact ⟨g.budgets, [], .inl rfl, nothing, rfl⟩
      · rw [exec]
        obtain ⟨caps, readCaps, _⟩ := decodePolicy_eq_ok.mp readPolicy
        obtain ⟨_, m, reservations, _, reached, fresh, left⟩ :=
          restored_fromBudgets ((g.withHeader header).writePolicy policy) now rest'
        refine ⟨m, reservations, ?_, fresh, left⟩
        rcases reached with none | reached
        · exact .inl none
        · exact .inr ⟨envelope, header, rest, caps, rest', decoded, read, readCaps, reached⟩

/-- A load draws no reservation id. -/
theorem allocator_load (g : Governor) (bytes : Bytes) (now : Timestamp) :
    (g.load (some bytes) now).2.ids.reservation = g.ids.reservation := by
  cases decoded : decodeEnvelope bytes with
  | error text =>
      unfold load
      dsimp only
      rw [decoded]
  | ok envelope =>
      rw [view_load (fun g => g.ids.reservation) (fun _ => rfl) decoded g now]
      rcases exec_decodeSections_cases g now envelope.blob with
        ⟨e, _, exec⟩ | ⟨header, rest, _, ⟨e, _, exec⟩ | ⟨policy, rest', _, exec⟩⟩
      · rw [exec]
      · rw [exec]
        rfl
      · rw [exec]
        have kept : Stateful.Keeps (fun g : Governor => g.ids.reservation)
            (fromBudgets now rest') :=
          keeps_fromBudgets (fun _ _ => rfl) (fun _ _ => rfl) (fun _ _ => rfl) now rest'
        exact kept _

/-- A load adds the reservations it restores. -/
theorem ids_load (g : Governor) (bytes : Bytes) (now : Timestamp) :
    ∃ reservations, (reservations = [] ∨ g.Restores bytes reservations) ∧
      (g.load (some bytes) now).2.reservations.ids =
        g.reservations.ids ++ reservations.map Reservation.id := by
  obtain ⟨m, reservations, reached, fresh, left⟩ := g.restored_load bytes now
  refine ⟨reservations, reached, ?_⟩
  have entries : (g.load (some bytes) now).2.reservations.map =
      reservations.foldl Keyed.emplace g.reservations.map :=
    (congrArg (fun s : Restored => s.reservations.map) left).trans
      (reservations_foldl_add _ reservations)
  unfold ReservationManager.ids
  rw [entries, Keyed.entries_foldl_emplace fresh, List.map_append]

/-- Of a file that can be read to its end, a load restores the first reservations. -/
theorem Restores.isFirst {g : Governor} {bytes : Bytes} {reservations : List Reservation}
    (restores : g.Restores bytes reservations) {file : StateFile}
    (contents : StateFile.ofBytes bytes = some file) : reservations <+: file.reservations := by
  obtain ⟨envelope, header, rest, caps, rest', decoded, read, readCaps, reached⟩ := restores
  obtain ⟨envelope', decoded', whole⟩ := StateFile.ofBytes_eq_some.mp contents
  obtain rfl := Except.ok.inj (decoded.symm.trans decoded')
  obtain ⟨_, _, _, _, read', readCaps', readBudgets', readReservations, _⟩ :=
    StateFile.reader_eq_ok.mp whole
  obtain ⟨rfl, rfl⟩ := Prod.mk.inj (Except.ok.inj (read.symm.trans read'))
  obtain ⟨rfl, rfl⟩ := Prod.mk.inj (Except.ok.inj (readCaps.symm.trans readCaps'))
  obtain ⟨budgets, rest'', m, readBudgets, _, _, _, first⟩ := reached
  obtain ⟨rfl, rfl⟩ := Prod.mk.inj (Except.ok.inj (readBudgets.symm.trans readBudgets'))
  rcases first with none | ⟨count, after, counted, k, below, middle, some⟩
  · rw [none]
    exact List.nil_prefix
  · obtain ⟨_, _, counted', all⟩ := readRecords_eq_ok.mp readReservations
    obtain ⟨rfl, rfl⟩ := Prod.mk.inj (Except.ok.inj (counted.symm.trans counted'))
    exact ByteReader.readAll_first below some all

/-- Whatever a load restores before it ends is in the Governor afterwards. -/
theorem Restores.restored {g : Governor} {bytes : Bytes} {reservations : List Reservation}
    (restores : g.Restores bytes reservations) (now : Timestamp) {r : Reservation}
    (member : r ∈ reservations) :
    r ∈ (g.load (some bytes) now).2.reservations.map.entries := by
  obtain ⟨envelope, header, rest, caps, rest', decoded, read, readCaps, reached⟩ := restores
  have recovered := view_load (fun g => g.reservations.map.entries) (fun _ => rfl) decoded g now
  rw [recovered]
  rcases exec_decodeSections_cases g now envelope.blob with
    ⟨e, unread, _⟩ | ⟨header', rest'', read', after⟩
  · rw [read] at unread
    cases unread
  obtain ⟨rfl, rfl⟩ := Prod.mk.inj (Except.ok.inj (read.symm.trans read'))
  have readPolicy : (decodePolicy ⟨g.ids.policy + 1⟩ header).run rest =
      .ok (policyWithCaps ⟨g.ids.policy + 1⟩ header caps, rest') :=
    decodePolicy_eq_ok.mpr ⟨caps, readCaps, rfl⟩
  rcases after with ⟨e, unread, _⟩ | ⟨policy, rest''', readPolicy', exec⟩
  · rw [readPolicy] at unread
    cases unread
  · obtain ⟨rfl, rfl⟩ := Prod.mk.inj (Except.ok.inj (readPolicy.symm.trans readPolicy'))
    rw [exec]
    exact ReachesReservations.restored (g := (g.withHeader header).writePolicy _) reached now member

/-- A load that brings no id the allocator has yet to draw keeps it ahead. -/
theorem IdsAhead.load (ahead : g.IdsAhead) {file : Option Bytes} (behind : g.RestoresBehind file)
    (now : Timestamp) : (g.load file now).2.IdsAhead := by
  cases file with
  | none => exact ahead
  | some bytes =>
      obtain ⟨reservations, restored, ids⟩ := g.ids_load bytes now
      unfold IdsAhead
      rw [g.allocator_load bytes now, ids]
      intro id member
      rcases List.mem_append.mp member with before | added
      · exact ahead id before
      · obtain ⟨r, mine, rfl⟩ := List.mem_map.mp added
        rcases restored with none | restored
        · rw [none] at mine
          cases mine
        · exact behind bytes rfl reservations restored r mine

end Governor

/-! ## Runs -/

/-- Every call that meets the condition keeps the allocator ahead. -/
theorem Governor.IdsAhead.after {g : Governor} (ahead : g.IdsAhead) {call : GovernorCall}
    (keeps : call.KeepsAhead g) : (call.after g).IdsAhead := by
  have known : ∀ lifecycleCall, call.lifecycle g = some lifecycleCall →
      lifecycleCall.plans = false → (call.after g).IdsAhead := by
    intro lifecycleCall is other
    have books := GovernorCall.books_after is
    obtain ⟨reservations, allocators⟩ := ReservationCall.ids_after (s := g.books) other
    apply ahead.of_same
    · exact (congrArg (fun s : Books => s.reservations.ids) books).trans reservations
    · exact congrArg Allocators.reservation ((congrArg Books.ids books).trans allocators)
  cases call with
  | installPolicy p =>
      obtain ⟨reservations, ids⟩ := g.frame_installPolicy p
      exact ahead.of_same (congrArg ReservationManager.ids reservations)
        (congrArg Allocators.reservation ids)
  | planReservation workload powerClass scope budget power energy policyGen deviceGen now
      validity =>
      obtain ⟨_, allocator, outcome⟩ := g.drawn_planReservation workload powerClass scope budget
        power energy policyGen deviceGen now validity
      apply ahead.plan keeps allocator
      rcases outcome with ⟨_, _, same⟩ | ⟨_, _, added⟩
      · exact .inl same
      · exact .inr added
  | validateReservation => exact known _ rfl rfl
  | reserveReservation => exact known _ rfl rfl
  | admitReservation => exact known _ rfl rfl
  | activateReservation => exact known _ rfl rfl
  | releaseReservation => exact known _ rfl rfl
  | observeBackend sample now =>
      obtain ⟨generation, left⟩ := Governor.observeBackend_leaves sample now g
      exact ahead.of_same (congrArg (fun g => g.reservations.ids) left)
        (congrArg (fun g => g.ids.reservation) left)
  | decideFor budget workload cls requested requestedEnergy duration now =>
      obtain ⟨burst, engine, ids, drawn, left⟩ := Governor.decideFor_leaves budget workload cls
        requested requestedEnergy duration now g
      apply ahead.of_same
      · exact congrArg (fun g => g.reservations.ids) left
      · refine (congrArg (fun g => g.ids.reservation) left).trans ?_
        rcases drawn with rfl | rfl <;> rfl
  | load file now => exact ahead.load keeps now
  | _ => exact ahead

namespace Governor

/-- In every state of a run whose calls keep the allocator ahead, planning succeeds
with an id that no reservation had. -/
theorem plan_fresh {g : Governor} (reached : planningRuns.Reachable g) (workload : WorkloadId)
    (powerClass : WorkloadPowerClass) (scope : PowerDomainId) (budget : BudgetId) (power : Watts)
    (energy : Joules) (policyGen : PolicyGeneration) (deviceGen : DeviceGeneration)
    (now : Timestamp) (validity : Duration) :
    let planned := g.planReservation workload powerClass scope budget power energy policyGen
      deviceGen now validity
    planned.2.ok = true ∧ g.reservations.find? planned.2.id = none := by
  have ahead : g.IdsAhead := by
    refine reached.invariant IdsAhead ?_ ?_
    · rintro g ⟨cfg, ids, rfl⟩ id member
      cases member
    · rintro g call g' ahead ⟨keeps, rfl⟩
      exact ahead.after keeps
  obtain ⟨drawn, _, outcome⟩ := g.drawn_planReservation workload powerClass scope budget power
    energy policyGen deviceGen now validity
  rcases outcome with ⟨taken, _⟩ | ⟨free, accepted, _⟩
  · exact absurd (ahead _ taken) (lt_irrefl _)
  · refine ⟨accepted, ?_⟩
    rw [drawn]
    exact ReservationManager.find?_eq_none_iff.mpr free

/-- An allocator that has served another Governor, of which reservation 1 was saved. -/
def servedAllocators : Allocators := { Allocators.start with reservation := 3 }

/-- A Governor on that allocator that loads the saved reservation. -/
def loadedBehind : Governor :=
  (GovernorCall.load (some (fileWith [namedBudget] [heldReservation] [])) Timestamp.zero).after
    (.construct ⟨⟨1⟩, ⟨1⟩, .first⟩ servedAllocators)

theorem plan_fresh_loadedBehind :
    loadedBehind.reservations.ids = [⟨1⟩] ∧
    (loadedBehind.planReservation ⟨1⟩ .throughput ⟨0⟩ ⟨2⟩ (Watts.clamped 10) Joules.zero .first
      .null Timestamp.zero Duration.oneSecond).2.ok = true := by
  have contents : StateFile.ofBytes (fileWith [namedBudget] [heldReservation] []) =
      some ⟨⟨⟨1⟩, ⟨1⟩, ⟨1⟩, ⟨0⟩, []⟩, [none, none, none, none], [namedBudget.stored],
        [heldReservation.stored], []⟩ := by decide +kernel
  have reached : planningRuns.Reachable loadedBehind := by
    refine .step (.load (some (fileWith [namedBudget] [heldReservation] [])) Timestamp.zero)
      (.start ⟨_, _, rfl⟩) ⟨?_, rfl⟩
    rintro bytes ⟨⟩ reservations restores r member
    have held := (restores.isFirst contents).subset member
    rw [List.mem_singleton.mp held]
    decide
  exact ⟨by decide +kernel, (plan_fresh reached _ _ _ _ _ _ _ _ _ _).1⟩

/-- A fresh process that loads reservation 1 draws that id for its first plan. -/
theorem plan_collides_after_load :
    ¬ ∀ (cfg : GovernorConfig) (calls : List GovernorCall),
      ((calls.foldl GovernorCall.after (construct cfg .start)).planReservation ⟨1⟩
        .throughput ⟨0⟩ ⟨2⟩ (Watts.clamped 10) Joules.zero .first .null Timestamp.zero
        Duration.oneSecond).2.ok = true := by
  intro claimed
  have planned := claimed ⟨⟨1⟩, ⟨1⟩, .first⟩
    [.load (some (fileWith [namedBudget] [heldReservation] [])) Timestamp.zero]
  revert planned
  decide +kernel

/-! ## No other condition would do -/

/-- The allocator draws the ids in turn, so it comes to any id that was restored
ahead of it, and that plan is refused. -/
theorem plan_refused_at_restored {g : Governor} {id : ReservationId}
    (known : id ∈ g.reservations.ids) {plans : List GovernorCall}
    (planning : ∀ call ∈ plans, call.Plans)
    (meets : g.ids.reservation.toNat + plans.length = id.raw.toNat) (workload : WorkloadId)
    (powerClass : WorkloadPowerClass) (scope : PowerDomainId) (budget : BudgetId) (power : Watts)
    (energy : Joules) (policyGen : PolicyGeneration) (deviceGen : DeviceGeneration)
    (now : Timestamp) (validity : Duration) :
    ((plans.foldl GovernorCall.after g).planReservation workload powerClass scope budget power
      energy policyGen deviceGen now validity).2.ok = false := by
  induction plans generalizing g with
  | nil =>
      have drawn : (⟨g.ids.reservation⟩ : ReservationId) = id :=
        congrArg StrongId.mk (UInt64.toNat_inj.mp meets)
      obtain ⟨_, _, outcome⟩ := g.drawn_planReservation workload powerClass scope budget power
        energy policyGen deviceGen now validity
      rcases outcome with ⟨_, refused, _⟩ | ⟨free, _⟩
      · exact refused
      · exact absurd (drawn ▸ known) free
  | cons call rest inductionHypothesis =>
      cases call with
      | planReservation =>
          obtain ⟨_, allocator, outcome⟩ := g.drawn_planReservation _ _ _ _ _ _ _ _ _ _
          have bounded := id.raw.toNat_lt
          rw [List.length_cons] at meets
          have next := congrArg UInt64.toNat allocator
          rw [UInt64.toNat_add, UInt64.toNat_one, Nat.mod_eq_of_lt (by omega)] at next
          apply inductionHypothesis
          · rcases outcome with ⟨_, _, same⟩ | ⟨_, _, added⟩
            · exact same ▸ known
            · exact added ▸ List.mem_append_left _ known
          · exact fun other member => planning other (List.mem_cons_of_mem _ member)
          · refine (congrArg (· + rest.length) next).trans ?_
            omega
      | _ => exact (planning _ List.mem_cons_self).elim

end Governor

end PowerGovernor
