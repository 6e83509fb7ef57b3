import PowerGovernor.Persistence.FreshIds

/-!
The reservation index over runs of a Governor.

Owns the agreement of the index lists with the reservations, the exact condition
under which a call keeps it, and the agreement along a run. The index is updated
only after an accepted operation, while a refused one can mark its reservation
expired, and it skips a null id, under which a file can bring a reservation.
-/

set_option autoImplicit false

namespace PowerGovernor

/-- What the index stores of a reservation. -/
def Reservation.indexEntry (r : Reservation) : IndexEntry := ⟨r.id, r.budget, r.workload, r.state⟩

@[simp] theorem Reservation.indexEntry_id (r : Reservation) : r.indexEntry.id = r.id := rfl

namespace ReservationIndex

open Reservation (indexEntry_id)

/-- Each list holds the ids of the reservations it stands for, each once, and no other. -/
structure Mirrors (index : ReservationIndex) (rm : ReservationManager) : Prop where
  byBudget : Buckets.Sorts index.byBudget fun id => (rm.find? id).map Reservation.budget
  byWorkload : Buckets.Sorts index.byWorkload fun id => (rm.find? id).map Reservation.workload
  byState : Buckets.Sorts index.byState fun id => (rm.find? id).map Reservation.state

/-- The members of a sound index have reservations. -/
structure Covered (index : ReservationIndex) (rm : ReservationManager) : Prop where
  sound : index.Sound
  absent : ∀ id, rm.find? id = none → index.members.find? id = none

/-- The members of a sound index are the reservations as they are now. -/
structure Tracks (index : ReservationIndex) (rm : ReservationManager) : Prop where
  sound : index.Sound
  current : ∀ id, index.members.find? id = (rm.find? id).map Reservation.indexEntry

variable {index : ReservationIndex} {rm rm' : ReservationManager} {id : ReservationId}
  {r r' : Reservation}

theorem tracks_empty : empty.Tracks .empty := ⟨sound_empty, fun _ => rfl⟩

theorem Tracks.mirrors (tracks : index.Tracks rm) : index.Mirrors rm := by
  have labels : ∀ {T : Type} (label : IndexEntry → T),
      (fun id => (index.members.find? id).map label) =
        fun id => (rm.find? id).map fun r => label r.indexEntry := by
    intro T label
    funext id
    rw [tracks.current, Option.map_map]
    rfl
  obtain ⟨_, budgets, workloads, states⟩ := tracks.sound
  rw [labels] at budgets workloads states
  exact ⟨budgets, workloads, states⟩

theorem Tracks.covered (tracks : index.Tracks rm) : index.Covered rm := by
  refine ⟨tracks.sound, fun id absent => ?_⟩
  rw [tracks.current, absent, Option.map_none]

theorem Tracks.valid (tracks : index.Tracks rm) (found : rm.find? id = some r) :
    id.isValid = true := by
  have member := tracks.current id
  rw [found] at member
  exact tracks.sound.valid id _ member

/-! ## What breaks the agreement -/

/-- A reservation whose state the index has not followed. -/
theorem Tracks.not_mirrors_of_moved (tracks : index.Tracks rm) (found : rm.find? id = some r)
    (found' : rm'.find? id = some r') (moved : r'.state ≠ r.state) : ¬ index.Mirrors rm' := by
  intro mirrors
  have expected := mirrors.byState r'.state id
  have listed := tracks.sound.byState r'.state id
  simp only [found', Option.map_some, if_true] at expected
  simp only [tracks.current, found, Option.map_some, Reservation.indexEntry, Option.some.injEq,
    Ne.symm moved, if_false] at listed
  omega

/-- A reservation under the null id. -/
theorem Sound.not_mirrors_of_null (sound : index.Sound) (found : rm.find? id = some r)
    (null : id.isValid = false) : ¬ index.Mirrors rm := by
  intro mirrors
  have absent : index.members.find? id = none := by
    cases member : index.members.find? id with
    | none => rfl
    | some entry =>
        rw [sound.valid id entry member] at null
        cases null
  have expected := mirrors.byBudget r.budget id
  have listed := sound.byBudget r.budget id
  simp only [found, Option.map_some, if_true] at expected
  simp only [absent, Option.map_none, reduceCtorEq, if_false] at listed
  omega

/-! ## What keeps it -/

/-- A new reservation is entered. -/
theorem Tracks.add (tracks : index.Tracks rm) (fresh : rm.find? r.id = none)
    (valid : r.id.isValid = true) : (index.add r.indexEntry).Tracks ⟨rm.map.emplace r⟩ := by
  refine ⟨tracks.sound.add valid (tracks.covered.absent r.id fresh), fun id => ?_⟩
  have entered : (ReservationManager.mk (rm.map.emplace r)).find? id =
      if id = r.id then some r else rm.find? id := Keyed.find?_emplace fresh id
  rw [members_add valid, Keyed.find?_assign, entered, tracks.current]
  change (if id = r.id then _ else _) = _
  split <;> rfl

/-- A new reservation under any id is entered or skipped. -/
theorem Covered.add (covered : index.Covered rm) (fresh : rm.find? r.id = none) :
    (index.add r.indexEntry).Covered ⟨rm.map.emplace r⟩ := by
  have entered : ∀ id, (ReservationManager.mk (rm.map.emplace r)).find? id =
      if id = r.id then some r else rm.find? id := Keyed.find?_emplace fresh
  cases valid : r.id.isValid with
  | false =>
      have skipped : index.add r.indexEntry = index := add_of_null valid
      rw [skipped]
      refine ⟨covered.sound, fun id absent => covered.absent id ?_⟩
      rw [entered] at absent
      split at absent
      · cases absent
      · exact absent
  | true =>
      refine ⟨covered.sound.add valid (covered.absent r.id fresh), fun id absent => ?_⟩
      rw [entered] at absent
      split at absent
      · cases absent
      · rename_i other
        rw [members_add valid, Keyed.find?_assign, indexEntry_id, if_neg other]
        exact covered.absent id absent

/-- A written reservation is followed. -/
theorem Tracks.write (tracks : index.Tracks rm) (found : rm.find? id = some r) (own : r'.id = id)
    (written : ∀ other, rm'.find? other = if other = id then some r' else rm.find? other) :
    (index.setState r'.indexEntry).Tracks rm' := by
  have valid : r'.indexEntry.id.isValid = true := by
    rw [indexEntry_id, own]
    exact tracks.valid found
  refine ⟨tracks.sound.setState valid, fun other => ?_⟩
  rw [members_setState valid, Keyed.find?_assign, indexEntry_id, own, written, tracks.current]
  split <;> rfl

end ReservationIndex

namespace ReservationCall

variable {s s' : Books} {call : ReservationCall} {result : ReservationResult}

/-- The call finds its reservation past the validity. -/
def Expires (s : Books) : ReservationCall → Prop
  | .reserve id _ now => ∃ r, s.reservations.find? id = some r ∧
      (r.state = .planned ∨ r.state = .validated) ∧ r.expired now = .ok true
  | call => ∃ r, call.Lapses s r

/-- The state an accepted call writes. -/
def target : ReservationCall → Option ReservationState
  | .validate .. => some .validated
  | .reserve .. => some .reserved
  | .admitReservation .. => some .admitted
  | .activate .. => some .active
  | .release .. => some .released
  | .plan .. | .accountEnergy .. => none

/-- Such a call is refused and marks the reservation. -/
theorem exec_of_expires (expires : call.Expires s) :
    (∃ r, s.reservations.find? (call.named s) = some r ∧ r.state ≠ .expired) ∧
      call.exec s = .ok (.refused "reservation expired",
        s.write (call.named s) .lapsed Reservation.lapsed_id s.budgets) := by
  cases call with
  | reserve id budgetGen now =>
      obtain ⟨r, found, early, expired⟩ := expires
      have reservable : ¬ (r.state ≠ .validated ∧ r.state ≠ .planned) := by
        rcases early with state | state <;> simp [state]
      refine ⟨⟨r, found, by rcases early with state | state <;> simp [state]⟩, ?_⟩
      dsimp only [exec, ReservationManager.reserve]
      rw [ReservationManager.mutableGet_eq_ok.mpr found]
      simp only [bind, Except.bind, if_neg reservable, expired, if_true]
      rfl
  | admitReservation id now =>
      obtain ⟨r, found, reserved, expired⟩ := expires
      refine ⟨⟨r, found, by simp [reserved]⟩, ?_⟩
      dsimp only [exec, ReservationManager.admitReservation]
      rw [ReservationManager.mutableGet_eq_ok.mpr found]
      simp only [bind, Except.bind, if_neg (not_not.mpr reserved), expired, if_true]
      rfl
  | activate id budgetGen now =>
      obtain ⟨r, found, held, expired⟩ := expires
      have activatable : ¬ (r.state ≠ .admitted ∧ r.state ≠ .reserved) := by
        rcases held with state | state <;> simp [state]
      refine ⟨⟨r, found, by rcases held with state | state <;> simp [state]⟩, ?_⟩
      dsimp only [exec, ReservationManager.activate]
      rw [ReservationManager.mutableGet_eq_ok.mpr found]
      simp only [bind, Except.bind, if_neg activatable, expired, if_true]
      rfl
  | _ =>
      obtain ⟨r, lapses⟩ := expires
      exact lapses.elim

/-- A write to a known id puts one reservation in the place of another. -/
private theorem exists_written {id : ReservationId} {r : Reservation}
    {f : Reservation → Reservation} {keeps : ∀ r, (f r).id = r.id} {budgets : BudgetManager}
    {state : ReservationState} (found : s.reservations.find? id = some r)
    (written : (f r).state = state) :
    ∃ r r', s.reservations.find? id = some r ∧ r'.id = id ∧ r'.state = state ∧
      ∀ other, (s.write id f keeps budgets).reservations.find? other =
        if other = id then some r' else s.reservations.find? other :=
  ⟨r, f r, found, (keeps r).trans (Keyed.key_of_find? found), written, Books.find?_write found⟩

/-- A call that does not expire its reservation is refused and writes nothing, or is
accepted and writes its target. -/
theorem Returns.of_not_expires (returns : Returns s call result s') (alive : ¬ call.Expires s)
    {state : ReservationState} (target : call.target = some state) :
    (result.ok = false ∧ s'.reservations = s.reservations) ∨
      (result.ok = true ∧ ∃ r r', s.reservations.find? (call.named s) = some r ∧
        r'.id = call.named s ∧ r'.state = state ∧ ∀ other, s'.reservations.find? other =
          if other = call.named s then some r' else s.reservations.find? other) := by
  cases returns with
  | refused => exact .inl ⟨rfl, rfl⟩
  | validated found =>
      cases target
      exact .inr ⟨rfl, exists_written found rfl⟩
  | planLapsed found early expired => exact absurd ⟨_, found, early, expired⟩ alive
  | reserved reserves =>
      cases target
      exact .inr ⟨rfl, exists_written reserves.2.1 rfl⟩
  | lapsed lapses =>
      cases call with
      | admitReservation => exact absurd ⟨_, lapses⟩ alive
      | activate => exact absurd ⟨_, lapses⟩ alive
      | _ => exact lapses.elim
  | admitted found =>
      cases target
      exact .inr ⟨rfl, exists_written found rfl⟩
  | activated activates =>
      cases target
      exact .inr ⟨rfl, exists_written activates.1 rfl⟩
  | accounted => cases target
  | released releases =>
      cases target
      exact .inr ⟨rfl, exists_written releases.2.1 rfl⟩

end ReservationCall

namespace Governor

/-- The index lists of a Governor mirror its reservations. -/
def IndexMirrors (g : Governor) : Prop := g.resIndex.Mirrors g.reservations

/-- The index of a Governor follows its reservations. -/
def IndexTracks (g : Governor) : Prop := g.resIndex.Tracks g.reservations

/-- No restored reservation has the null id. -/
def RestoresValid (g : Governor) (file : Option Bytes) : Prop :=
  ∀ bytes, file = some bytes → ∀ reservations, g.Restores bytes reservations →
    ∀ r ∈ reservations, r.id.isValid = true

end Governor

/-- The call keeps the index in step: a plan does not draw the null id, no operation
finds its reservation past the validity, and a load restores no null id. -/
def GovernorCall.KeepsIndex (g : Governor) (call : GovernorCall) : Prop :=
  match call with
  | .load file _ => g.RestoresValid file
  | .planReservation .. => g.ids.reservation ≠ 0
  | _ => ∀ lifecycleCall, call.lifecycle g = some lifecycleCall → ¬ lifecycleCall.Expires g.books

namespace Governor

variable {g : Governor}

section Settle

variable {α : Type} {first : Except Fault α} {next : α → Governor} {result : α → ReservationResult}
variable {state : ReservationState} {call : ReservationCall}

/-- An operation that expires its reservation marks it and does not tell the index. -/
theorem IndexTracks.settle_of_expires (tracks : g.IndexTracks) (expires : call.Expires g.books)
    (exec : call.exec g.books = first >>= fun a => .ok (result a, (next a).books))
    (index : ∀ a, (next a).resIndex = g.resIndex) :
    ¬ (g.settle (first >>= fun a =>
      .ok ((next a).finish (call.named g.books) state (result a)))).IndexMirrors := by
  obtain ⟨⟨r, found, alive⟩, refused⟩ := ReservationCall.exec_of_expires expires
  obtain ⟨a, ended, made⟩ := bind_eq_ok.mp (exec.symm.trans refused)
  obtain ⟨rejected, books⟩ := Prod.mk.inj (Except.ok.inj made)
  have left : g.settle (first >>= fun a =>
      .ok ((next a).finish (call.named g.books) state (result a))) = next a := by
    rw [ended]
    show (Governor.finish _ _ _ _).1 = _
    rw [finish, rejected]
    rfl
  have marked : (next a).reservations.find? (call.named g.books) = some r.lapsed := by
    refine (congrArg (fun s : Books => s.reservations.find? (call.named g.books)) books).trans ?_
    exact Books.find?_write_self found
  rw [left, IndexMirrors, index]
  exact tracks.not_mirrors_of_moved found marked (Ne.symm alive)

/-- An operation that does not expire its reservation moves the index as it moves the books. -/
theorem IndexTracks.settle_of_not_expires (tracks : g.IndexTracks)
    (expires : ¬ call.Expires g.books) (known : call.plans = false)
    (target : call.target = some state)
    (exec : call.exec g.books = first >>= fun a => .ok (result a, (next a).books))
    (index : ∀ a, (next a).resIndex = g.resIndex) :
    (g.settle (first >>= fun a =>
      .ok ((next a).finish (call.named g.books) state (result a)))).IndexTracks := by
  cases ended : first with
  | error fault => exact tracks
  | ok a =>
      have returned : call.exec g.books = .ok (result a, (next a).books) := by
        rw [exec, ended]
        rfl
      show ((next a).finish (call.named g.books) state (result a)).1.IndexTracks
      rw [finish]
      rcases (ReservationCall.returns known returned).of_not_expires expires target with
        ⟨refused, kept⟩ | ⟨accepted, r, r', found, own, reached, written⟩
      · have same : (next a).reservations = g.reservations := kept
        rw [refused]
        show (next a).resIndex.Tracks (next a).reservations
        rwa [index, same]
      · have now : (next a).reservations.find? (call.named g.books) = some r' := by
          refine (written _).trans ?_
          rw [if_pos rfl]
        rw [accepted, if_pos rfl, updateIndexState, now]
        show ((next a).resIndex.setState _).Tracks (next a).reservations
        rw [index, ← reached, ← own]
        exact tracks.write found own written

/-- A reservation operation keeps the index in step exactly when it does not expire
its reservation. -/
theorem IndexTracks.settle (tracks : g.IndexTracks) (known : call.plans = false)
    (target : call.target = some state)
    (exec : call.exec g.books = first >>= fun a => .ok (result a, (next a).books))
    (index : ∀ a, (next a).resIndex = g.resIndex) :
    let outcome := first >>= fun a => .ok ((next a).finish (call.named g.books) state (result a))
    (¬ call.Expires g.books ∧ (g.settle outcome).IndexTracks) ∨
      (call.Expires g.books ∧ ¬ (g.settle outcome).IndexMirrors) := by
  intro outcome
  by_cases expires : call.Expires g.books
  · exact .inr ⟨expires, tracks.settle_of_expires expires exec index⟩
  · exact .inl ⟨expires, tracks.settle_of_not_expires expires known target exec index⟩

end Settle

/-- A plan keeps the index in step exactly when it does not draw the null id. -/
theorem IndexTracks.plan (tracks : g.IndexTracks) (workload : WorkloadId)
    (powerClass : WorkloadPowerClass) (scope : PowerDomainId) (budget : BudgetId) (power : Watts)
    (energy : Joules) (policyGen : PolicyGeneration) (deviceGen : DeviceGeneration)
    (now : Timestamp) (validity : Duration) :
    let g' := (g.planReservation workload powerClass scope budget power energy policyGen deviceGen
      now validity).1
    (g.ids.reservation ≠ 0 ∧ g'.IndexTracks) ∨ (g.ids.reservation = 0 ∧ ¬ g'.IndexMirrors) := by
  intro g'
  cases found : g.reservations.find? ⟨g.ids.reservation⟩ with
  | some r =>
      refine .inl ⟨bne_iff_ne.mp (tracks.valid found), ?_⟩
      have taken : g.reservations.find? ⟨g.ids.reservation⟩ ≠ none := by
        rw [found]
        nofun
      have left : g'.resIndex = g.resIndex ∧ g'.reservations = g.reservations := by
        dsimp only [g', planReservation]
        rw [ReservationManager.plan_of_taken taken]
        exact ⟨rfl, rfl⟩
      rw [IndexTracks, left.1, left.2]
      exact tracks
  | none =>
      let r := ReservationManager.planned ⟨g.ids.reservation⟩ workload powerClass scope budget power
        energy policyGen deviceGen g.authority.envelope now validity
      have left : g'.resIndex = g.resIndex.add r.indexEntry ∧
          g'.reservations = ⟨g.reservations.map.emplace r⟩ := by
        dsimp only [g', planReservation]
        rw [ReservationManager.plan_of_free found]
        exact ⟨rfl, rfl⟩
      rw [IndexTracks, IndexMirrors, left.1, left.2]
      have planned : (ReservationManager.mk (g.reservations.map.emplace r)).find? r.id = some r :=
        (Keyed.find?_emplace (v := r) found r.id).trans (if_pos rfl)
      by_cases null : g.ids.reservation = 0
      · exact .inr ⟨null, (tracks.covered.add found).sound.not_mirrors_of_null planned
          (bne_eq_false_iff_eq.mpr null)⟩
      · exact .inl ⟨null, tracks.add found (bne_iff_ne.mpr null)⟩

end Governor

/-! ## Recoveries -/

namespace Restored

variable {s : Restored} {reservations : List Reservation}

/-- Restoring reservations with new ids keeps the members of the index among them. -/
theorem covered_foldl (covered : s.resIndex.Covered s.reservations)
    (fresh : s.reservations.map.Fresh reservations) :
    (reservations.foldl Restored.add s).resIndex.Covered
      (reservations.foldl Restored.add s).reservations := by
  induction reservations generalizing s with
  | nil => exact covered
  | cons r rest inductionHypothesis =>
      exact inductionHypothesis (covered.add fresh.head) fresh.tail

/-- Where none of their ids is null, the index follows them. -/
theorem tracks_foldl (tracks : s.resIndex.Tracks s.reservations)
    (fresh : s.reservations.map.Fresh reservations)
    (valid : ∀ r ∈ reservations, r.id.isValid = true) :
    (reservations.foldl Restored.add s).resIndex.Tracks
      (reservations.foldl Restored.add s).reservations := by
  induction reservations generalizing s with
  | nil => exact tracks
  | cons r rest inductionHypothesis =>
      have first := tracks.add fresh.head (valid r List.mem_cons_self)
      exact inductionHypothesis first fresh.tail fun other member =>
        valid other (List.mem_cons_of_mem r member)

end Restored

namespace Governor

variable {g g' : Governor}

/-- A load keeps the index in step exactly when it restores no null id. -/
theorem IndexTracks.load (tracks : g.IndexTracks) (file : Option Bytes) (now : Timestamp) :
    let g' := (g.load file now).2
    (g.RestoresValid file ∧ g'.IndexTracks) ∨ (¬ g.RestoresValid file ∧ ¬ g'.IndexMirrors) := by
  intro g'
  cases file with
  | none => exact .inl ⟨nofun, tracks⟩
  | some bytes =>
      obtain ⟨m, reservations, reached, fresh, left⟩ := g.restored_load bytes now
      have index : g'.resIndex = _ := congrArg Restored.resIndex left
      have entries : g'.reservations = _ := congrArg Restored.reservations left
      by_cases valid : g.RestoresValid (some bytes)
      · refine .inl ⟨valid, ?_⟩
        rw [IndexTracks, index, entries]
        refine Restored.tracks_foldl tracks fresh fun r member => ?_
        rcases reached with none | reached
        · rw [none] at member
          cases member
        · exact valid bytes rfl reservations reached r member
      · refine .inr ⟨valid, ?_⟩
        obtain ⟨r, null, member⟩ : ∃ r : Reservation, r.id.isValid = false ∧
            r ∈ g'.reservations.map.entries := by
          simp only [RestoresValid, Option.some.injEq, not_forall] at valid
          obtain ⟨_, rfl, others, restores, r, member, null⟩ := valid
          exact ⟨r, Bool.eq_false_iff.mpr null, restores.restored now member⟩
        have covered := Restored.covered_foldl (s := ⟨g.reservations, g.resIndex, m⟩)
          tracks.covered fresh
        rw [← index, ← entries] at covered
        exact covered.sound.not_mirrors_of_null (Keyed.find?_of_mem member) null

/-- What the index and the reservations depend on. -/
def registry (g : Governor) : ReservationIndex × ReservationManager := (g.resIndex, g.reservations)

theorem IndexTracks.of_registry (tracks : g.IndexTracks) (same : g'.registry = g.registry) :
    g'.IndexTracks := by
  obtain ⟨index, reservations⟩ := Prod.mk.inj same
  rwa [IndexTracks, index, reservations]

/-- A call meets the condition and keeps the index in step, or it does not and breaks
the agreement. -/
theorem IndexTracks.after (tracks : g.IndexTracks) (call : GovernorCall) :
    (call.KeepsIndex g ∧ (call.after g).IndexTracks) ∨
      (¬ call.KeepsIndex g ∧ ¬ (call.after g).IndexMirrors) := by
  have idle : ∀ lifecycleCall, (none : Option ReservationCall) = some lifecycleCall →
      ¬ lifecycleCall.Expires g.books := fun _ is => nomatch is
  have operation : ∀ {lifecycleCall : ReservationCall} {g' : Governor},
      (¬ lifecycleCall.Expires g.books ∧ g'.IndexTracks) ∨
        (lifecycleCall.Expires g.books ∧ ¬ g'.IndexMirrors) →
      ((∀ other, some lifecycleCall = some other → ¬ other.Expires g.books) ∧ g'.IndexTracks) ∨
        (¬ (∀ other, some lifecycleCall = some other → ¬ other.Expires g.books) ∧
          ¬ g'.IndexMirrors) := by
    rintro lifecycleCall g' (⟨alive, followed⟩ | ⟨expires, broken⟩)
    · refine .inl ⟨?_, followed⟩
      rintro other ⟨⟩
      exact alive
    · exact .inr ⟨fun keeps => keeps lifecycleCall rfl expires, broken⟩
  cases call with
  | installPolicy p =>
      refine .inl ⟨idle, tracks.of_registry ?_⟩
      show (g.installPolicy p).1.registry = _
      rcases g.installPolicy_cases p with ⟨_, installed⟩ | ⟨_, refused⟩
      · rw [installed]
        rfl
      · rw [refused]
  | planReservation workload powerClass scope budget power energy policyGen deviceGen now
      validity =>
      rcases tracks.plan workload powerClass scope budget power energy policyGen deviceGen now
        validity with kept | ⟨null, broken⟩
      · exact .inl kept
      · exact .inr ⟨not_not.mpr null, broken⟩
  | validateReservation id policyGen =>
      exact @operation (.validate id policyGen) _
        (tracks.settle rfl rfl rfl fun _ => rfl)
  | reserveReservation id budgetGen now =>
      exact @operation (.reserve id budgetGen now) _
        (tracks.settle rfl rfl rfl fun _ => rfl)
  | admitReservation id now =>
      exact @operation (.admitReservation id now) _
        (tracks.settle rfl rfl rfl fun _ => rfl)
  | activateReservation id budgetGen now =>
      exact @operation (.activate id budgetGen now) _
        (tracks.settle rfl rfl rfl fun _ => rfl)
  | releaseReservation id budgetGen now =>
      exact @operation (.release id budgetGen now) _
        (tracks.settle rfl rfl rfl fun _ => rfl)
  | observeBackend sample now =>
      obtain ⟨generation, left⟩ := Governor.observeBackend_leaves sample now g
      have same := congrArg registry left
      exact .inl ⟨idle, tracks.of_registry same⟩
  | decideFor budget workload cls requested requestedEnergy duration now =>
      obtain ⟨burst, engine, ids, _, left⟩ := Governor.decideFor_leaves budget workload cls
        requested requestedEnergy duration now g
      have same := congrArg registry left
      exact .inl ⟨idle, tracks.of_registry same⟩
  | load file now => exact tracks.load file now
  | installBudget | budgetManager | accountEnergy | resetHysteresis | invalidateLiveTelemetry =>
      exact .inl ⟨idle, tracks⟩

/-- From a new Governor the index lists mirror the reservations after every call of a
run exactly when every call meets the condition. -/
theorem index_mirrors_iff (cfg : GovernorConfig) (ids : Allocators) (calls : List GovernorCall) :
    (construct cfg ids).IndexMirrors ∧
      (Along (fun g (call : GovernorCall) => call.after g)
          (fun g call => (call.after g).IndexMirrors) (construct cfg ids) calls ↔
        Along (fun g (call : GovernorCall) => call.after g) (fun g call => call.KeepsIndex g)
          (construct cfg ids) calls) := by
  have start : (construct cfg ids).IndexTracks := ReservationIndex.tracks_empty
  refine ⟨start.mirrors, along_congr_of_invariant IndexTracks ?_ ?_ start calls⟩
  · intro g call tracks
    rcases tracks.after call with ⟨keeps, followed⟩ | ⟨breaks, broken⟩
    · exact iff_of_true followed.mirrors keeps
    · exact iff_of_false broken breaks
  · intro g call tracks mirrors
    rcases tracks.after call with ⟨_, followed⟩ | ⟨_, broken⟩
    · exact followed
    · exact absurd mirrors broken

/-- A reservation that is valid for 1 ns is planned at 1 ns and reserved at 9 ns. -/
def lateReserve : List GovernorCall :=
  [.planReservation ⟨7⟩ .batch ⟨0⟩ ⟨3⟩ Watts.zero Joules.zero .first .first
      .oneNano ⟨1, by decide, by decide⟩,
    .reserveReservation ⟨1⟩ .first ⟨9, by decide, by decide⟩]

/-- The refused reserve marks the reservation expired, and the index lists it as planned. -/
theorem index_misses_expiry :
    ¬ ∀ s, governorRuns.Reachable s → s.1.IndexMirrors := by
  intro always
  have mirrors := always _ (reachable_foldl (.start ⟨⟨⟨1⟩, ⟨1⟩, .first⟩, .start, rfl⟩) lateReserve)
  exact absurd (mirrors.byState .expired ⟨1⟩) (by decide +kernel)

end Governor

end PowerGovernor
