import PowerGovernor.Coordinator.Answers
import PowerGovernor.Decision.Document
import PowerGovernor.Library.BoundedLog
import PowerGovernor.Persistence.FreshIds

/-!
The change history of a Governor.

Owns the history, what each call of the Governor appends to it, and the theorem that the
history is the end of what was appended, numbered without a gap, and that it names every
reservation that was planned exactly once.

Does not own the control backend, whose answer the calls take as it comes.
-/

set_option autoImplicit false

namespace PowerGovernor

/-! ## The history -/

inductive ChangeKind where
  | policyChanged | budgetChanged | reservationPlanned | reservationReserved
  | reservationActivated | reservationReleased | reservationExpired | burstExhausted
  | burstRefilled | deviceThermallyConstrained | deviceRecovered | workloadClassChanged
  | decisionChanged | telemetryStale | powerControlCapabilityChanged | authorityRolled
  | recovered | observationAccepted | observationRejected
deriving DecidableEq, Repr

structure ChangeEntry where
  seq : UInt64
  time : Timestamp
  kind : ChangeKind
  message : Bytes
deriving DecidableEq

/-- What a call appends. -/
structure Report where
  kind : ChangeKind
  message : Bytes
  time : Timestamp
deriving DecidableEq

structure ChangeHistory where
  next : UInt64
  log : BoundedLog ChangeEntry

namespace ChangeHistory

def construct (maxEntries : Nat) : ChangeHistory :=
  ⟨1, .empty (if maxEntries = 0 then 1 else maxEntries)⟩

def append (h : ChangeHistory) (report : Report) : ChangeHistory :=
  ⟨h.next + 1, h.log.append ⟨h.next, report.time, report.kind, report.message⟩⟩

def entries (h : ChangeHistory) : List ChangeEntry := h.log.entries

/-- The entries of a run of appends. -/
def numbered (next : UInt64) : List Report → List ChangeEntry
  | [] => []
  | report :: rest => ⟨next, report.time, report.kind, report.message⟩ :: numbered (next + 1) rest

theorem log_foldl_append (h : ChangeHistory) (reports : List Report) :
    (reports.foldl append h).log = (numbered h.next reports).foldl BoundedLog.append h.log := by
  induction reports generalizing h with
  | nil => rfl
  | cons report rest inductionHypothesis => exact inductionHypothesis (h.append report)

theorem entries_foldl_append (reports : List Report) {maxEntries : Nat} (some : maxEntries ≠ 0) :
    (reports.foldl append (construct maxEntries)).entries =
      (numbered 1 reports).rtake maxEntries := by
  unfold entries
  rw [log_foldl_append, BoundedLog.entries_foldl_append]
  show List.rtake ([] ++ _) (if maxEntries = 0 then 1 else maxEntries) = _
  rw [if_neg some, List.nil_append]
  rfl

end ChangeHistory

/-! ## What the calls append -/

/-- `ControlResult`. -/
inductive ControlResult where
  | applied | notApplied | unsupported | permissionDenied | failed
deriving DecidableEq, Repr

/-- `is_more_restrictive`. -/
def DecisionVerdict.isMoreRestrictive : DecisionVerdict → Bool
  | .throttle | .defer | .reject | .allowWithLimit | .revalidationRequired => true
  | .allow | .drainRecommended | .unknown => false

def plannedMessage (id : ReservationId) : Bytes :=
  ascii "reservation " ++ decimal id.raw.toNat ++ ascii " planned"

namespace Governor

/-- What `ingest_locked` appends for the temperature of the sample. -/
def thermalReports (g : Governor) (sample : BackendSample) (now : Timestamp) : List Report :=
  if sample.temperature.isSome then
    match g.live.thermal.state with
    | .thermallyConstrained =>
      [⟨.deviceThermallyConstrained, ascii "device thermally constrained", now⟩]
    | .recovering => [⟨.deviceRecovered, ascii "device recovering", now⟩]
    | _ => []
  else []

/-- What `save` appends once the file is written. -/
def saveReports (g : Governor) (path : Bytes) (written : Bool) (clock : Timestamp) :
    List Report :=
  if g.save.isOk ∧ written then [⟨.recovered, ascii "state saved to " ++ path, clock⟩] else []

/-- What `set_power_limit` appends. -/
def limitReports (limit : Option Watts) (result : ControlResult) (clock : Timestamp) :
    List Report :=
  if result = .applied then
    [⟨.powerControlCapabilityChanged,
      match limit with
      | some w => ascii "power limit set to " ++ ascii (toStringDouble w.value) ++ ascii "W"
      | none => ascii "power limit cleared",
      clock⟩]
  else []

end Governor

/-- What a call appends. `clock` is what the clock says then, `path` the file of a load. A
call that throws has appended nothing. -/
def GovernorCall.reports (g : Governor) (path : Bytes) (clock : Timestamp) :
    GovernorCall → List Report
  | .installPolicy p =>
    if (g.installPolicy p).2 then
      [⟨.policyChanged, ascii "policy gen " ++ decimal p.generation.raw.toNat, clock⟩]
    else []
  | .installBudget b =>
    if (g.installBudget b).2 then
      [⟨.budgetChanged, ascii "budget " ++ decimal b.id.raw.toNat, clock⟩]
    else []
  | .planReservation workload powerClass scope budget power energy policyGen deviceGen now
      validity =>
    let planned := (g.planReservation workload powerClass scope budget power energy policyGen
      deviceGen now validity).2
    if planned.ok then [⟨.reservationPlanned, plannedMessage planned.id, now⟩] else []
  | .observeBackend sample now =>
    match (Governor.observeBackend sample now).exec g with
    | (.ok id, g') =>
      g'.thermalReports sample now ++
        [⟨.observationAccepted, ascii "power observation " ++ decimal id.raw.toNat, now⟩]
    | (.error _, _) => []
  | .decideFor budget workload cls requested requestedEnergy duration now =>
    match ((Governor.decideFor budget workload cls requested requestedEnergy duration now).exec
      g).1 with
    | .ok d =>
      if d.verdict.isMoreRestrictive then
        [⟨.decisionChanged, ascii "decision " ++ ascii d.verdict.name ++ ascii " " ++ d.digest,
          now⟩]
      else []
    | .error _ => []
  | .load file now =>
    if (g.load file now).1 = .ok true then
      [⟨.recovered, ascii "state recovered from " ++ path, clock⟩]
    else []
  | .budgetManager _ | .validateReservation _ _ | .reserveReservation _ _ _
  | .admitReservation _ _ | .activateReservation _ _ _ | .releaseReservation _ _ _
  | .accountEnergy _ _ _ _ | .resetHysteresis | .invalidateLiveTelemetry => []

/-- The reservations a call restores from a file. -/
def GovernorCall.restores (g : Governor) : GovernorCall → List ReservationId
  | .load file now => (g.load file now).2.reservations.ids.drop g.reservations.ids.length
  | _ => []

/-- A call, with what it reads of its surroundings: the clock, the name of the file, whether
the file was written and what the backend answered. -/
inductive HistoryCall where
  | call (call : GovernorCall) (path : Bytes) (clock : Timestamp)
  | save (path : Bytes) (written : Bool) (clock : Timestamp)
  | setPowerLimit (limit : Option Watts) (result : ControlResult) (clock : Timestamp)

/-- A Governor with its history, everything that was ever appended to it and the
reservations that loads restored; no step reads the last two. -/
structure Audited where
  gov : Governor
  history : ChangeHistory
  reported : List Report
  restored : List ReservationId

namespace Audited

def construct (cfg : GovernorConfig) (ids : Allocators) : Audited :=
  ⟨.construct cfg ids, .construct 4096, [], []⟩

def reports (a : Audited) : HistoryCall → List Report
  | .call call path clock => call.reports a.gov path clock
  | .save path written clock => a.gov.saveReports path written clock
  | .setPowerLimit limit result clock => Governor.limitReports limit result clock

def after (a : Audited) (call : HistoryCall) : Audited where
  gov :=
    match call with
    | .call call _ _ => call.after a.gov
    | _ => a.gov
  history := (a.reports call).foldl ChangeHistory.append a.history
  reported := a.reported ++ a.reports call
  restored := a.restored ++
    match call with
    | .call call _ _ => call.restores a.gov
    | _ => []

end Audited

/-! ## The reservations over a call -/

namespace GovernorCall

variable {g : Governor} {call : GovernorCall}

/-- A call that neither plans nor loads leaves the ids as they are. -/
theorem ids_after (planless : ∀ workload powerClass scope budget power energy policyGen deviceGen
      now validity, call ≠ .planReservation workload powerClass scope budget power energy
        policyGen deviceGen now validity)
    (saved : ∀ file now, call ≠ .load file now) :
    (call.after g).reservations.ids = g.reservations.ids := by
  have known : ∀ lifecycleCall, call.lifecycle g = some lifecycleCall →
      lifecycleCall.plans = false → (call.after g).reservations.ids = g.reservations.ids := by
    intro lifecycleCall is other
    have books := congrArg (fun s : Books => s.reservations.ids) (books_after is)
    exact books.trans (ReservationCall.ids_after (s := g.books) other).1
  cases call with
  | installPolicy p => exact congrArg ReservationManager.ids (g.frame_installPolicy p).1
  | planReservation => exact absurd rfl (planless _ _ _ _ _ _ _ _ _ _)
  | validateReservation => exact known _ rfl rfl
  | reserveReservation => exact known _ rfl rfl
  | admitReservation => exact known _ rfl rfl
  | activateReservation => exact known _ rfl rfl
  | releaseReservation => exact known _ rfl rfl
  | observeBackend sample now =>
      obtain ⟨generation, left⟩ := Governor.observeBackend_leaves sample now g
      exact congrArg (fun g => g.reservations.ids) left
  | decideFor budget workload cls requested requestedEnergy duration now =>
      obtain ⟨burst, engine, ids, _, left⟩ :=
        Governor.decideFor_leaves budget workload cls requested requestedEnergy duration now g
      exact congrArg (fun g => g.reservations.ids) left
  | load file now => exact absurd rfl (saved file now)
  | _ => rfl

/-- No call takes back when a reservation was created. -/
theorem created_after {id : ReservationId} {time : Timestamp}
    (created : ∃ r, g.reservations.find? id = some r ∧ r.created = time) :
    ∃ r, (call.after g).reservations.find? id = some r ∧ r.created = time := by
  obtain ⟨r, found, rfl⟩ := created
  by_cases loads : ∃ file now, call = .load file now
  · obtain ⟨file, now, rfl⟩ := loads
    cases file with
    | none => exact ⟨r, found, rfl⟩
    | some bytes =>
        obtain ⟨m, reservations, _, fresh, left⟩ := g.restored_load bytes now
        have table : (g.load (some bytes) now).2.reservations.map =
            reservations.foldl Keyed.emplace g.reservations.map :=
          (congrArg (fun s : Restored => s.reservations.map) left).trans
            (Governor.reservations_foldl_add _ reservations)
        have member : r ∈ (g.load (some bytes) now).2.reservations.map.entries := by
          rw [table, Keyed.entries_foldl_emplace fresh]
          exact List.mem_append_left _ (Keyed.mem_of_find? found)
        have kept := Keyed.find?_of_mem member
        rw [Keyed.key_of_find? found] at kept
        exact ⟨r, kept, rfl⟩
  · have saved : ∀ file now, call ≠ .load file now :=
      fun file now is => loads ⟨file, now, is⟩
    obtain ⟨r', found', _, terms⟩ := forward_after saved found
    have kept : r'.asPlanned.created = r.asPlanned.created := congrArg Reservation.created terms
    exact ⟨r', found', kept⟩

/-- A load keeps the ids and adds the ones it restores. -/
theorem ids_load (file : Option Bytes) (now : Timestamp) :
    ((GovernorCall.load file now).after g).reservations.ids =
      g.reservations.ids ++ (GovernorCall.load file now).restores g := by
  cases file with
  | none =>
      show g.reservations.ids = g.reservations.ids ++ g.reservations.ids.drop _
      rw [List.drop_length, List.append_nil]
  | some bytes =>
      obtain ⟨reservations, _, ids⟩ := g.ids_load bytes now
      show (g.load (some bytes) now).2.reservations.ids =
        g.reservations.ids ++ (g.load (some bytes) now).2.reservations.ids.drop _
      rw [ids, List.drop_left]

/-- What the reports of a call can be of. -/
def kinds : GovernorCall → List ChangeKind
  | .installPolicy _ => [.policyChanged]
  | .installBudget _ => [.budgetChanged]
  | .planReservation .. => [.reservationPlanned]
  | .observeBackend _ _ => [.deviceThermallyConstrained, .deviceRecovered, .observationAccepted]
  | .decideFor .. => [.decisionChanged]
  | .load _ _ => [.recovered]
  | _ => []

theorem kind_mem {path : Bytes} {clock : Timestamp} {report : Report}
    (member : report ∈ call.reports g path clock) : report.kind ∈ call.kinds := by
  have single : ∀ {condition : Prop} [Decidable condition] {one : Report},
      report ∈ (if condition then [one] else []) → report = one := by
    intro condition _ one among
    split at among
    · exact List.mem_singleton.mp among
    · cases among
  cases call with
  | installPolicy p =>
      rw [single member]
      exact List.mem_singleton_self _
  | installBudget b =>
      rw [single member]
      exact List.mem_singleton_self _
  | planReservation =>
      rw [single member]
      exact List.mem_singleton_self _
  | observeBackend sample now =>
      unfold reports at member
      dsimp only at member
      split at member
      case h_2 => cases member
      case h_1 id g' _ =>
        rcases List.mem_append.mp member with thermal | accepted
        · unfold Governor.thermalReports at thermal
          split at thermal
          case isFalse => cases thermal
          case isTrue =>
            split at thermal
            · rw [List.mem_singleton.mp thermal]
              exact List.mem_cons_self
            · rw [List.mem_singleton.mp thermal]
              exact List.mem_cons_of_mem _ List.mem_cons_self
            · cases thermal
        · rw [List.mem_singleton.mp accepted]
          exact List.mem_cons_of_mem _ (List.mem_cons_of_mem _ List.mem_cons_self)
  | decideFor =>
      unfold reports at member
      dsimp only at member
      split at member
      · rw [single member]
        exact List.mem_singleton_self _
      · cases member
  | load file now =>
      rw [single member]
      exact List.mem_singleton_self _
  | _ => cases member

end GovernorCall

def HistoryCall.kinds : HistoryCall → List ChangeKind
  | .call made _ _ => made.kinds
  | .save _ _ _ => [.recovered]
  | .setPowerLimit _ _ _ => [.powerControlCapabilityChanged]

theorem Audited.kind_mem {a : Audited} {call : HistoryCall} {report : Report}
    (member : report ∈ a.reports call) : report.kind ∈ call.kinds := by
  cases call with
  | call call path clock => exact GovernorCall.kind_mem member
  | save path written clock =>
      unfold Audited.reports Governor.saveReports at member
      dsimp only at member
      split at member
      · rw [List.mem_singleton.mp member]
        exact List.mem_singleton_self _
      · cases member
  | setPowerLimit limit result clock =>
      unfold Audited.reports Governor.limitReports at member
      dsimp only at member
      split at member
      · rw [List.mem_singleton.mp member]
        exact List.mem_singleton_self _
      · cases member

/-! ## Runs -/

/-- The report of a plan. -/
def planReport (row : ReservationId × Timestamp) : Report :=
  ⟨.reservationPlanned, plannedMessage row.1, row.2⟩

/-- The reports of plans. -/
def planReports (reports : List Report) : List Report :=
  reports.filter fun report => report.kind = .reservationPlanned

theorem planReports_append (left right : List Report) :
    planReports (left ++ right) = planReports left ++ planReports right :=
  List.filter_append _ _

theorem planReports_of_kinds {reports : List Report} (kinds : List ChangeKind)
    (each : ∀ report ∈ reports, report.kind ∈ kinds) (planless : .reservationPlanned ∉ kinds) :
    planReports reports = [] := by
  refine List.filter_eq_nil_iff.mpr fun report member planned => planless ?_
  rw [← of_decide_eq_true planned]
  exact each report member

namespace Audited

/-- The kinds that something appends. Nothing appends what became of a reservation after its
plan, a refused observation, telemetry that went stale or an authority that rolled. -/
def reportedKinds : List ChangeKind :=
  [.policyChanged, .budgetChanged, .reservationPlanned, .deviceThermallyConstrained,
    .deviceRecovered, .decisionChanged, .powerControlCapabilityChanged, .recovered,
    .observationAccepted]

/-- The planned reservations are reported in their order, each once and with its time, and
the others were restored. -/
structure Tells (a : Audited) (rows : List (ReservationId × Timestamp)) : Prop where
  reports : planReports a.reported = rows.map planReport
  distinct : (rows.map Prod.fst).Nodup
  created : ∀ row ∈ rows, ∃ r, a.gov.reservations.find? row.1 = some r ∧ r.created = row.2
  complete : ∀ id ∈ a.gov.reservations.ids, id ∈ rows.map Prod.fst ∨ id ∈ a.restored

variable {a : Audited} {rows : List (ReservationId × Timestamp)}

namespace Tells

theorem mem_ids (tells : a.Tells rows) {id : ReservationId} (told : id ∈ rows.map Prod.fst) :
    id ∈ a.gov.reservations.ids := by
  obtain ⟨row, member, rfl⟩ := List.mem_map.mp told
  obtain ⟨r, found, _⟩ := tells.created row member
  by_contra absent
  rw [ReservationManager.find?_eq_none_iff.mpr absent] at found
  cases found

/-- A step that plans nothing. -/
theorem planless (tells : a.Tells rows) {b : Audited} {reports : List Report}
    (reported : b.reported = a.reported ++ reports) (none : planReports reports = [])
    (created : ∀ id time,
      (∃ r, a.gov.reservations.find? id = some r ∧ r.created = time) →
        ∃ r, b.gov.reservations.find? id = some r ∧ r.created = time)
    (restored : ∀ id ∈ b.gov.reservations.ids, id ∈ a.gov.reservations.ids ∨ id ∈ b.restored)
    (kept : ∀ id ∈ a.restored, id ∈ b.restored) : b.Tells rows where
  reports := by
    rw [reported, planReports_append, none, List.append_nil]
    exact tells.reports
  distinct := tells.distinct
  created row member := created _ _ (tells.created row member)
  complete id known := by
    rcases restored id known with before | loaded
    · exact (tells.complete id before).imp_right (kept id)
    · exact .inr loaded

/-- A plan that is accepted is the next row. -/
theorem planned (tells : a.Tells rows) {b : Audited} {id : ReservationId} {time : Timestamp}
    (reported : b.reported = a.reported ++ [planReport (id, time)])
    (created : ∀ id time,
      (∃ r, a.gov.reservations.find? id = some r ∧ r.created = time) →
        ∃ r, b.gov.reservations.find? id = some r ∧ r.created = time)
    (new : ∃ r, b.gov.reservations.find? id = some r ∧ r.created = time)
    (fresh : id ∉ a.gov.reservations.ids)
    (ids : b.gov.reservations.ids = a.gov.reservations.ids ++ [id])
    (restored : b.restored = a.restored) : b.Tells (rows ++ [(id, time)]) where
  reports := by
    rw [reported, planReports_append, tells.reports, List.map_append]
    rfl
  distinct := by
    rw [List.map_append, List.map_singleton]
    refine List.nodup_append.mpr ⟨tells.distinct, List.nodup_singleton _, ?_⟩
    rintro other told _ last rfl
    rw [List.mem_singleton.mp last] at told
    exact fresh (tells.mem_ids told)
  created row member := by
    rcases List.mem_append.mp member with before | last
    · exact created _ _ (tells.created row before)
    · rw [List.mem_singleton.mp last]
      exact new
  complete other known := by
    rw [ids] at known
    rw [restored, List.map_append, List.mem_append]
    rcases List.mem_append.mp known with before | last
    · exact (tells.complete other before).imp_left .inl
    · exact .inl (.inr last)

end Tells

theorem tells_after (tells : a.Tells rows) (call : HistoryCall) :
    ∃ more, (a.after call).Tells (rows ++ more) := by
  have still : ∀ {b : Audited}, b.Tells rows → ∃ more, b.Tells (rows ++ more) := by
    intro b holds
    refine ⟨[], ?_⟩
    rw [List.append_nil]
    exact holds
  have silent : .reservationPlanned ∉ call.kinds → planReports (a.reports call) = [] :=
    planReports_of_kinds call.kinds fun _ member => kind_mem member
  cases call with
  | save path written clock =>
      have planless : .reservationPlanned ∉ (HistoryCall.save path written clock).kinds := by
        simp [HistoryCall.kinds]
      exact still (tells.planless rfl (silent planless) (fun _ _ created => created)
        (fun _ known => .inl known) fun _ restored => List.mem_append_left _ restored)
  | setPowerLimit limit result clock =>
      have planless : .reservationPlanned ∉
          (HistoryCall.setPowerLimit limit result clock).kinds := by
        simp [HistoryCall.kinds]
      exact still (tells.planless rfl (silent planless) (fun _ _ created => created)
        (fun _ known => .inl known) fun _ restored => List.mem_append_left _ restored)
  | call call path clock =>
      have created : ∀ id time,
          (∃ r, a.gov.reservations.find? id = some r ∧ r.created = time) →
            ∃ r, (call.after a.gov).reservations.find? id = some r ∧ r.created = time :=
        fun id time before => GovernorCall.created_after before
      have other (planless : .reservationPlanned ∉ call.kinds)
          (saved : ∀ file now, call ≠ .load file now) :
          ∃ more, (a.after (.call call path clock)).Tells (rows ++ more) := by
        refine still (tells.planless rfl (silent planless) created ?_
          fun _ restored => List.mem_append_left _ restored)
        intro id known
        have ids : (call.after a.gov).reservations.ids = a.gov.reservations.ids :=
          GovernorCall.ids_after
            (fun _ _ _ _ _ _ _ _ _ _ is => planless (is ▸ List.mem_singleton_self _)) saved
        exact .inl (ids ▸ known)
      cases call with
      | planReservation workload powerClass scope budget power energy policyGen deviceGen now
          validity =>
          obtain ⟨drawn, _, ⟨_, refused, same⟩ | ⟨fresh, accepted, added⟩⟩ :=
            a.gov.drawn_planReservation workload powerClass scope budget power energy policyGen
              deviceGen now validity
          · have none : GovernorCall.reports a.gov path clock (.planReservation workload powerClass
                scope budget power energy policyGen deviceGen now validity) = [] := by
              unfold GovernorCall.reports
              dsimp only
              rw [if_neg (refused ▸ Bool.false_ne_true)]
            refine still (tells.planless rfl (congrArg planReports none) created ?_
              fun _ restored => List.mem_append_left _ restored)
            intro id known
            exact .inl (same ▸ known)
          · have new := Governor.find?_of_planReservation accepted
            have one : GovernorCall.reports a.gov path clock (.planReservation workload powerClass
                scope budget power energy policyGen deviceGen now validity) =
                  [planReport (⟨a.gov.ids.reservation⟩, now)] := by
              unfold GovernorCall.reports
              dsimp only
              rw [if_pos accepted, drawn]
              rfl
            rw [drawn] at new
            exact ⟨_, tells.planned (congrArg (a.reported ++ ·) one) created new fresh added
              (List.append_nil _)⟩
      | load file now =>
          have planless : .reservationPlanned ∉ (GovernorCall.load file now).kinds := by
            simp [GovernorCall.kinds]
          refine still (tells.planless rfl (silent planless) created ?_
            fun _ restored => List.mem_append_left _ restored)
          intro id known
          have known' : id ∈ ((GovernorCall.load file now).after a.gov).reservations.ids := known
          rw [GovernorCall.ids_load] at known'
          exact (List.mem_append.mp known').imp_right (List.mem_append_right _)
      | _ =>
          apply other
          · simp [GovernorCall.kinds]
          · rintro file now ⟨⟩

theorem tells_foldl (tells : a.Tells rows) (calls : List HistoryCall) :
    ∃ more, (calls.foldl after a).Tells (rows ++ more) := by
  induction calls generalizing a rows with
  | nil => exact ⟨[], (List.append_nil rows).symm ▸ tells⟩
  | cons call rest inductionHypothesis =>
      obtain ⟨first, holds⟩ := tells_after tells call
      obtain ⟨more, last⟩ := inductionHypothesis holds
      exact ⟨first ++ more, List.append_assoc rows first more ▸ last⟩

theorem history_foldl (a : Audited) (calls : List HistoryCall) : ∃ reports,
    (calls.foldl after a).reported = a.reported ++ reports ∧
      (calls.foldl after a).history = reports.foldl ChangeHistory.append a.history := by
  induction calls generalizing a with
  | nil => exact ⟨[], (List.append_nil _).symm, rfl⟩
  | cons call rest inductionHypothesis =>
      obtain ⟨reports, reported, history⟩ := inductionHypothesis (a.after call)
      refine ⟨a.reports call ++ reports, ?_, ?_⟩
      · rw [List.foldl_cons, reported, ← List.append_assoc]
        rfl
      · rw [List.foldl_cons, history, List.foldl_append]
        rfl

theorem kinds_subset (call : HistoryCall) : call.kinds ⊆ reportedKinds := by
  cases call with
  | call call path clock =>
      cases call <;> simp [HistoryCall.kinds, GovernorCall.kinds, reportedKinds]
  | _ => simp [HistoryCall.kinds, reportedKinds]

theorem kinds_after (each : ∀ report ∈ a.reported, report.kind ∈ reportedKinds)
    (call : HistoryCall) : ∀ report ∈ (a.after call).reported, report.kind ∈ reportedKinds := by
  intro report member
  rcases List.mem_append.mp member with before | new
  · exact each report before
  · exact kinds_subset call (kind_mem new)

theorem kinds_foldl (each : ∀ report ∈ a.reported, report.kind ∈ reportedKinds)
    (calls : List HistoryCall) :
    ∀ report ∈ (calls.foldl after a).reported, report.kind ∈ reportedKinds := by
  induction calls generalizing a with
  | nil => exact each
  | cons call rest inductionHypothesis => exact inductionHypothesis (kinds_after each call)

/-- In every run, with its loads and the calls that throw: the history is the last 4096 of
everything that was appended, numbered from 1 without a gap; what was appended names, in
their order and with their times, the reservations that were planned, each of them once,
while every other reservation was restored from a file; and it is of nine kinds. -/
theorem history_tells (cfg : GovernorConfig) (ids : Allocators) (calls : List HistoryCall) :
    (calls.foldl after (construct cfg ids)).history.entries =
        (ChangeHistory.numbered 1 (calls.foldl after (construct cfg ids)).reported).rtake 4096 ∧
      (∃ rows, (calls.foldl after (construct cfg ids)).Tells rows) ∧
      ∀ report ∈ (calls.foldl after (construct cfg ids)).reported,
        report.kind ∈ reportedKinds := by
  refine ⟨?_, ?_, kinds_foldl (fun _ member => absurd member List.not_mem_nil) calls⟩
  · obtain ⟨reports, reported, history⟩ := history_foldl (construct cfg ids) calls
    rw [history, reported]
    exact ChangeHistory.entries_foldl_append reports (by decide)
  · have initially : (construct cfg ids).Tells [] :=
      ⟨rfl, List.nodup_nil, fun _ member => absurd member List.not_mem_nil,
        fun _ known => absurd known List.not_mem_nil⟩
    exact (tells_foldl initially calls).imp fun rows tells => tells

end Audited

end PowerGovernor
