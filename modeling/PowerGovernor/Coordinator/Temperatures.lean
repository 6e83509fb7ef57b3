import PowerGovernor.Coordinator.Calls
import PowerGovernor.Coordinator.Observations
import PowerGovernor.Governor.Agreement

/-!
The temperatures that reach the thermal governor.

Owns the temperature of a message, what a step feeds to the thermal governor of the
device, what a handler has fed for the frame it is working on, and the exact
condition under which every acknowledged temperature was fed once. A
THERMAL_OBSERVATION is fenced and acknowledged, and its temperature goes nowhere.
-/

set_option autoImplicit false

namespace PowerGovernor

/-! ## Temperatures of messages -/

def PowerObsMsg.temperature (po : PowerObsMsg) : Option ℚ :=
  if po.hasTemp then some (po.tempCenti.toInt / 100) else none

def ThermalObsMsg.temperature (th : ThermalObsMsg) : Option ℚ :=
  if th.hasTemp then some (th.tempCenti.toInt / 100) else none

/-- The degrees that an observation carries. -/
def Frame.temperature (m : Frame) : Option ℚ :=
  match m.type with
  | .powerObservation => (decodePowerObs m).bind PowerObsMsg.temperature
  | .thermalObservation => (decodeThermalObs m).bind ThermalObsMsg.temperature
  | _ => none

/-- The temperature a section is left with. -/
def Pending.temperature : Pending → Option ℚ
  | .observe po => po.temperature
  | _ => none

theorem value_of_measured {unit : UnitTag} {present : Bool} {v : ℚ}
    {measurement : Option (Quantity unit)} (returned : measured present v = .ok measurement) :
    measurement.map Quantity.value = if present then some v else none := by
  unfold measured at returned
  cases present with
  | false =>
      obtain rfl := Except.ok.inj returned
      rfl
  | true =>
      obtain ⟨q, constructed, made⟩ := bind_eq_ok.mp returned
      obtain rfl := Except.ok.inj made
      exact congrArg some (Quantity.construct_eq_ok.mp constructed)

theorem PowerObsMsg.value_of_sample {po : PowerObsMsg} {s : BackendSample}
    (returned : po.sample = .ok s) : s.temperature.map Quantity.value = po.temperature := by
  obtain ⟨power, _, returned⟩ := bind_eq_ok.mp returned
  obtain ⟨temperature, read, returned⟩ := bind_eq_ok.mp returned
  obtain ⟨utilization, _, made⟩ := bind_eq_ok.mp returned
  obtain rfl := Except.ok.inj made
  exact value_of_measured read

/-! ## Feeding the thermal governor -/

/-- A temperature and the time it is observed at. -/
structure Heat where
  temp : Celsius
  now : Timestamp

def ThermalGovernor.feed (th : ThermalGovernor) (heat : Heat) : ThermalGovernor :=
  th.observe (some heat.temp) heat.now

/-- The temperatures a call feeds. A sample that the power window refuses never
gets so far. -/
def GovernorCall.feeds (g : Governor) : GovernorCall → List Heat
  | .observeBackend sample now =>
    match ((DeviceState.ingest sample now).exec g.live).1 with
    | .ok _ => (sample.temperature.map fun temp => ⟨temp, now⟩).toList
    | .error _ => []
  | _ => []

/-- The temperatures a section feeds. -/
def Pending.feeds (work : Pending) (g : Governor) : List Heat :=
  work.governorCall.elim [] (GovernorCall.feeds g)

namespace DeviceState

/-- An observation feeds the temperature of its sample. -/
theorem thermal_ingest (sample : BackendSample) (now : Timestamp) (ds : DeviceState) :
    ((ingest sample now).exec ds).2.thermal =
      (match ((ingest sample now).exec ds).1 with
        | .ok _ => (sample.temperature.map fun temp => (⟨temp, now⟩ : Heat)).toList
        | .error _ => []).foldl ThermalGovernor.feed ds.thermal := by
  have heated : ∀ ds : DeviceState, (ds.heat sample now).thermal =
      (sample.temperature.map fun temp => (⟨temp, now⟩ : Heat)).toList.foldl
        ThermalGovernor.feed ds.thermal := by
    intro ds
    unfold heat
    cases sample.temperature <;> rfl
  rw [exec_ingest]
  cases sample.power with
  | none => exact heated _
  | some power =>
      dsimp only
      cases (ds.powerWindow.record now power).2 with
      | error fault => rfl
      | ok _ => exact heated _

end DeviceState

namespace Governor

variable {g : Governor}

/-- A call that does not invalidate the telemetry does to the thermal governor what it feeds
to it. -/
theorem thermal_after {call : GovernorCall} (kept : ¬ call.Invalidates g) :
    (call.after g).live.thermal =
      (call.feeds g).foldl ThermalGovernor.feed g.live.thermal := by
  have step := call.deviceStep g
  generalize (call.after g).live = ds at step
  cases step with
  | observed sample now => exact DeviceState.thermal_ingest sample now g.live
  | invalidated invalidates => exact absurd invalidates kept
  | kept _ other burst meter =>
      have nothing : call.feeds g = [] := by
        cases call with
        | observeBackend sample now => cases other
        | _ => rfl
      rw [nothing]
      rfl

/-- A section does to the thermal governor what it feeds to it. -/
theorem thermal_afterCall (g : Governor) (work : Pending) :
    (g.afterCall work.governorCall).live.thermal =
      (work.feeds g).foldl ThermalGovernor.feed g.live.thermal := by
  unfold afterCall Pending.feeds
  cases made : work.governorCall with
  | none => rfl
  | some call =>
      have kept : ¬ call.Invalidates g := by
        cases Pending.makes_of_governorCall made <;> exact id
      exact thermal_after kept

end Governor

namespace Pending

variable {cs : CoordShared}

/-- Only an observation feeds. -/
theorem feeds_of_unobserving {work : Pending} (other : ∀ po, work ≠ .observe po) (g : Governor) :
    work.feeds g = [] := by
  unfold feeds
  cases made : work.governorCall with
  | none => rfl
  | some call =>
      cases makes_of_governorCall made with
      | observe sampled => exact absurd rfl (other _)
      | _ => rfl

/-- A section that throws feeds nothing. -/
theorem feeds_of_threw {work : Pending} {fault : Fault}
    (threw : (work.run.exec cs).1 = .error fault) : work.feeds cs.gov = [] := by
  cases work with
  | observe po =>
      rcases Stateful.bind_eq_error.mp threw with failed | ⟨_, _, _, ended⟩
      case inr => cases ended
      unfold observeSection at failed
      unfold feeds governorCall
      dsimp only
      cases returned : po.sample with
      | error fault => rfl
      | ok sample =>
          rw [returned, Stateful.exec_bind_of_ok (Stateful.exec_ofExcept _ cs)] at failed
          rcases Stateful.bind_eq_error.mp failed with refused | ⟨_, _, _, ended⟩
          case inr => cases ended
          have threw : ((Governor.observeBackend sample (.ofInt64 po.timestampNs)).exec
              cs.gov).1.isOk = false := by
            rw [show ((Governor.observeBackend sample (.ofInt64 po.timestampNs)).exec cs.gov).1 =
              .error fault from refused]
            rfl
          rw [(Governor.exec_observeBackend sample _ cs.gov).2] at threw
          show (match ((DeviceState.ingest sample _).exec cs.gov.live).1 with
            | .ok _ => _
            | .error _ => []) = _
          generalize ((DeviceState.ingest sample _).exec cs.gov.live).1 = ended at threw ⊢
          cases ended with
          | error fault => rfl
          | ok _ => cases threw
  | _ => exact feeds_of_unobserving (by rintro po ⟨⟩) cs.gov

/-- A section that ends feeds the temperature of its message, once. -/
theorem feeds_of_run {work : Pending} {progress : Progress}
    (ran : (work.run.exec cs).1 = .ok progress) :
    (work.feeds cs.gov).map (fun heat => heat.temp.value) = work.temperature.toList := by
  cases work with
  | observe po =>
      obtain ⟨reply, _, answered, _⟩ := Stateful.bind_eq_ok.mp (Prod.ext ran rfl)
      obtain ⟨sample, _, sampled, answered⟩ := Stateful.bind_eq_ok.mp answered
      obtain ⟨present, rfl⟩ := Prod.mk.inj sampled
      obtain ⟨id, _, observed, _⟩ := Stateful.bind_eq_ok.mp answered
      have returned : ((Governor.observeBackend sample (.ofInt64 po.timestampNs)).exec
          cs.gov).1.isOk = true := by
        rw [show ((Governor.observeBackend sample (.ofInt64 po.timestampNs)).exec cs.gov).1 = .ok id
          from congrArg Prod.fst observed]
        rfl
      rw [(Governor.exec_observeBackend sample _ cs.gov).2] at returned
      unfold feeds governorCall temperature
      dsimp only
      rw [present, ← PowerObsMsg.value_of_sample present]
      show List.map _ (match ((DeviceState.ingest sample _).exec cs.gov.live).1 with
        | .ok _ => _
        | .error _ => []) = _
      generalize ((DeviceState.ingest sample _).exec cs.gov.live).1 = ended at returned ⊢
      cases ended with
      | error fault => cases returned
      | ok _ => cases sample.temperature <;> rfl
  | _ =>
      rw [feeds_of_unobserving (by rintro po ⟨⟩)]
      rfl

end Pending

namespace Coordinator

variable {s : Coordinator} {event : Event}

/-- The temperatures a step feeds. -/
def feeds (s : Coordinator) (event : Event) : List Heat :=
  (s.works event).elim [] fun work => work.feeds s.shared.gov

/-- A step does to the thermal governor what it feeds to it. -/
theorem thermal_after (s : Coordinator) (event : Event) :
    (s.after event).shared.gov.live.thermal =
      (s.feeds event).foldl ThermalGovernor.feed s.shared.gov.live.thermal := by
  have device := congrArg (fun holdings => holdings.2.2.1) (holdings_after s event)
  rw [Governor.live_of_same device]
  unfold feeds
  cases s.works event with
  | none => rfl
  | some work => exact Governor.thermal_afterCall s.shared.gov work

/-- A section that leaves work feeds nothing. -/
theorem feeds_of_busy {conn : Nat} {c : Connection} {work : Pending}
    (found : (s.after (.proceed conn)).connections conn = some c) (busy : c.work = some work) :
    s.feeds (.proceed conn) = [] := by
  unfold feeds works
  split
  case isFalse stopped => rfl
  case isTrue running =>
    dsimp only
    rcases before : s.connections conn with _ | ⟨reg, _ | earlier⟩
    · rfl
    · rfl
    · show earlier.feeds s.shared.gov = []
      rw [after_proceed running before] at found
      cases ran : earlier.run.exec s.shared with
      | mk result shared =>
          rw [ran] at found
          cases result with
          | error fault => exact Pending.feeds_of_threw (congrArg Prod.fst ran)
          | ok progress =>
              dsimp only [setConnection] at found
              rw [Function.update_self] at found
              obtain rfl := Option.some.inj found
              cases progress with
              | replied reply => cases busy
              | pending next =>
                  obtain ⟨rr, planned, rfl, _⟩ := Pending.reserve_of_run (congrArg Prod.fst ran)
                  exact Pending.feeds_of_unobserving (by rintro po ⟨⟩) _

end Coordinator

/-! ## Acknowledgements of the first section -/

namespace CoordShared

variable {cs : CoordShared} {m : Frame}

/-- What a fence refuses is not acknowledged. -/
theorem fenced_eq_replied {fence : Except String Unit} {id : UInt64}
    {passed : Progress × CoordShared} {reply : Reply}
    (replied : (cs.fenced fence id passed).1 = .replied reply) (ok : reply.ok = true) :
    fence = .ok () ∧ passed.1 = .replied reply := by
  cases fence with
  | error why =>
      obtain rfl := Progress.replied.inj replied
      cases ok
  | ok _ => exact ⟨rfl, replied⟩

/-- The first section acknowledges THERMAL_OBSERVATIONs that pass and snapshots. -/
theorem acknowledged_of_receive {reply : Reply} (replied : (cs.receive m).1 = .replied reply)
    (ok : reply.ok = true) :
    (m.type = .thermalObservation ∧ ∃ o, cs.letsPass m = some o) ∨ m.type = .snapshotRequest := by
  unfold receive at replied
  unfold letsPass Frame.obsStamp
  cases type : m.type with
  | thermalObservation =>
      rw [type] at replied
      dsimp only at replied ⊢
      cases decoded : decodeThermalObs m with
      | none =>
          rw [decoded] at replied
          obtain rfl := Progress.replied.inj replied
          cases ok
      | some th =>
          rw [decoded] at replied
          have passes : cs.Passes th.stamp := (fenced_eq_replied replied ok).1
          refine .inl ⟨rfl, th.stamp, ?_⟩
          rw [Option.map_some, Option.filter_some, if_pos (decide_eq_true passes)]
  | snapshotRequest => exact .inr rfl
  | powerObservation | reserve | activate | release | decisionRequest =>
      rw [type] at replied
      dsimp only at replied
      split at replied
      · obtain rfl := Progress.replied.inj replied
        cases ok
      · cases (fenced_eq_replied replied ok).2
  | _ =>
      rw [type] at replied
      obtain rfl := Progress.replied.inj replied
      cases ok

theorem acknowledges_thermal {o : ObsStamp} (type : m.type = .thermalObservation)
    (passes : cs.letsPass m = some o) :
    ∃ reply, (cs.receive m).1 = .replied reply ∧ reply.ok = true := by
  obtain ⟨stamped, passed⟩ := Option.filter_eq_some_iff.mp passes
  unfold Frame.obsStamp at stamped
  unfold receive
  rw [type] at stamped ⊢
  obtain ⟨th, decoded, rfl⟩ := Option.map_eq_some_iff.mp stamped
  have fence : cs.fenceObs th.epoch th.boot th.obsGen th.worker = .ok () :=
    of_decide_eq_true passed
  dsimp only
  rw [decoded]
  dsimp only
  rw [fence]
  exact ⟨_, rfl, rfl⟩

end CoordShared

/-! ## Handlers -/

/-- The frame a handler is working on, and the temperatures fed for it. -/
structure Handling where
  frame : Frame
  fed : List Celsius

/-- A coordinator, what each handler is at and everything fed so far; no step reads
them. -/
structure Attended where
  coordinator : Coordinator
  handling : Nat → Option Handling
  fed : List Heat

namespace Attended

open Coordinator (registerFrame temperatureMsg temperatureFrame)

def start : Attended := ⟨.start, fun _ => none, []⟩

def after (x : Attended) (event : Event) : Attended where
  coordinator := x.coordinator.after event
  handling :=
    match event with
    | .proceed conn =>
      Function.update x.handling conn ((x.handling conn).map fun h =>
        { h with fed := h.fed ++ (x.coordinator.feeds event).map Heat.temp })
    | _ =>
      match x.coordinator.takesUp event with
      | some (conn, m) => Function.update x.handling conn (some ⟨m, []⟩)
      | none => x.handling
  fed := x.fed ++ x.coordinator.feeds event

/-- The thermal governor is what the temperatures fed so far make of a new one. -/
def Follows (x : Attended) : Prop :=
  x.coordinator.shared.gov.live.thermal =
    x.fed.foldl ThermalGovernor.feed (.construct .standard)

theorem follows_after {x : Attended} (follows : x.Follows) (event : Event) :
    (x.after event).Follows := by
  unfold Follows after at *
  rw [Coordinator.thermal_after, follows, List.foldl_append]

/-- In every run the thermal governor has seen what was fed, and nothing else. -/
theorem follows_along (events : List Event) :
    Along after (fun x event => (x.after event).Follows) start events := by
  have initially : start.Follows := rfl
  refine Along.of_invariant Follows ?_ initially (along_true start events)
  intro x event follows _
  exact ⟨follows_after follows event, follows_after follows event⟩

/-- The step acknowledges a temperature only if exactly that temperature has been
fed for the frame, once. -/
def AcksFed (x : Attended) (event : Event) : Prop :=
  ∀ conn reply h t, x.coordinator.sends event = some (conn, reply) → reply.ok = true →
    (x.after event).handling conn = some h → h.frame.temperature = some t →
      h.fed.map Quantity.value = [t]

/-- No THERMAL_OBSERVATION that passes the fence carries a temperature. -/
def ThermalBlank (x : Attended) (event : Event) : Prop :=
  ∀ conn m o, event = .frame conn m → x.coordinator.markWrite event = some (.accept o) →
    m.type = .thermalObservation → m.temperature = none

/-- A handler in front of a section has fed nothing yet, and the section is left
with the temperature of its frame. -/
def Attends (x : Attended) : Prop :=
  ∀ conn c work, x.coordinator.connections conn = some c → c.work = some work →
    ∃ h, x.handling conn = some h ∧ h.frame.temperature = work.temperature ∧ h.fed = []

variable {x : Attended}

/-- The temperature of a frame is that of the section that is accepted. -/
theorem temperature_of_accepts {cs : CoordShared} {m : Frame} {work : Pending}
    (accepts : cs.Accepts m work) : m.temperature = work.temperature := by
  unfold Frame.temperature
  cases accepts with
  | observe type decoded passed =>
      rw [type]
      dsimp only
      rw [decoded]
      rfl
  | plan type decoded passed =>
      rw [type]
      rfl
  | @act action ba type decoded passed =>
      rw [type]
      cases action <;> rfl
  | decide type decoded passed =>
      rw [type]
      rfl

theorem handling_taken {event : Event} {conn : Nat} {m : Frame}
    (taken : x.coordinator.takesUp event = some (conn, m)) :
    (x.after event).handling conn = some ⟨m, []⟩ := by
  unfold after
  dsimp only
  rw [taken]
  cases event with
  | proceed other =>
      unfold Coordinator.takesUp at taken
      split at taken <;> cases taken
  | _ => exact Function.update_self _ _ _

theorem handling_kept {event : Event} {conn : Nat}
    (idle : ∀ m, x.coordinator.takesUp event ≠ some (conn, m))
    (fasts : event = .proceed conn → x.coordinator.feeds event = []) :
    (x.after event).handling conn = x.handling conn := by
  have taken : (match x.coordinator.takesUp event with
      | some (other, m) => Function.update x.handling other (some ⟨m, []⟩)
      | none => x.handling) conn = x.handling conn := by
    cases takes : x.coordinator.takesUp event with
    | none => rfl
    | some frame =>
        obtain ⟨other, m⟩ := frame
        apply Function.update_of_ne
        rintro rfl
        exact idle m takes
  cases event with
  | proceed other =>
      show Function.update x.handling other _ conn = _
      by_cases same : conn = other
      · subst same
        rw [Function.update_self, fasts rfl]
        cases x.handling conn with
        | none => rfl
        | some h => exact congrArg some (congrArg (Handling.mk h.frame) (List.append_nil h.fed))
      · exact Function.update_of_ne same _ _
  | _ => exact taken

theorem attends_after (attends : x.Attends) (event : Event) : (x.after event).Attends := by
  intro conn c work found busy
  -- A handler that was in front of a section and still is in front of one has fed nothing.
  have kept : ∀ {c' : Connection} {before : Pending},
      x.coordinator.connections conn = some c' → c'.work = some before →
      before.temperature = work.temperature →
      ∃ h, (x.after event).handling conn = some h ∧ h.frame.temperature = work.temperature ∧
        h.fed = [] := by
    intro c' before here working same
    obtain ⟨h, handles, temperature, fed⟩ := attends conn c' before here working
    refine ⟨h, ?_, temperature.trans same, fed⟩
    rw [handling_kept ?_ ?_, handles]
    · intro m taken
      have idle := Coordinator.idle_of_takesUp taken here
      rw [working] at idle
      cases idle
    · rintro rfl
      exact Coordinator.feeds_of_busy found busy
  cases Coordinator.arises_of_after found busy with
  | same here working => exact kept here working rfl
  | @welcome first reg decoded greets =>
      by_cases unchanged : (x.coordinator.after (.connect conn first)).connections conn =
          x.coordinator.connections conn
      · exact kept (unchanged.symm.trans found) busy rfl
      · obtain ⟨taken, register⟩ := Coordinator.takesUp_of_connected unchanged
        refine ⟨_, handling_taken taken, ?_, rfl⟩
        unfold Frame.temperature
        rw [register, greets]
        rfl
  | @accepted m here accepts =>
      have taken : x.coordinator.takesUp (.frame conn m) = some (conn, m) := by
        unfold Coordinator.takesUp
        split
        case isTrue running =>
          dsimp only
          rw [here]
        case isFalse stopped =>
          have same : x.coordinator.after (.frame conn m) = x.coordinator := if_neg stopped
          have found : (x.coordinator.after (.frame conn m)).connections conn = some c := found
          rw [same, here] at found
          rw [← Option.some.inj found] at busy
          cases busy
      exact ⟨_, handling_taken taken, temperature_of_accepts accepts, rfl⟩
  | planned here reserves => exact kept here rfl (by rw [reserves]; rfl)

/-- Nothing has been fed for a frame when the first section acknowledges it. -/
theorem acksFed_frame_iff (conn : Nat) (m : Frame) :
    x.AcksFed (.frame conn m) ↔ x.ThermalBlank (.frame conn m) := by
  constructor
  · rintro fed conn' m' o ⟨⟩ written type
    obtain ⟨idle, passes⟩ := Coordinator.markWrite_frame_iff.mp written
    obtain ⟨reply, replied, ok⟩ := CoordShared.acknowledges_thermal type passes
    have sent := Coordinator.sends_frame_iff.mpr ⟨idle, rfl, replied⟩
    have handles := handling_taken (Coordinator.takesUp_frame idle m)
    cases temperature : m.temperature with
    | none => rfl
    | some t => cases fed conn reply ⟨m, []⟩ t sent ok handles temperature
  · intro blank conn' reply h t sent ok handles temperature
    obtain ⟨idle, rfl, replied⟩ := Coordinator.sends_frame_iff.mp sent
    rw [handling_taken (Coordinator.takesUp_frame idle m)] at handles
    obtain rfl := Option.some.inj handles
    rcases CoordShared.acknowledged_of_receive replied ok with ⟨type, o, passes⟩ | type
    · have written := Coordinator.markWrite_frame_iff.mpr ⟨idle, passes⟩
      rw [blank conn' m o rfl written type] at temperature
      cases temperature
    · unfold Frame.temperature at temperature
      rw [type] at temperature
      cases temperature

/-- A section feeds the temperature of its frame before it answers. -/
theorem acksFed_proceed (attends : x.Attends) (conn : Nat) : x.AcksFed (.proceed conn) := by
  intro conn' reply h t sent ok handles temperature
  obtain ⟨running, rfl, reg, work, found, ran⟩ := Coordinator.sends_proceed_iff.mp sent
  obtain ⟨before, handled, carried, nothing⟩ := attends conn' _ work found rfl
  have feeds : x.coordinator.feeds (.proceed conn') = work.feeds x.coordinator.shared.gov := by
    unfold Coordinator.feeds
    rw [Coordinator.works_proceed running found]
    rfl
  unfold after at handles
  dsimp only at handles
  rw [Function.update_self, handled, feeds, Option.map_some, nothing] at handles
  obtain rfl := Option.some.inj handles
  have once := Pending.feeds_of_run ran
  rw [← carried, temperature] at once
  simpa using once

theorem acksFed_iff (attends : x.Attends) (event : Event) :
    x.AcksFed event ↔ x.ThermalBlank event := by
  have unframed : (∀ conn m, event ≠ .frame conn m) → x.ThermalBlank event :=
    fun other conn m o same => absurd same (other conn m)
  cases event with
  | frame conn m => exact acksFed_frame_iff conn m
  | proceed conn =>
      exact ⟨fun _ => unframed (by rintro _ _ ⟨⟩), fun _ => acksFed_proceed attends conn⟩
  | connect conn first =>
      refine ⟨fun _ => unframed (by rintro _ _ ⟨⟩), fun _ conn' reply h t sent ok => ?_⟩
      rw [Coordinator.refused_of_connect sent] at ok
      cases ok
  | _ =>
      refine ⟨fun _ => unframed (by rintro _ _ ⟨⟩), fun _ conn' reply h t sent => ?_⟩
      unfold Coordinator.sends at sent
      split at sent <;> cases sent

/-- Along every run each temperature that is acknowledged has been fed exactly once
exactly when the THERMAL_OBSERVATIONs that pass the fence carry none. -/
theorem acknowledged_temperatures_fed_iff (events : List Event) :
    Along after AcksFed start events ↔ Along after ThermalBlank start events := by
  refine along_congr_of_invariant Attends ?_ ?_ ?_ events
  · intro x event attends
    exact acksFed_iff attends event
  · intro x event attends _
    exact attends_after attends event
  · intro conn c work found
    cases found

/-- Worker 1 sends a temperature. -/
def heating : List Event :=
  [.connect 1 (registerFrame 1 10), .proceed 1, .frame 1 temperatureFrame]

/-- It is acknowledged and goes nowhere. -/
theorem temperature_dropped : ¬ ∀ events, Along after AcksFed start events := by
  intro fed
  obtain ⟨_, _, acks, _⟩ := fed heating
  have blank := (acksFed_frame_iff 1 temperatureFrame).mp acks
  have written : ((heating.take 2).foldl after start).coordinator.markWrite
      (.frame 1 temperatureFrame) = some (.accept temperatureMsg.stamp) := by decide +kernel
  have none := blank 1 temperatureFrame temperatureMsg.stamp rfl written rfl
  have carried : temperatureFrame.temperature = some 50 := by decide +kernel
  rw [none] at carried
  cases carried

end Attended

end PowerGovernor
