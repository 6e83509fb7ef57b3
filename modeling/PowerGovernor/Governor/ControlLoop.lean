import PowerGovernor.Governor.AllowSoundness
import PowerGovernor.Governor.History

/-!
The control loop: a Governor and its backend.

Owns the fake backend, the calls that sample and control it outside the lock, any number
of which run beside the other calls, and two theorems: which applied limit the Governor
goes by and what the history may claim, and that no decision recommends more than a limit
that the last poll has seen.

Does not own the clocks and the utilization of the backend, which the Governor never reads.
-/

set_option autoImplicit false

namespace PowerGovernor

/-! ## The backend -/

structure FakeBackend where
  power : Option Watts
  temp : Option Celsius
  applied : Option Watts
  throttled : Bool
  synthetic : Bool

namespace FakeBackend

def construct : FakeBackend := ⟨none, none, none, false, true⟩

def sample (b : FakeBackend) : BackendSample where
  power := b.power
  temperature := b.temp
  powerLimit := b.applied
  throttled := b.throttled
  provenance := if b.synthetic then .derived else .measured

/-- A limit that is not positive is refused, none clears the limit. -/
def setPowerLimit (b : FakeBackend) : Option Watts → ControlResult × FakeBackend
  | some limit =>
    if limit.value ≤ 0 then (.failed, b) else (.applied, { b with applied := some limit })
  | none => (.applied, { b with applied := none })

def restorePowerLimit (b : FakeBackend) : ControlResult × FakeBackend :=
  (.applied, { b with applied := none })

theorem setPowerLimit_refused (b : FakeBackend) (limit : Option Watts)
    (refused : (b.setPowerLimit limit).1 ≠ .applied) : (b.setPowerLimit limit).2 = b := by
  unfold setPowerLimit at refused ⊢
  cases limit with
  | none => exact absurd rfl refused
  | some w =>
      dsimp only at refused ⊢
      split
      · rfl
      · rename_i positive
        rw [if_neg positive] at refused
        exact absurd rfl refused

/-- What is applied is what was asked for, and positive. -/
theorem setPowerLimit_applied (b : FakeBackend) (limit : Option Watts)
    (applied : (b.setPowerLimit limit).1 = .applied) :
    (b.setPowerLimit limit).2.applied = limit ∧ ∀ w, limit = some w → 0 < w.value := by
  unfold setPowerLimit at applied ⊢
  cases limit with
  | none => exact ⟨rfl, fun _ none => by cases none⟩
  | some w =>
      dsimp only at applied ⊢
      by_cases small : w.value ≤ 0
      · rw [if_pos small] at applied
        cases applied
      · rw [if_neg small]
        refine ⟨rfl, ?_⟩
        rintro w ⟨⟩
        exact lt_of_not_ge small

end FakeBackend

/-! ## The loop -/

/-- A `poll` that has its sample and waits for the lock. `seen` counts the limits that had
been applied when it was taken; no step reads it. -/
structure Poll where
  sample : BackendSample
  time : Timestamp
  seen : Nat

/-- A `set_power_limit` that has the answer of the backend and waits for the lock. -/
structure Control where
  limit : Option Watts
  result : ControlResult

/-- A Governor with its backend and the threads that are between the two. `limits` records
what was applied, `known` the poll that the Governor took its limit from, and `reported`
everything that was appended to the history; no step reads them. -/
structure ControlLoop where
  gov : Governor
  backend : FakeBackend
  polls : Nat → Option Poll
  controls : Nat → Option Control
  limits : List (Option Watts)
  known : Option Nat
  reported : List Report

/-- A step: the device or its mode changes, a thread samples the backend or ingests its
sample, a thread sets the limit or reports the answer, a thread restores the limit, or
another call of the Governor. -/
inductive LoopEvent where
  | device (power : Option Watts) (temp : Option Celsius) (throttled synthetic : Bool)
  | poll (thread : Nat) (now clock : Timestamp)
  | ingest (thread : Nat)
  | setPowerLimit (thread : Nat) (limit : Option Watts)
  | report (thread : Nat) (clock : Timestamp)
  | restorePowerLimit
  | call (call : GovernorCall) (path : Bytes) (clock : Timestamp)

namespace ControlLoop

def start (cfg : GovernorConfig) (ids : Allocators) : ControlLoop where
  gov := .construct cfg ids
  backend := .construct
  polls _ := none
  controls _ := none
  limits := [none]
  known := none
  reported := []

/-- The limit that the backend has applied now becomes the last one. -/
def control (s : ControlLoop) (backend : FakeBackend) (result : ControlResult) : ControlLoop :=
  { s with
    backend := backend
    limits := if result = .applied then s.limits ++ [backend.applied] else s.limits }

/-- The loop after a step. A step that is not enabled changes nothing. -/
def after (s : ControlLoop) : LoopEvent → ControlLoop
  | .device power temp throttled synthetic =>
    { s with backend := ⟨power, temp, s.backend.applied, throttled, synthetic⟩ }
  | .poll thread now clock =>
    match s.polls thread with
    | some _ => s
    | none =>
      let time := if now.isZero then clock else now
      let p : Poll := ⟨s.backend.sample, time, s.limits.length - 1⟩
      { s with polls := Function.update s.polls thread (some p) }
  | .ingest thread =>
    match s.polls thread with
    | none => s
    | some p =>
      let call := GovernorCall.observeBackend p.sample p.time
      { s with
        gov := call.after s.gov
        polls := Function.update s.polls thread none
        known :=
          if p.sample.power.isSome ∧
              ((Governor.observeBackend p.sample p.time).exec s.gov).1.isOk then some p.seen
          else s.known
        reported := s.reported ++ call.reports s.gov [] p.time }
  | .setPowerLimit thread limit =>
    match s.controls thread with
    | some _ => s
    | none =>
      let (result, backend) := s.backend.setPowerLimit limit
      { s.control backend result with
        controls := Function.update s.controls thread (some ⟨limit, result⟩) }
  | .report thread clock =>
    match s.controls thread with
    | none => s
    | some c =>
      { s with
        controls := Function.update s.controls thread none
        reported := s.reported ++ Governor.limitReports c.limit c.result clock }
  | .restorePowerLimit =>
    let (result, backend) := s.backend.restorePowerLimit
    s.control backend result
  | .call call path clock =>
    { s with gov := call.after s.gov, reported := s.reported ++ call.reports s.gov path clock }

/-- The observations of the Governor are the polls. -/
def PollsOnly (_s : ControlLoop) : LoopEvent → Prop
  | .call (.observeBackend _ _) _ _ => False
  | _ => True

def runs (cfg : GovernorConfig) (ids : Allocators) : TransitionSystem ControlLoop LoopEvent :=
  guardedRuns after PollsOnly (start cfg ids)

end ControlLoop

/-! ## The limit of the Governor -/

namespace Governor

/-- What a call makes of the limit the Governor goes by. -/
theorem hardwareCap_after (g : Governor) (call : GovernorCall) :
    (call.after g).live.hardwareCap =
      (Telemetry.after ⟨some g.live.lastObserved, g.live.hardwareCap⟩ g call).limit := by
  have tracks : Telemetry.Tracks ⟨some g.live.lastObserved, g.live.hardwareCap⟩ g := rfl
  exact congrArg Prod.snd (tracks.after call)

theorem hardwareCap_observe (g : Governor) (sample : BackendSample) (now : Timestamp) :
    ((GovernorCall.observeBackend sample now).after g).live.hardwareCap =
      if sample.power.isSome ∧ ((observeBackend sample now).exec g).1.isOk then sample.powerLimit
      else g.live.hardwareCap := by
  rw [hardwareCap_after]
  unfold Telemetry.after
  cases power : sample.power with
  | none => simp [power]
  | some amount => simp [power]

theorem hardwareCap_other (g : Governor) {call : GovernorCall}
    (other : ∀ sample now, call ≠ .observeBackend sample now) :
    (call.after g).live.hardwareCap = g.live.hardwareCap := by
  rw [hardwareCap_after]
  cases call with
  | observeBackend sample now => exact absurd rfl (other sample now)
  | load file now =>
      unfold Telemetry.after
      dsimp only
      split <;> rfl
  | _ => rfl

end Governor

namespace ControlLoop

/-- The message of a limit that was applied. -/
def Claims (report : Report) (limits : List (Option Watts)) : Prop :=
  ∃ limit ∈ limits, ∃ clock, Governor.limitReports limit .applied clock = [report]

/-- Every limit in the loop is one that was applied. -/
structure Tracks (s : ControlLoop) : Prop where
  applied : s.limits.getLast? = some s.backend.applied
  positive : ∀ limit, some limit ∈ s.limits → 0 < limit.value
  polls : ∀ thread p, s.polls thread = some p → s.limits[p.seen]? = some p.sample.powerLimit
  cap : match s.known with
    | none => s.gov.live.hardwareCap = none
    | some n => s.limits[n]? = some s.gov.live.hardwareCap
  controls : ∀ thread c, s.controls thread = some c → c.result = .applied → c.limit ∈ s.limits
  claims : ∀ report ∈ s.reported, report.kind = .powerControlCapabilityChanged →
    Claims report s.limits

variable {s : ControlLoop}

theorem getElem?_of_prefix {α : Type} {shorter longer : List α} (grown : shorter <+: longer)
    {n : Nat} {a : α} (found : shorter[n]? = some a) : longer[n]? = some a := by
  obtain ⟨within, rfl⟩ := List.getElem?_eq_some_iff.mp found
  exact List.prefix_iff_getElem?.mp grown n within

namespace Tracks

theorem nonempty (tracks : s.Tracks) : s.limits ≠ [] := by
  intro empty
  have applied := tracks.applied
  rw [empty] at applied
  cases applied

/-- The limit that is applied is the last one. -/
theorem last (tracks : s.Tracks) : s.limits[s.limits.length - 1]? = some s.backend.applied := by
  rw [← List.getLast?_eq_getElem?]
  exact tracks.applied

theorem claims_append (tracks : s.Tracks) {limits : List (Option Watts)}
    (grown : s.limits <+: limits) :
    ∀ report ∈ s.reported, report.kind = .powerControlCapabilityChanged →
      Claims report limits := by
  intro report member kind
  obtain ⟨limit, among, claimed⟩ := tracks.claims report member kind
  exact ⟨limit, grown.subset among, claimed⟩

theorem cap_append (tracks : s.Tracks) {limits : List (Option Watts)}
    (grown : s.limits <+: limits) :
    match s.known with
    | none => s.gov.live.hardwareCap = none
    | some n => limits[n]? = some s.gov.live.hardwareCap := by
  have cap := tracks.cap
  cases known : s.known with
  | none =>
      rw [known] at cap
      exact cap
  | some n =>
      rw [known] at cap
      exact getElem?_of_prefix grown cap

/-- A control of the backend. -/
theorem control (tracks : s.Tracks) {backend : FakeBackend} {result : ControlResult}
    (refused : result ≠ .applied → backend.applied = s.backend.applied)
    (positive : result = .applied → ∀ limit, backend.applied = some limit → 0 < limit.value) :
    (s.control backend result).Tracks := by
  unfold ControlLoop.control
  by_cases applied : result = .applied
  case neg =>
    rw [if_neg applied]
    exact ⟨(refused applied).symm ▸ tracks.applied, tracks.positive, tracks.polls, tracks.cap,
      tracks.controls, tracks.claims⟩
  case pos =>
    have grown : s.limits <+: s.limits ++ [backend.applied] := List.prefix_append _ _
    rw [if_pos applied]
    refine ⟨List.getLast?_concat, ?_, ?_, tracks.cap_append grown, ?_,
      tracks.claims_append grown⟩
    · intro limit member
      rcases List.mem_append.mp member with before | last
      · exact tracks.positive limit before
      · exact positive applied limit (List.mem_singleton.mp last).symm
    · exact fun thread p found => getElem?_of_prefix grown (tracks.polls thread p found)
    · exact fun thread c found ok => grown.subset (tracks.controls thread c found ok)

/-- Another call of the Governor, or an observation of it. -/
theorem called (tracks : s.Tracks) {call : GovernorCall} {path : Bytes} {clock : Timestamp}
    {known : Option Nat}
    (cap : match known with
      | none => (call.after s.gov).live.hardwareCap = none
      | some n => s.limits[n]? = some (call.after s.gov).live.hardwareCap) :
    Tracks { s with
      gov := call.after s.gov
      known := known
      reported := s.reported ++ call.reports s.gov path clock } := by
  refine ⟨tracks.applied, tracks.positive, tracks.polls, cap, tracks.controls, ?_⟩
  intro report member kind
  rcases List.mem_append.mp member with before | new
  · exact tracks.claims report before kind
  · have among := GovernorCall.kind_mem new
    rw [kind] at among
    cases call <;> simp [GovernorCall.kinds] at among

/-- A thread takes a sample, or is done with it. -/
theorem sampled (tracks : s.Tracks) {thread : Nat} {taken : Option Poll}
    (now : ∀ p, taken = some p → s.limits[p.seen]? = some p.sample.powerLimit) :
    Tracks { s with polls := Function.update s.polls thread taken } := by
  refine ⟨tracks.applied, tracks.positive, ?_, tracks.cap, tracks.controls, tracks.claims⟩
  intro other p found
  by_cases same : other = thread
  · subst same
    dsimp only at found
    rw [Function.update_self] at found
    exact now p found
  · dsimp only at found
    rw [Function.update_of_ne same] at found
    exact tracks.polls other p found

/-- A thread has an answer of the backend, or is done with it. -/
theorem answered (tracks : s.Tracks) {thread : Nat} {answer : Option Control}
    (now : ∀ c, answer = some c → c.result = .applied → c.limit ∈ s.limits) :
    Tracks { s with controls := Function.update s.controls thread answer } := by
  refine ⟨tracks.applied, tracks.positive, tracks.polls, tracks.cap, ?_, tracks.claims⟩
  intro other c found
  by_cases same : other = thread
  · subst same
    dsimp only at found
    rw [Function.update_self] at found
    exact now c found
  · dsimp only at found
    rw [Function.update_of_ne same] at found
    exact tracks.controls other c found

/-- The answer of the backend is reported. -/
theorem limitReported (tracks : s.Tracks) {c : Control} (clock : Timestamp)
    (applied : c.result = .applied → c.limit ∈ s.limits) :
    Tracks { s with reported := s.reported ++ Governor.limitReports c.limit c.result clock } := by
  refine ⟨tracks.applied, tracks.positive, tracks.polls, tracks.cap, tracks.controls, ?_⟩
  intro report member kind
  rcases List.mem_append.mp member with before | new
  · exact tracks.claims report before kind
  · by_cases ok : c.result = .applied
    · rw [ok] at new
      have one := List.mem_singleton.mp new
      exact ⟨c.limit, applied ok, clock, congrArg (fun report => [report]) one.symm⟩
    · unfold Governor.limitReports at new
      rw [if_neg ok] at new
      cases new

theorem ingested (tracks : s.Tracks) {p : Poll}
    (seen : s.limits[p.seen]? = some p.sample.powerLimit) :
    match
      if p.sample.power.isSome ∧
        ((Governor.observeBackend p.sample p.time).exec s.gov).1.isOk then some p.seen
      else s.known with
    | none => ((GovernorCall.observeBackend p.sample p.time).after s.gov).live.hardwareCap = none
    | some n => s.limits[n]? =
        some ((GovernorCall.observeBackend p.sample p.time).after s.gov).live.hardwareCap := by
  rw [Governor.hardwareCap_observe]
  by_cases read : p.sample.power.isSome ∧
      ((Governor.observeBackend p.sample p.time).exec s.gov).1.isOk
  · rw [if_pos read, if_pos read]
    exact seen
  · rw [if_neg read, if_neg read]
    exact tracks.cap

end Tracks

theorem tracks_start (cfg : GovernorConfig) (ids : Allocators) : (start cfg ids).Tracks := by
  refine ⟨rfl, ?_, ?_, rfl, ?_, fun _ member => absurd member List.not_mem_nil⟩
  · intro limit member
    cases List.mem_singleton.mp member
  · intro thread p found
    cases found
  · intro thread c found
    cases found

theorem tracks_after (tracks : s.Tracks) {event : LoopEvent} (meets : s.PollsOnly event) :
    (s.after event).Tracks := by
  cases event with
  | device power temp throttled synthetic =>
      exact ⟨tracks.applied, tracks.positive, tracks.polls, tracks.cap, tracks.controls,
        tracks.claims⟩
  | poll thread now clock =>
      unfold after
      dsimp only
      cases s.polls thread with
      | some p => exact tracks
      | none =>
          apply tracks.sampled
          rintro p ⟨⟩
          exact tracks.last
  | ingest thread =>
      unfold after
      dsimp only
      cases found : s.polls thread with
      | none => exact tracks
      | some p =>
          have seen := tracks.polls thread p found
          refine (tracks.called (tracks.ingested seen)).sampled ?_
          rintro p ⟨⟩
  | setPowerLimit thread limit =>
      unfold after
      dsimp only
      cases s.controls thread with
      | some c => exact tracks
      | none =>
          have controlled : (s.control (s.backend.setPowerLimit limit).2
              (s.backend.setPowerLimit limit).1).Tracks := by
            refine tracks.control (fun refused => ?_) fun applied w limited => ?_
            · rw [s.backend.setPowerLimit_refused limit refused]
            · obtain ⟨same, positive⟩ := s.backend.setPowerLimit_applied limit applied
              exact positive w (same.symm.trans limited)
          refine controlled.answered ?_
          rintro c ⟨⟩ applied
          dsimp only at applied ⊢
          unfold control
          dsimp only
          rw [if_pos applied, (s.backend.setPowerLimit_applied limit applied).1]
          exact List.mem_append_right _ (List.mem_singleton_self _)
  | report thread clock =>
      unfold after
      dsimp only
      cases found : s.controls thread with
      | none => exact tracks
      | some c =>
          refine (tracks.limitReported clock ?_).answered ?_
          · exact tracks.controls thread c found
          · rintro c ⟨⟩
  | restorePowerLimit =>
      refine tracks.control (fun refused => absurd rfl refused) fun _ w limited => ?_
      cases limited
  | call call path clock =>
      refine tracks.called ?_
      rw [s.gov.hardwareCap_other ?_]
      · exact tracks.cap
      · rintro sample now rfl
        exact meets

theorem tracks_of_reachable {cfg : GovernorConfig} {ids : Allocators}
    (reached : (runs cfg ids).Reachable s) : s.Tracks := by
  induction reached with
  | start init => exact init ▸ tracks_start cfg ids
  | step event _ stepped inductionHypothesis =>
      exact stepped.2 ▸ tracks_after inductionHypothesis stepped.1

/-- In every run of the threads, the Governor goes by no limit or by the one that was applied
when the poll it last took was sampled, every limit that was applied is positive, and the
history only claims limits that were applied. -/
theorem loop_tracks_limit {cfg : GovernorConfig} {ids : Allocators}
    (reached : (runs cfg ids).Reachable s) :
    (match s.known with
      | none => s.gov.live.hardwareCap = none
      | some n => s.limits[n]? = some s.gov.live.hardwareCap) ∧
    (∀ limit, some limit ∈ s.limits → 0 < limit.value) ∧
    ∀ report ∈ s.reported, report.kind = .powerControlCapabilityChanged →
      Claims report s.limits :=
  have tracks := tracks_of_reachable reached
  ⟨tracks.cap, tracks.positive, tracks.claims⟩

/-- A decision is under the limit that was applied when the poll was sampled: under the limit
that is applied now where none was set or restored since then. -/
theorem decision_under_polled_limit {cfg : GovernorConfig} {ids : Allocators}
    (reached : (runs cfg ids).Reachable s) {n : Nat} {w : Watts} (known : s.known = some n)
    (polled : s.limits[n]? = some (some w)) {budget : BudgetId} {workload : WorkloadId}
    {cls : WorkloadPowerClass} {requested : Watts} {requestedEnergy : Joules} {duration : ℚ}
    {now : Timestamp} {d : Decision} {g' : Governor}
    (returned : (Governor.decideFor budget workload cls requested requestedEnergy duration
      now).exec s.gov = (.ok d, g')) :
    (∀ limit, d.recommendedLimit = some limit → limit.value ≤ w.value + 1 / 1000000000) ∧
    (d.verdict = .allow → requested.value ≤ w.value + 1 / 1000000000) ∧
    (n + 1 = s.limits.length → s.backend.applied = some w) := by
  have tracks := tracks_of_reachable reached
  have cap := tracks.cap
  rw [known] at cap
  have reported : s.gov.live.hardwareCap = some w := Option.some.inj (cap.symm.trans polled)
  obtain ⟨ceiling, least, under⟩ := Governor.hardwareCeiling_le_reported reported
  obtain ⟨input, engine, outcome, fills, resolved, verdict, limited⟩ :=
    Governor.limit_of_decideFor returned
  have respects := DecisionEngine.respects_resolve resolved
  have isCap : input.IsCap ceiling := .inl (fills.hardware.trans least)
  refine ⟨fun limit found => ?_, fun allow => ?_, fun latest => ?_⟩
  · have below := respects.limit limit ceiling (limited ▸ found) isCap
    exact below.trans (add_le_add_left under _)
  · obtain ⟨passed, _⟩ := respects.allow (verdict ▸ allow)
    have below := DecisionInput.requested_le_cap passed.underCeiling isCap
    rw [fills.requested] at below
    exact below.trans (add_le_add_left under _)
  · have last := tracks.last
    rw [← latest, Nat.add_sub_cancel, polled] at last
    exact (Option.some.inj last).symm

/-- 100 W are budgeted, the limit of the backend is set to 80 W, and a poll takes it. -/
def polling : List LoopEvent := [.call (.installBudget (budgetOf 2 0 1 100)) [] .fullSecond,
  .device (some (Watts.clamped 10)) none false true,
  .setPowerLimit 1 (some (Watts.clamped 80)), .report 1 .fullSecond,
  .poll 2 .fullSecond .fullSecond, .ingest 2]

def polled (events : List LoopEvent) : ControlLoop :=
  events.foldl after (start ⟨⟨1⟩, ⟨1⟩, .first⟩ .start)

theorem reachable_polling :
    (runs ⟨⟨1⟩, ⟨1⟩, .first⟩ .start).Reachable (polled polling) :=
  .foldl (.start rfl) ⟨trivial, trivial, trivial, trivial, trivial, trivial, trivial⟩

theorem loop_tracks_limit_polling :
    (polled polling).limits[1]? = some (polled polling).gov.live.hardwareCap ∧
      ∃ report ∈ (polled polling).reported, report.time = .fullSecond ∧
        Claims report (polled polling).limits := by
  obtain ⟨cap, _, claims⟩ := loop_tracks_limit reachable_polling
  have known : (polled polling).known = some 1 := by decide +kernel
  rw [known] at cap
  have reported : ∃ report ∈ (polled polling).reported, report.time = .fullSecond ∧
      report.kind = .powerControlCapabilityChanged := by decide +kernel
  obtain ⟨report, member, time, kind⟩ := reported
  exact ⟨cap, report, member, time, claims report member kind⟩

theorem decision_under_polled_limit_polling :
    (5 : ℚ) ≤ 80 + 1 / 1000000000 ∧
      (polled polling).backend.applied = some (Watts.clamped 80) := by
  have allows : (polled polling).gov.Allows ⟨2⟩ (Watts.clamped 5) decisionTime := by
    decide +kernel
  obtain ⟨d, g', returned, allow⟩ := allows
  have known : (polled polling).known = some 1 := by decide +kernel
  have limit : (polled polling).limits[1]? = some (some (Watts.clamped 80)) := by decide +kernel
  obtain ⟨_, under, latest⟩ := decision_under_polled_limit reachable_polling known limit returned
  have asked : (Watts.clamped 5).value = 5 := by norm_num
  have applied : (Watts.clamped 80).value = 80 := by norm_num
  have within := under allow
  rw [asked, applied] at within
  exact ⟨within, latest (by decide +kernel)⟩

/-- Two polls sample before and after the limit is set, and wait for the lock. -/
def overtaking : List LoopEvent := [.call (.installBudget (budgetOf 2 0 1 100)) [] .fullSecond,
  .device (some (Watts.clamped 10)) none false true, .poll 1 .fullSecond .fullSecond,
  .setPowerLimit 3 (some (Watts.clamped 80)), .report 3 .fullSecond,
  .poll 2 .fullSecond .fullSecond, .ingest 2, .ingest 1]

/-- A poll samples outside the lock: the one that sampled first takes the lock last, and the
limit that the other one has brought in is gone from the decisions. -/
theorem overtaken_poll_forgets_limit :
    ((polled (overtaking.take 7)).gov.live.hardwareCap = some (Watts.clamped 80) ∧
      ¬ (polled (overtaking.take 7)).gov.Allows ⟨2⟩ (Watts.clamped 90) decisionTime) ∧
    (polled overtaking).backend.applied = some (Watts.clamped 80) ∧
      (polled overtaking).gov.Allows ⟨2⟩ (Watts.clamped 90) decisionTime := by
  refine ⟨⟨?_, ?_⟩, ?_, ?_⟩
  all_goals decide +kernel

end ControlLoop

end PowerGovernor
