import PowerGovernor.Governor.AllowSoundness
import PowerGovernor.Governor.Doubles
import PowerGovernor.Persistence.LoadedState

/-!
Decisions after a recovery.

Owns the runs that follow a successful load without a further power reading, and
the exact condition under which a decision in them returns: the power window,
which the recovery does not clear, spans no more than a `Duration`, and neither its
average nor the energy of the request is infinite or NaN. Every decision that returns
asks for revalidation.
-/

set_option autoImplicit false

namespace PowerGovernor

/-! ## Runs after a recovery -/

/-- Every call but an observation that carries power at a non-zero time. -/
def GovernorCall.Quiet : GovernorCall → Prop
  | .observeBackend sample now => sample.power = none ∨ now.isZero = true
  | _ => True

/-- No power observation at a non-zero time is known. -/
def Telemetry.Dark (seen : Telemetry) : Prop :=
  (seen.observed.getD Timestamp.zero).isZero = true

theorem Telemetry.Dark.after {seen : Telemetry} (dark : seen.Dark) (g : Governor)
    {call : GovernorCall} (quiet : call.Quiet) : (seen.after g call).Dark := by
  cases call with
  | observeBackend sample now =>
      unfold Telemetry.after
      cases power : sample.power with
      | none =>
          simp only [power]
          exact dark
      | some amount =>
          simp only [power]
          rcases quiet with absent | zero
          · rw [power] at absent
            cases absent
          · exact zero
  | load file now =>
      unfold Telemetry.after
      dsimp only
      split
      · rfl
      · exact dark
  | invalidateLiveTelemetry => rfl
  | _ => exact dark

theorem Telemetry.Dark.foldl {s : Governor × Telemetry} (dark : s.2.Dark)
    {calls : List GovernorCall} (quiet : ∀ call ∈ calls, call.Quiet) :
    (calls.foldl governorStep s).2.Dark := by
  induction calls generalizing s with
  | nil => exact dark
  | cons call rest inductionHypothesis =>
      apply inductionHypothesis
      · exact dark.after s.1 (quiet call List.mem_cons_self)
      · exact fun other member => quiet other (List.mem_cons_of_mem call member)

/-! ## Calls as they are made -/

/-- Any call, or a decision whose duration is a double. -/
abbrev CallerCall := GovernorCall ⊕ DecisionCall

namespace CallerCall

/-- A step of a run. A decision tells no telemetry. -/
def after (s : Governor × Telemetry) : CallerCall → Governor × Telemetry
  | .inl call => governorStep s call
  | .inr call => ((call.decideFor.exec s.1).2, s.2)

/-- No power reading at a non-zero time. -/
def Quiet : CallerCall → Prop
  | .inl call => call.Quiet
  | .inr _ => True

/-- A step is one of a Governor, or it throws and changes nothing. -/
theorem after_cases (s : Governor × Telemetry) (call : CallerCall) :
    call.after s = s ∨ ∃ made, call.after s = governorStep s made := by
  cases call with
  | inl call => exact .inr ⟨call, rfl⟩
  | inr call =>
      rcases call.decideFor_cases s.1 with ⟨fault, _, thrown⟩ | ⟨_, same⟩
      · refine .inl ?_
        show ((call.decideFor.exec s.1).2, s.2) = s
        rw [thrown]
      · refine .inr ⟨call.exact, ?_⟩
        show ((call.decideFor.exec s.1).2, s.2) = governorStep s call.exact
        rw [same]
        rfl

/-- A run of quiet calls stays reachable and dark. -/
theorem dark_foldl {s : Governor × Telemetry} (reached : governorRuns.Reachable s)
    (dark : s.2.Dark) {calls : List CallerCall} (quiet : ∀ call ∈ calls, call.Quiet) :
    governorRuns.Reachable (calls.foldl after s) ∧ (calls.foldl after s).2.Dark := by
  induction calls generalizing s with
  | nil => exact ⟨reached, dark⟩
  | cons call rest inductionHypothesis =>
      have next : governorRuns.Reachable (call.after s) := by
        rcases call.after_cases s with same | ⟨made, step⟩
        · rw [same]
          exact reached
        · exact .step made reached step
      have stays : (call.after s).2.Dark := by
        cases call with
        | inl call => exact dark.after s.1 (quiet (.inl call) List.mem_cons_self)
        | inr call => exact dark
      exact inductionHypothesis next stays
        fun other member => quiet other (List.mem_cons_of_mem call member)

end CallerCall

namespace Governor

/-- The state after a load and further calls. -/
def afterLoad (s : Governor × Telemetry) (file : Option Bytes) (loadedAt : Timestamp)
    (calls : List CallerCall) : Governor :=
  (calls.foldl CallerCall.after (governorStep s (.load file loadedAt))).1

/-- After a load that returned `true`, and any calls without a power reading at a
non-zero time, a decision asks for revalidation exactly when a device, if there is one,
holds a window that spans no more than a `Duration` and averages to a finite double, and
the energy of the request is finite. -/
theorem revalidates_after_load_iff {s : Governor × Telemetry}
    (reached : governorRuns.Reachable s) {file : Option Bytes} {loadedAt : Timestamp}
    (loaded : (s.1.load file loadedAt).1 = .ok true) {calls : List CallerCall}
    (quiet : ∀ call ∈ calls, call.Quiet) (decision : DecisionCall) :
    decision.Revalidates (afterLoad s file loadedAt calls) ↔
      ∀ ds ∈ (afterLoad s file loadedAt calls).device,
        ds.powerWindow.Spans ∧ ds.powerWindow.FiniteAverage ∧
          decision.requested.EnergyFinite decision.duration := by
  have dark : (governorStep s (.load file loadedAt)).2.Dark := by
    show (Telemetry.after s.2 s.1 (.load file loadedAt)).Dark
    unfold Telemetry.after
    dsimp only
    rw [if_pos loaded]
    rfl
  obtain ⟨final, kept⟩ := CallerCall.dark_foldl (.step _ reached rfl) dark quiet
  unfold afterLoad
  have tracked := congrArg Prod.fst (tracks_of_reachable final)
  obtain ⟨stock, ordered⟩ := DeviceState.ordered_invariant.of_reachable final
  generalize calls.foldl CallerCall.after (governorStep s (.load file loadedAt)) = last at *
  have never : last.1.live.lastObserved.isZero = true := by
    show last.1.evidenceOf.1.isZero = true
    rw [tracked]
    exact kept
  exact DecisionCall.revalidates_iff stock ordered never decision

/-! ## Concrete recoveries -/

/-- A reading of 10 W at each of the times. -/
def readingsAt (times : List Timestamp) : List GovernorCall :=
  times.map (.observeBackend reportedSample)

/-- A fresh Governor after those readings. -/
def observedAt (times : List Timestamp) : Governor × Telemetry :=
  (readingsAt times).foldl governorStep (firstGovernor, ⟨none, none⟩)

theorem reachable_observedAt (times : List Timestamp) :
    governorRuns.Reachable (observedAt times) :=
  reachable_foldl (.start ⟨_, _, rfl⟩) _

/-- 5 W of budget 2 for one second. -/
def smallRequest (duration : Double) : DecisionCall where
  budget := ⟨2⟩
  workload := ⟨1⟩
  cls := .throughput
  requested := Watts.clamped 5
  requestedEnergy := Joules.zero
  duration := duration
  now := decisionTime

/-- A policy is installed, a sample without power arrives, and a decision without a
duration is refused. -/
def quietCalls : List CallerCall :=
  [.inl (.installPolicy (PowerPolicy.defaults ⟨5⟩ defaultName)),
    .inl (.observeBackend { reportedSample with power := none } decisionTime),
    .inr (smallRequest .nan)]

/-- Two readings, a recovery and quiet calls. -/
theorem revalidates_after_load_twoReadings :
    (smallRequest (.finite 1)).Revalidates (afterLoad (observedAt [.oneNano, decisionTime])
      (some (fileWith [namedBudget] [] [])) decisionTime quietCalls) := by
  have loaded : ((observedAt [.oneNano, decisionTime]).1.load
      (some (fileWith [namedBudget] [] [])) decisionTime).1 = .ok true := by decide +kernel
  have quiet : ∀ call ∈ quietCalls, call.Quiet := by
    intro call member
    simp only [quietCalls, List.mem_cons, List.not_mem_nil, or_false] at member
    rcases member with rfl | rfl | rfl
    · exact trivial
    · exact .inl rfl
    · exact trivial
  have held : (afterLoad (observedAt [.oneNano, decisionTime]) (some (fileWith [namedBudget] [] []))
      decisionTime quietCalls).device.map (fun ds => ds.powerWindow.samples) =
        some [⟨.oneNano, Watts.clamped 10⟩, ⟨decisionTime, Watts.clamped 10⟩] := by decide +kernel
  apply (revalidates_after_load_iff (reachable_observedAt _) loaded quiet _).mpr
  intro ds present
  rw [Option.mem_def.mp present] at held
  have samples : ds.powerWindow.samples =
      [⟨.oneNano, Watts.clamped 10⟩, ⟨decisionTime, Watts.clamped 10⟩] := Option.some.inj held
  have ordered : ds.powerWindow.Ordered := by
    unfold PowerWindow.Ordered
    rw [samples]
    decide
  have spans : ds.powerWindow.Spans := by
    unfold PowerWindow.Spans
    rw [samples]
    decide
  refine ⟨spans, PowerWindow.finiteAverage_of_bounded ordered spans ?_ ?_, ?_⟩
  · rw [samples]
    decide
  · rw [samples]
    decide +kernel
  · have energy : (Watts.clamped 5).value * max 1 0 ≤ 2 ^ 3 := by
      rw [Watts.clamped_value]
      norm_num
    exact Binary64.not_overflows_of_le (by decide +kernel) energy (by decide)

/-- Two times further apart than a `Duration` can hold. -/
def distantTimes : List Timestamp :=
  [.oneNano, ⟨4611686018427387905, by decide, by decide⟩]

/-- Readings further apart than a `Duration` can hold outlast the recovery, and the
decision after it ends in an exception. -/
theorem decision_after_load_terminates :
    ¬ ∀ (s : Governor × Telemetry) (file : Option Bytes) (loadedAt : Timestamp)
      (calls : List CallerCall) (decision : DecisionCall), governorRuns.Reachable s →
      (s.1.load file loadedAt).1 = .ok true → (∀ call ∈ calls, call.Quiet) →
      decision.Revalidates (afterLoad s file loadedAt calls) := by
  intro claimed
  have loaded : ((observedAt distantTimes).1.load (some (fileWith [] [] [])) decisionTime).1 =
      .ok true := by decide +kernel
  obtain ⟨d, g', decided, _⟩ := claimed (observedAt distantTimes) _ _ [] (smallRequest (.finite 1))
    (reachable_observedAt _) loaded (fun call member => nomatch member)
  have thrown : ((smallRequest (.finite 1)).decideFor.exec (afterLoad (observedAt distantTimes)
      (some (fileWith [] [] [])) decisionTime [])).1.isOk = false := by decide +kernel
  rw [decided] at thrown
  cases thrown

end Governor

end PowerGovernor
