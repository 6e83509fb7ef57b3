import PowerGovernor.Governor.Agreement
import PowerGovernor.Governor.AllowSoundness

/-!
Observations that fail.

Owns what a failed observation must leave, the order of the observation times, and the exact
condition for both along a run. `ingest_locked` numbers and stores a sample before the
power window can refuse it, so a refused sample stays in the state.
-/

set_option autoImplicit false

namespace PowerGovernor

namespace DeviceState

variable {ds : DeviceState} {sample : BackendSample} {now : Timestamp}

/-- A sample is ingested exactly when the window takes the power it may carry. -/
theorem ingest_returns_iff (ordered : ds.powerWindow.Ordered) :
    ((ingest sample now).exec ds).1.isOk = true ↔
      (sample.power.isSome = true → ds.powerWindow.Takes now) := by
  rw [exec_ingest]
  cases sample.power with
  | none => exact iff_of_true rfl nofun
  | some power =>
      have given : ((some power).isSome = true → ds.powerWindow.Takes now) ↔
          (ds.powerWindow.record now power).2 = .ok () :=
        (forall_prop_of_true rfl).trans (PowerWindow.record_returns_iff ordered).symm
      rw [given]
      dsimp only
      cases (ds.powerWindow.record now power).2 with
      | error fault => exact iff_of_false nofun nofun
      | ok _ => exact iff_of_true rfl rfl

theorem lastObserved_ingest (sample : BackendSample) (now : Timestamp) (ds : DeviceState) :
    ((ingest sample now).exec ds).2.lastObserved =
      if sample.power.isSome then now else ds.lastObserved := by
  cases present : sample.power with
  | none => exact congrArg Prod.fst (ingest_without_power present now ds)
  | some power => exact congrArg Prod.fst (ingest_with_power present now ds)

end DeviceState

namespace Governor

variable {g g' : Governor} {call : GovernorCall} {sample : BackendSample} {now : Timestamp}

/-- The state of the device that decisions rely on, and the authority marks. -/
structure SameState (g g' : Governor) : Prop where
  latest : g'.live.latest = g.live.latest
  lastObserved : g'.live.lastObserved = g.live.lastObserved
  obsGen : g'.live.obsGen = g.live.obsGen
  thermal : g'.live.thermal = g.live.thermal
  hardwareCap : g'.live.hardwareCap = g.live.hardwareCap
  authority : g'.authority = g.authority

/-- An observation that ends with an exception changes nothing, and no call but an
invalidation or a load moves the time of the last observation back. -/
structure Careful (g : Governor) (call : GovernorCall) : Prop where
  failed : ∀ sample now fault, call = .observeBackend sample now →
    ((observeBackend sample now).exec g).1 = .error fault → g.SameState (call.after g)
  forward : ¬ call.Invalidates g → g.live.lastObserved.ns ≤ (call.after g).live.lastObserved.ns

/-- The power of an observation is taken by the window, and it is not older than the last
observation. -/
def InOrder (g : Governor) : GovernorCall → Prop
  | .observeBackend sample now => sample.power.isSome = true →
    g.live.powerWindow.Takes now ∧ g.live.lastObserved.ns ≤ now.ns
  | _ => True

/-- A failed observation leaves another generation, so it never leaves the state as it was. -/
theorem sameState_of_failed_iff (sample : BackendSample) (now : Timestamp)
    (ordered : g.live.powerWindow.Ordered) :
    (∀ fault, ((observeBackend sample now).exec g).1 = .error fault →
        g.SameState ((observeBackend sample now).exec g).2) ↔
      (sample.power.isSome = true → g.live.powerWindow.Takes now) := by
  obtain ⟨live, ended⟩ := exec_observeBackend sample now g
  rw [← DeviceState.ingest_returns_iff ordered, ← ended]
  cases answered : ((observeBackend sample now).exec g).1 with
  | ok id => exact iff_of_true nofun rfl
  | error fault =>
      refine iff_of_false (fun unchanged => ?_) nofun
      have numbered := (unchanged fault rfl).obsGen
      rw [live, DeviceState.obsGen_ingest] at numbered
      exact Generation.next_ne _ numbered

/-- A call is careful exactly when it observes in order. -/
theorem careful_iff (ordered : g.live.powerWindow.Ordered) : g.Careful call ↔ g.InOrder call := by
  have step := call.deviceStep g
  generalize left : (call.after g).live = ds at step
  cases step with
  | observed sample now =>
      have later : g.live.lastObserved.ns ≤
          ((GovernorCall.observeBackend sample now).after g).live.lastObserved.ns ↔
            (sample.power.isSome = true → g.live.lastObserved.ns ≤ now.ns) := by
        rw [left, DeviceState.lastObserved_ingest]
        split
        case isTrue present => simp [present]
        case isFalse absent => simp [absent]
      have unchanged := sameState_of_failed_iff sample now ordered
      constructor
      · intro careful present
        refine ⟨unchanged.mp (fun fault => careful.failed sample now fault rfl) present, ?_⟩
        exact later.mp (careful.forward id) present
      · intro inOrder
        refine ⟨?_, fun _ => later.mpr fun present => (inOrder present).2⟩
        rintro _ _ fault ⟨rfl, rfl⟩ failed
        exact unchanged.mpr (fun present => (inOrder present).1) fault failed
  | invalidated invalidates =>
      refine iff_of_true ⟨?_, fun kept => absurd invalidates kept⟩ ?_
      · rintro sample now fault rfl
        exact invalidates.elim
      · cases call <;> trivial
  | kept leaves other burst meter =>
      refine iff_of_true ⟨?_, fun _ => ?_⟩ ?_
      · rintro sample now fault rfl
        cases other
      · rw [left]
      · cases call <;> trivial

/-- In every run, from any reachable state, every observation that fails leaves the state as it
was and the time of the last observation never moves back exactly along the observations
whose power the window takes and that are not older than the last one. -/
theorem failed_observations_iff {s : Governor × Telemetry} (reached : governorRuns.Reachable s)
    (calls : List GovernorCall) :
    Along (fun g (call : GovernorCall) => call.after g) Careful s.1 calls ↔
      Along (fun g (call : GovernorCall) => call.after g) InOrder s.1 calls := by
  have ordered := DeviceState.ordered_invariant
  refine along_congr_of_invariant
    (fun g => g.live.Stock ∧ g.live.powerWindow.Ordered)
    (fun g call holds => careful_iff holds.2) (fun g call holds _ => ordered.after holds call)
    (ordered.of_reachable reached) calls

/-- After one sample at a second, a later one is in order. -/
theorem failed_observations_iff_later :
    (Along (fun g (call : GovernorCall) => call.after g) Careful (observedRun []).1
        [.observeBackend reportedSample decisionTime] ↔
      Along (fun g (call : GovernorCall) => call.after g) InOrder (observedRun []).1
        [.observeBackend reportedSample decisionTime]) :=
  failed_observations_iff (reachable_observedRun []) _

/-- Half a second before that sample. -/
def earlier : Timestamp := .halfSecond

/-- A sample older than the newest one is refused; it is counted, it stays as the latest one,
and the time of the last observation moves back to its time. -/
theorem refused_sample_stays :
    ¬ ∀ s, governorRuns.Reachable s → ∀ call, s.1.Careful call := by
  intro always
  have careful := always _ (reachable_observedRun []) (.observeBackend reportedSample earlier)
  have same := careful.failed reportedSample earlier
    (.invalidArgument "pg::PowerWindow::record: out-of-order timestamp") rfl (by decide +kernel)
  exact absurd same.lastObserved (by decide +kernel)

end Governor

end PowerGovernor
