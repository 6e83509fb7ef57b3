import PowerGovernor.Decision.Explanation

/-!
Requests for revalidation over runs.

Owns the runs of one engine under any policies and at any times, the memory of the
engine as the last decision it returned, and where a request for revalidation comes
from: evidence that is not current now, or a hold that goes back to such evidence.
-/

set_option autoImplicit false

namespace PowerGovernor

namespace DecisionEngine

variable {engine : DecisionEngine} {input : DecisionInput} {now : Timestamp}

theorem held_eq_some_iff {minStable : Duration} {verdict : DecisionVerdict} :
    engine.held minStable now = .ok (some verdict) ↔ verdict ≠ .allow ∧
      ∃ decidedAt, engine.last = some ⟨verdict, decidedAt⟩ ∧
        ∃ dt, now.elapsedSince decidedAt = .ok dt ∧ dt.ns < minStable.ns := by
  unfold held
  cases found : engine.last with
  | none =>
      refine iff_of_false (fun holds => ?_) fun ⟨_, _, other, _⟩ => nomatch other
      cases holds
  | some last =>
      obtain ⟨lastVerdict, lastAt⟩ := last
      dsimp only
      by_cases released : lastVerdict = .allow
      · rw [if_pos released]
        refine iff_of_false (fun holds => ?_) ?_
        · cases holds
        · rintro ⟨restrictive, decidedAt, same, _⟩
          cases same
          exact restrictive released
      · rw [if_neg released, bind_eq_ok]
        constructor
        · rintro ⟨dt, elapsed, repeated⟩
          have repeated := Except.ok.inj repeated
          by_cases within : dt.ns < minStable.ns
          · rw [if_pos within] at repeated
            obtain rfl := Option.some.inj repeated
            exact ⟨released, lastAt, rfl, dt, elapsed, within⟩
          · rw [if_neg within] at repeated
            cases repeated
        · rintro ⟨_, decidedAt, same, dt, elapsed, within⟩
          cases same
          exact ⟨dt, elapsed, congrArg Except.ok (if_pos within)⟩

/-- Where a request for revalidation comes from. -/
theorem resolve_asks_iff :
    (∃ outcome, engine.resolve input now = .ok outcome ∧
      outcome.verdict = .revalidationRequired) ↔
    ¬ input.Current ∨ (∃ outcome, input.stages = .defaultAllow outcome) ∧
      engine.held input.policy.minStableDuration now = .ok (some .revalidationRequired) := by
  by_cases current : input.Current
  · rw [or_iff_right (not_not.mpr current)]
    cases staged : input.stages with
    | returned early =>
        refine iff_of_false ?_ fun ⟨⟨_, other⟩, _⟩ => nomatch other
        rintro ⟨outcome, resolved, asks⟩
        obtain rfl := Except.ok.inj ((resolve_of_returned staged).symm.trans resolved)
        have stale := (DecisionInput.stale_iff current.policyCurrent).mpr ⟨early, staged, asks⟩
        cases current.notStale.symm.trans stale
    | defaultAllow allowed =>
        have allow := DecisionInput.default_verdict staged
        rw [and_iff_right ⟨allowed, rfl⟩]
        unfold resolve
        rw [staged]
        constructor
        · rintro ⟨outcome, held, asks⟩
          obtain ⟨kept, holds, verdict, _⟩ := fields_of_hold held
          rw [asks] at verdict
          cases kept with
          | none => cases verdict.trans allow
          | some kept =>
              rw [holds]
              exact congrArg (fun verdict => Except.ok (some verdict)) verdict.symm
        · intro holds
          obtain ⟨final, held⟩ := hold_of_held holds allowed
          obtain ⟨kept, same, verdict, _⟩ := fields_of_hold held
          obtain rfl := Except.ok.inj (holds.symm.trans same)
          exact ⟨final, held, verdict⟩
  · refine iff_of_true ?_ (.inl current)
    exact ⟨_, resolve_of_returned (DecisionInput.stages_of_not_current current), rfl⟩

end DecisionEngine

/-- The evaluations of one engine, under any policies and at any times. A finite run is one
that repeats its last call. -/
structure FreeRun where
  gen : DecisionGeneration
  ids : Allocators
  calls : Nat → Evaluation

namespace FreeRun

/-- The engine before evaluation `n`. -/
def state (run : FreeRun) : Nat → EngineState
  | 0 => (.construct run.gen, run.ids)
  | n + 1 => ((run.state n).perform (run.calls n)).2

/-- What evaluation `n` returns. -/
def decision (run : FreeRun) (n : Nat) : Except Fault Decision :=
  ((run.state n).perform (run.calls n)).1

/-- Evaluation `n` returns REVALIDATION_REQUIRED. -/
def Asks (run : FreeRun) (n : Nat) : Prop :=
  ∃ d, run.decision n = .ok d ∧ d.verdict = .revalidationRequired

/-- Evaluation `n` throws. -/
def Throws (run : FreeRun) (n : Nat) : Prop := ∃ fault, run.decision n = .error fault

/-- Evaluation `k` comes before evaluation `n`, and none between them returns. -/
structure Precedes (run : FreeRun) (k n : Nat) : Prop where
  earlier : k < n
  thrown : ∀ j, k < j → j < n → run.Throws j

/-- The last decision before evaluation `n` is a request for revalidation, and less than
`min_stable_duration` old. -/
def Recalls (run : FreeRun) (n : Nat) : Prop :=
  ∃ k, run.Precedes k n ∧ run.Asks k ∧ ∃ dt,
    (run.calls n).now.elapsedSince (run.calls k).now = .ok dt ∧
      dt.ns < (run.calls n).input.policy.minStableDuration.ns

variable {run : FreeRun} {n : Nat}

/-! ## The memory of the engine -/

/-- The engine remembers the last decision it returned, and when. -/
theorem last_state (run : FreeRun) (n : Nat) :
    ((run.state n).1.last = none ∧ ∀ k, k < n → run.Throws k) ∨
      ∃ k d, run.Precedes k n ∧ run.decision k = .ok d ∧
        (run.state n).1.last = some ⟨d.verdict, (run.calls k).now⟩ := by
  induction n with
  | zero => exact .inl ⟨rfl, fun k before => absurd before (Nat.not_lt_zero k)⟩
  | succ n inductionHypothesis =>
      cases resolved : (run.state n).1.resolve (run.calls n).input (run.calls n).now with
      | ok outcome =>
          obtain ⟨⟨d, returned, verdict⟩, recorded⟩ := EngineState.perform_of_resolved resolved
          refine .inr ⟨n, d, ⟨Nat.lt_succ_self n, fun j after before => ?_⟩, returned, ?_⟩
          · omega
          · rw [verdict]
            exact recorded
      | error fault =>
          have thrown := EngineState.perform_of_fault resolved
          have throws : run.Throws n := ⟨fault, congrArg Prod.fst thrown⟩
          have same : run.state (n + 1) = run.state n := congrArg Prod.snd thrown
          rw [same]
          rcases inductionHypothesis with ⟨fresh, all⟩ | ⟨k, d, precedes, returned, recorded⟩
          · refine .inl ⟨fresh, fun k before => ?_⟩
            rcases Nat.lt_succ_iff_lt_or_eq.mp before with earlier | rfl
            · exact all k earlier
            · exact throws
          · refine .inr ⟨k, d, ⟨precedes.earlier.trans (Nat.lt_succ_self n), ?_⟩, returned,
              recorded⟩
            intro j after before
            rcases Nat.lt_succ_iff_lt_or_eq.mp before with earlier | rfl
            · exact precedes.thrown j after earlier
            · exact throws

/-! ## Where a request comes from -/

theorem asks_iff_resolve : run.Asks n ↔ ∃ outcome,
    (run.state n).1.resolve (run.calls n).input (run.calls n).now = .ok outcome ∧
      outcome.verdict = .revalidationRequired := by
  cases resolved : (run.state n).1.resolve (run.calls n).input (run.calls n).now with
  | ok outcome =>
      obtain ⟨⟨d, returned, verdict⟩, _⟩ := EngineState.perform_of_resolved resolved
      constructor
      · rintro ⟨other, same, asks⟩
        obtain rfl := Except.ok.inj (returned.symm.trans same)
        exact ⟨outcome, rfl, verdict.symm.trans asks⟩
      · rintro ⟨other, same, asks⟩
        obtain rfl := Except.ok.inj same
        exact ⟨d, returned, verdict.trans asks⟩
  | error fault =>
      have thrown := EngineState.perform_of_fault resolved
      refine iff_of_false ?_ fun ⟨_, other, _⟩ => nomatch other
      rintro ⟨d, returned, _⟩
      cases (congrArg Prod.fst thrown).symm.trans returned

/-- The engine holds a request for revalidation exactly when its last decision was a recent
one. -/
theorem held_iff_recalls : (run.state n).1.held (run.calls n).input.policy.minStableDuration
    (run.calls n).now = .ok (some .revalidationRequired) ↔ run.Recalls n := by
  rw [DecisionEngine.held_eq_some_iff, and_iff_right (by decide)]
  rcases run.last_state n with ⟨fresh, all⟩ | ⟨k, d, precedes, returned, recorded⟩
  · refine iff_of_false ?_ ?_
    · rintro ⟨_, recorded, _⟩
      cases fresh.symm.trans recorded
    · rintro ⟨k, precedes, ⟨d, returned, _⟩, _⟩
      obtain ⟨fault, thrown⟩ := all k precedes.earlier
      cases returned.symm.trans thrown
  · constructor
    · rintro ⟨decidedAt, same, recent⟩
      have last := Option.some.inj (recorded.symm.trans same)
      have asks : d.verdict = .revalidationRequired := congrArg LastVerdict.verdict last
      have time : (run.calls k).now = decidedAt := congrArg LastVerdict.decidedAt last
      exact ⟨k, precedes, ⟨d, returned, asks⟩, time ▸ recent⟩
    · rintro ⟨other, precedes', ⟨d', returned', asks⟩, recent⟩
      obtain rfl : other = k := by
        rcases Nat.lt_trichotomy other k with before | same | after
        · obtain ⟨fault, thrown⟩ := precedes'.thrown k before precedes.earlier
          cases returned.symm.trans thrown
        · exact same
        · obtain ⟨fault, thrown⟩ := precedes.thrown other after precedes'.earlier
          cases returned'.symm.trans thrown
      obtain rfl := Except.ok.inj (returned.symm.trans returned')
      rw [asks] at recorded
      exact ⟨_, recorded, recent⟩

theorem asks_iff : run.Asks n ↔ ¬ (run.calls n).input.Current ∨
    (∃ outcome, (run.calls n).input.stages = .defaultAllow outcome) ∧ run.Recalls n := by
  rw [asks_iff_resolve, DecisionEngine.resolve_asks_iff, held_iff_recalls]

/-- A request for revalidation goes back to evidence that was not current. -/
theorem origin_of_asks (asks : run.Asks n) : ∃ k, k ≤ n ∧ ¬ (run.calls k).input.Current ∧
    ∀ j, k ≤ j → j ≤ n → run.Asks j ∨ run.Throws j := by
  induction n using Nat.strong_induction_on with
  | h n inductionHypothesis =>
      rcases asks_iff.mp asks with notCurrent | ⟨_, before, precedes, asked, _⟩
      · refine ⟨n, le_rfl, notCurrent, fun j after upTo => ?_⟩
        exact .inl (Nat.le_antisymm after upTo ▸ asks)
      · obtain ⟨k, earlier, notCurrent, between⟩ :=
          inductionHypothesis before precedes.earlier asked
        refine ⟨k, earlier.trans precedes.earlier.le, notCurrent, fun j after upTo => ?_⟩
        rcases Nat.lt_or_ge before j with later | early
        · rcases Nat.lt_or_eq_of_le upTo with inside | rfl
          · exact .inr (precedes.thrown j later inside)
          · exact .inl asks
        · exact between j after early

/-- In every run an evaluation asks for revalidation exactly when its own evidence is not
current, or when it would be allowed by default and the last decision, a request for
revalidation, is less than `min_stable_duration` old; and every request goes back to
evidence that was not current, with no other decision in between. -/
theorem revalidation_iff (run : FreeRun) (n : Nat) :
    (run.Asks n ↔ ¬ (run.calls n).input.Current ∨
      (∃ outcome, (run.calls n).input.stages = .defaultAllow outcome) ∧ run.Recalls n) ∧
    (run.Asks n → ∃ k, k ≤ n ∧ ¬ (run.calls k).input.Current ∧
      ∀ j, k ≤ j → j ≤ n → run.Asks j ∨ run.Throws j) :=
  ⟨asks_iff, origin_of_asks⟩

/-- Stale evidence, then current evidence and nothing requested, all at time zero. -/
def refreshedRun : FreeRun where
  gen := .first
  ids := .start
  calls
    | 0 => ⟨{ idleInput with powerFreshness := .stale }, Timestamp.zero⟩
    | _ + 1 => ⟨idleInput, Timestamp.zero⟩

/-- The idle evaluation on current evidence repeats the request for revalidation. -/
theorem revalidation_on_current :
    ¬ ∀ (run : FreeRun) (n : Nat), run.Asks n ↔ ¬ (run.calls n).input.Current := by
  intro claimed
  have stale : ¬ (refreshedRun.calls 0).input.Current := fun current => by cases current.notStale
  have recalls : refreshedRun.Recalls 1 :=
    ⟨0, ⟨Nat.one_pos, fun j after before => by omega⟩, asks_iff.mpr (.inl stale), Duration.zero,
      by decide, by decide⟩
  have asks : refreshedRun.Asks 1 := asks_iff.mpr (.inr ⟨⟨_, rfl⟩, recalls⟩)
  exact (claimed refreshedRun 1).mp asks ⟨rfl, rfl⟩

end FreeRun

end PowerGovernor
