import PowerGovernor.Decision.Hysteresis

/-!
The decisions of one engine, one after the other.

Owns which evaluations return a decision, the decisions a sequence of evaluations
returns, and the generations these carry. `make_verdict` numbers a decision with the
generation after that of the engine and leaves the engine's own as it is, so all
decisions of an engine carry one generation.
-/

set_option autoImplicit false

namespace PowerGovernor

namespace DecisionEngine

variable {engine : DecisionEngine} {input : DecisionInput} {now : Timestamp}

/-- The evaluation returns a decision: it throws only in the hysteresis, on an elapsed time
that fits in no `Duration`. -/
def answers (engine : DecisionEngine) (input : DecisionInput) (now : Timestamp) : Bool :=
  match input.stages, engine.last with
  | .defaultAllow _, some last =>
    decide (last.verdict = .allow) || decide (now.ElapsedFits last.decidedAt)
  | _, _ => true

theorem resolve_returns_iff :
    (∃ outcome, engine.resolve input now = .ok outcome) ↔ engine.answers input now = true := by
  unfold resolve answers
  cases input.stages with
  | returned outcome => exact iff_of_true ⟨outcome, rfl⟩ rfl
  | defaultAllow outcome =>
      unfold hold
      cases engine.last with
      | none => exact iff_of_true ⟨outcome, rfl⟩ rfl
      | some last =>
          dsimp only
          by_cases allow : last.verdict = .allow
          · rw [if_pos allow]
            exact iff_of_true ⟨outcome, rfl⟩ (by simp [allow])
          · rw [if_neg allow, decide_eq_false allow, Bool.false_or, decide_eq_true_eq,
              ← Timestamp.elapsedSince_returns_iff]
            cases now.elapsedSince last.decidedAt with
            | error fault => exact iff_of_false nofun nofun
            | ok dt =>
                refine iff_of_true ?_ ⟨dt, rfl⟩
                dsimp only [bind, Except.bind]
                split
                · split
                  · exact ⟨_, rfl⟩
                  · exact ⟨_, rfl⟩
                · exact ⟨_, rfl⟩

/-- The engine after an evaluation. -/
def advanced (engine : DecisionEngine) (call : Evaluation) : DecisionEngine :=
  match engine.resolve call.input call.now with
  | .ok outcome => { engine with last := some ⟨outcome.verdict, call.now⟩ }
  | .error _ => engine

/-- How many evaluations of a sequence return a decision. -/
def answered (engine : DecisionEngine) : List Evaluation → Nat
  | [] => 0
  | call :: rest =>
    (if engine.answers call.input call.now then 1 else 0) + (engine.advanced call).answered rest

end DecisionEngine

namespace EngineState

variable {s : EngineState} {call : Evaluation}

/-- Whether an evaluation returns, and what it then leaves. -/
theorem perform_cases (s : EngineState) (call : Evaluation) :
    (s.1.answers call.input call.now = false ∧ s.1.advanced call = s.1 ∧
        ∃ fault, s.1.resolve call.input call.now = .error fault ∧
          s.perform call = (.error fault, s)) ∨
      s.1.answers call.input call.now = true ∧
        ∃ outcome, s.1.resolve call.input call.now = .ok outcome ∧
          s.1.advanced call = { s.1 with last := some ⟨outcome.verdict, call.now⟩ } ∧
          s.perform call =
            (.ok (s.1.makeVerdict s.2 call.input call.now outcome).1,
              (s.1.makeVerdict s.2 call.input call.now outcome).2) := by
  unfold DecisionEngine.advanced
  cases resolved : s.1.resolve call.input call.now with
  | error fault =>
      refine .inl ⟨?_, rfl, fault, rfl, perform_of_fault resolved⟩
      rw [← Bool.not_eq_true]
      intro answers
      obtain ⟨outcome, other⟩ := DecisionEngine.resolve_returns_iff.mpr answers
      cases resolved.symm.trans other
  | ok outcome =>
      refine .inr ⟨DecisionEngine.resolve_returns_iff.mp ⟨outcome, resolved⟩, outcome, rfl, rfl, ?_⟩
      unfold perform
      rw [DecisionEngine.evaluate_of_resolved resolved]

theorem engine_perform (s : EngineState) (call : Evaluation) :
    (s.perform call).2.1 = s.1.advanced call := by
  rcases s.perform_cases call with ⟨_, same, fault, _, thrown⟩ | ⟨_, outcome, _, recorded, returned⟩
  · rw [thrown, same]
  · rw [returned, recorded]
    rfl

/-- The decisions that a sequence of evaluations returns. -/
def decisions (s : EngineState) : List Evaluation → List Decision
  | [] => []
  | call :: rest => match s.perform call with
    | (.ok d, s') => d :: decisions s' rest
    | (.error _, s') => decisions s' rest

/-- Every decision of a sequence carries the generation after the engine's. -/
theorem generation_of_mem_decisions {calls : List Evaluation} {d : Decision}
    (member : d ∈ s.decisions calls) : d.generation = s.1.gen.next := by
  induction calls generalizing s with
  | nil => cases member
  | cons call rest inductionHypothesis =>
      unfold decisions at member
      rcases s.perform_cases call with ⟨_, _, fault, _, thrown⟩ | ⟨_, outcome, _, _, returned⟩
      · rw [thrown] at member
        exact inductionHypothesis member
      · rw [returned] at member
        rcases List.mem_cons.mp member with rfl | later
        · rfl
        · have numbered := inductionHypothesis later
          exact numbered

theorem length_decisions (s : EngineState) (calls : List Evaluation) :
    (s.decisions calls).length = s.1.answered calls := by
  induction calls generalizing s with
  | nil => rfl
  | cons call rest inductionHypothesis =>
      unfold decisions DecisionEngine.answered
      rcases s.perform_cases call with
        ⟨throws, same, fault, _, thrown⟩ | ⟨answers, outcome, _, recorded, returned⟩
      · rw [thrown, throws, same, ← inductionHypothesis]
        simp
      · rw [returned, answers, recorded, if_pos rfl, add_comm]
        exact congrArg Nat.succ (inductionHypothesis _)

/-- The generations of the decisions increase exactly when at most one evaluation returns
one. -/
theorem decision_generations_advance_iff (s : EngineState) (calls : List Evaluation) :
    (s.decisions calls).Pairwise (fun earlier later => earlier.generation < later.generation) ↔
      s.1.answered calls ≤ 1 := by
  rw [← s.length_decisions]
  constructor
  · intro increasing
    match returned : s.decisions calls with
    | [] => exact Nat.zero_le 1
    | [_] => exact Nat.le_refl 1
    | first :: second :: rest =>
        rw [returned] at increasing
        have advanced := (List.pairwise_cons.mp increasing).1 second List.mem_cons_self
        have member : ∀ d ∈ first :: second :: rest, d.generation = s.1.gen.next :=
          fun d member => generation_of_mem_decisions (returned ▸ member)
        rw [member first List.mem_cons_self,
          member second (List.mem_cons_of_mem first List.mem_cons_self)] at advanced
        exact absurd advanced (Generation.lt_irrefl _)
  · intro atMostOne
    match returned : s.decisions calls with
    | [] => exact List.Pairwise.nil
    | [_] => exact List.pairwise_singleton _ _
    | _ :: _ :: _ =>
        rw [returned] at atMostOne
        simp at atMostOne

/-- Two idle evaluations of a new engine return decisions of the same generation. -/
theorem generation_repeated :
    ¬ (EngineState.decisions (.construct .first, .start)
        [⟨idleInput, Timestamp.zero⟩, ⟨idleInput, Timestamp.zero⟩]).Pairwise
      fun earlier later => earlier.generation < later.generation := by
  intro increasing
  have advanced := (List.pairwise_cons.mp increasing).1 _ List.mem_cons_self
  exact absurd advanced (Generation.lt_irrefl _)

end EngineState

end PowerGovernor
