/-!
Labelled transition systems.

Owns reachability from the initial states and the invariant rule: what holds
initially and is preserved by every step holds in every reachable state. Owns
also two runs side by side of which the second takes extra steps, with the rule
that these interfere with no part of the state they leave alone, what holds at
every step of a deterministic run, the runs that such a condition leaves, the
answers of a deterministic machine and the rule by which related states cannot be
told apart by them.
-/

set_option autoImplicit false

/-- A labelled transition system. -/
structure TransitionSystem (State Label : Type) where
  init : State → Prop
  step : State → Label → State → Prop

namespace TransitionSystem

variable {State Label : Type}

/-- The states some run of the system reaches. -/
inductive Reachable (system : TransitionSystem State Label) : State → Prop where
  | start {s : State} (initial : system.init s) : Reachable system s
  | step {s : State} (label : Label) {s' : State} (reached : Reachable system s)
      (taken : system.step s label s') : Reachable system s'

/-- The invariant rule. -/
theorem Reachable.invariant {system : TransitionSystem State Label} (Inv : State → Prop)
    (holdsInitially : ∀ s, system.init s → Inv s)
    (preserved : ∀ s label s', Inv s → system.step s label s' → Inv s')
    {s : State} (reached : system.Reachable s) : Inv s := by
  induction reached with
  | start initial => exact holdsInitially _ initial
  | step _ _ taken inductionHypothesis => exact preserved _ _ _ inductionHypothesis taken

/-- A run under given labels, where there is a step for each. -/
theorem Reachable.run {system : TransitionSystem State Label} {next : State → Label → State}
    (steps : ∀ s label, system.step s label (next s label)) {s : State}
    (reached : system.Reachable s) (labels : List Label) :
    system.Reachable (labels.foldl next s) := by
  induction labels generalizing s with
  | nil => exact reached
  | cons label rest inductionHypothesis =>
      exact inductionHypothesis (.step label reached (steps s label))

/-! ## Two runs side by side -/

/-- A label of both runs, or an extra one of the second run. -/
inductive Joint (Label : Type) where
  | both (label : Label)
  | extra (label : Label)

/-- Two runs from one initial state that take their steps under the same labels,
up to extra steps of the second. -/
def paired (system : TransitionSystem State Label) (Extra : State → Label → Prop) :
    TransitionSystem (State × State) (Joint Label) where
  init := fun s => system.init s.1 ∧ s.2 = s.1
  step := fun s joint s' =>
    match joint with
    | .both label => system.step s.1 label s'.1 ∧ system.step s.2 label s'.2
    | .extra label => Extra s.2 label ∧ s'.1 = s.1 ∧ system.step s.2 label s'.2

section Paired

variable {system : TransitionSystem State Label} {Extra : State → Label → Prop} {s : State × State}

/-- Each of the two runs is one of the system. -/
theorem Reachable.of_paired (reached : (system.paired Extra).Reachable s) :
    system.Reachable s.1 ∧ system.Reachable s.2 := by
  induction reached with
  | start initial =>
      obtain ⟨initial, same⟩ := initial
      exact ⟨.start initial, same ▸ .start initial⟩
  | step joint _ taken inductionHypothesis =>
      obtain ⟨first, second⟩ := inductionHypothesis
      cases joint with
      | both label => exact ⟨.step label first taken.1, .step label second taken.2⟩
      | extra label =>
          obtain ⟨_, same, taken⟩ := taken
          exact ⟨same ▸ first, .step label second taken⟩

/-- Equal runs under the same labels. -/
theorem Reachable.of_foldl {next : State → Label → State} {s : State}
    (deterministic : ∀ s label, system.step s label (next s label))
    (reached : (system.paired Extra).Reachable (s, s)) (labels : List Label) :
    (system.paired Extra).Reachable (labels.foldl next s, labels.foldl next s) := by
  induction labels generalizing s with
  | nil => exact reached
  | cons label rest inductionHypothesis =>
      apply inductionHypothesis
      refine .step (.both label) reached ?_
      exact ⟨deterministic s label, deterministic s label⟩

/-- No interference: what a step makes of a view depends on that view alone, and no
extra step changes it, so both runs have it in common. -/
theorem Reachable.same_view {T : Type} (view : State → T)
    (consistent : ∀ s t label s' t', view s = view t → system.step s label s' →
      system.step t label t' → view s' = view t')
    (unseen : ∀ s label s', system.Reachable s → Extra s label → system.step s label s' →
      view s' = view s)
    (reached : (system.paired Extra).Reachable s) : view s.1 = view s.2 := by
  induction reached with
  | start initial => rw [initial.2]
  | step joint before taken inductionHypothesis =>
      cases joint with
      | both label => exact consistent _ _ label _ _ inductionHypothesis taken.1 taken.2
      | extra label =>
          obtain ⟨extra, same, taken⟩ := taken
          rw [same, unseen _ label _ before.of_paired.2 extra taken]
          exact inductionHypothesis

end Paired

end TransitionSystem

/-! ## Deterministic runs -/

section Along

variable {State Input : Type} (next : State → Input → State)

/-- Every step of a run meets a condition on the state before it and its input. -/
def Along (Meets : State → Input → Prop) : State → List Input → Prop
  | _, [] => True
  | s, input :: rest => Meets s input ∧ Along Meets (next s input) rest

variable {next}

instance Along.decidable {Meets : State → Input → Prop} [∀ s input, Decidable (Meets s input)] :
    ∀ (s : State) (inputs : List Input), Decidable (Along next Meets s inputs)
  | _, [] => .isTrue trivial
  | s, input :: rest =>
    have : Decidable (Along next Meets (next s input) rest) := Along.decidable _ rest
    inferInstanceAs (Decidable (Meets s input ∧ Along next Meets (next s input) rest))

theorem along_true (s : State) (inputs : List Input) : Along next (fun _ _ => True) s inputs := by
  induction inputs generalizing s with
  | nil => trivial
  | cons input rest inductionHypothesis => exact ⟨trivial, inductionHypothesis (next s input)⟩

theorem along_congr {Meets Meets' : State → Input → Prop}
    (each : ∀ s input, Meets s input ↔ Meets' s input) (s : State) (inputs : List Input) :
    Along next Meets s inputs ↔ Along next Meets' s inputs := by
  induction inputs generalizing s with
  | nil => exact Iff.rfl
  | cons input rest inductionHypothesis =>
      exact and_congr (each s input) (inductionHypothesis (next s input))

/-- A condition that keeps an invariant gives another one where the invariant
holds, and so along a run. -/
theorem Along.of_invariant {Meets Meets' : State → Input → Prop} (Inv : State → Prop)
    (each : ∀ s input, Inv s → Meets s input → Meets' s input ∧ Inv (next s input))
    {s : State} (inv : Inv s) {inputs : List Input} (along : Along next Meets s inputs) :
    Along next Meets' s inputs := by
  induction inputs generalizing s with
  | nil => trivial
  | cons input rest inductionHypothesis =>
      obtain ⟨meets, others⟩ := along
      obtain ⟨meets', kept⟩ := each s input inv meets
      exact ⟨meets', inductionHypothesis kept others⟩

/-- Two conditions that agree wherever an invariant holds agree along a run, if
the condition is what keeps the invariant. -/
theorem along_congr_of_invariant {Meets Meets' : State → Input → Prop} (Inv : State → Prop)
    (each : ∀ s input, Inv s → (Meets s input ↔ Meets' s input))
    (keeps : ∀ s input, Inv s → Meets s input → Inv (next s input))
    {s : State} (inv : Inv s) (inputs : List Input) :
    Along next Meets s inputs ↔ Along next Meets' s inputs := by
  constructor
  · refine Along.of_invariant Inv (fun s input inv meets => ?_) inv
    exact ⟨(each s input inv).mp meets, keeps s input inv meets⟩
  · refine Along.of_invariant Inv (fun s input inv meets' => ?_) inv
    have meets := (each s input inv).mpr meets'
    exact ⟨meets, keeps s input inv meets⟩

/-- The runs from a state whose steps all meet a condition. -/
def guardedRuns (next : State → Input → State) (Meets : State → Input → Prop) (start : State) :
    TransitionSystem State Input where
  init := fun s => s = start
  step := fun s input s' => Meets s input ∧ s' = next s input

/-- Running on along the condition. -/
theorem TransitionSystem.Reachable.foldl {Meets : State → Input → Prop} {start s : State}
    (reached : (guardedRuns next Meets start).Reachable s) {inputs : List Input}
    (along : Along next Meets s inputs) :
    (guardedRuns next Meets start).Reachable (inputs.foldl next s) := by
  induction inputs generalizing s with
  | nil => exact reached
  | cons input rest inductionHypothesis =>
      obtain ⟨meets, others⟩ := along
      exact inductionHypothesis (.step input reached ⟨meets, rfl⟩) others

end Along

/-! ## Machines that answer -/

section Answers

variable {State Input Answer : Type} (step : State → Input → Answer × State)

/-- The answers to a list of inputs, one after the other. -/
def answers : State → List Input → List Answer
  | _, [] => []
  | s, input :: rest => (step s input).1 :: answers (step s input).2 rest

variable {step}

/-- Related states answer alike every list of the inputs that keep them related. -/
theorem answers_eq_of_related_on (Rel : State → State → Prop) (Admissible : Input → Prop)
    (each : ∀ s t input, Rel s t → Admissible input →
      (step s input).1 = (step t input).1 ∧ Rel (step s input).2 (step t input).2)
    {s t : State} (related : Rel s t) {inputs : List Input}
    (admissible : ∀ input ∈ inputs, Admissible input) :
    answers step s inputs = answers step t inputs := by
  induction inputs generalizing s t with
  | nil => rfl
  | cons input rest inductionHypothesis =>
      obtain ⟨same, next⟩ := each s t input related (admissible input List.mem_cons_self)
      rw [answers, answers, same, inductionHypothesis next fun other member =>
        admissible other (List.mem_cons_of_mem input member)]

end Answers
