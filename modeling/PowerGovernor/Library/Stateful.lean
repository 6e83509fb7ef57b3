import Mathlib.Tactic.Common

/-!
Computations that keep the state they leave behind when they fail.

Owns the monad, its evaluation rules, running a computation on a part of the
state, the inversion rules of a sequence, when a computation returns, what it
keeps or preserves, and what it ignores. Unlike `StateT` over `Except`, a
failing computation still returns the state it has written so far.
-/

set_option autoImplicit false

/-- A computation over `S` that returns `α` or fails with `ε`. -/
abbrev Stateful (ε S : Type) := ExceptT ε (StateM S)

namespace Stateful

variable {ε S T α β : Type}

/-- The outcome and the state left behind. -/
def exec (x : Stateful ε S α) (s : S) : Except ε α × S := x.run.run s

/-- A pure result that may have failed. -/
def ofExcept (result : Except ε α) : Stateful ε S α := fun s => (result, s)

/-- Run a computation on a part of the state. -/
def zoom (view : S → T) (put : T → S → S) (x : Stateful ε T α) : Stateful ε S α := fun s =>
  let (result, t) := x.exec (view s)
  (result, put t s)

@[simp] theorem exec_pure (a : α) (s : S) : (pure a : Stateful ε S α).exec s = (.ok a, s) := rfl

@[simp] theorem exec_get (s : S) : (get : Stateful ε S S).exec s = (.ok s, s) := rfl

@[simp] theorem exec_set (written s : S) :
    (set written : Stateful ε S PUnit).exec s = (.ok ⟨⟩, written) := rfl

@[simp] theorem exec_modify (f : S → S) (s : S) :
    (modify f : Stateful ε S PUnit).exec s = (.ok ⟨⟩, f s) := rfl

@[simp] theorem exec_throw (e : ε) (s : S) :
    (throw e : Stateful ε S α).exec s = (.error e, s) := rfl

@[simp] theorem exec_ofExcept (result : Except ε α) (s : S) :
    (ofExcept result : Stateful ε S α).exec s = (result, s) := rfl

@[simp] theorem exec_zoom (view : S → T) (put : T → S → S) (x : Stateful ε T α) (s : S) :
    (zoom view put x).exec s = ((x.exec (view s)).1, put (x.exec (view s)).2 s) := rfl

theorem exec_bind (x : Stateful ε S α) (rest : α → Stateful ε S β) (s : S) :
    (x >>= rest).exec s = match x.exec s with
      | (.ok a, s') => (rest a).exec s'
      | (.error e, s') => (.error e, s') := by
  show (match x.run.run s with
    | (result, s') => (ExceptT.bindCont rest result).run s') = _
  unfold exec
  rcases x.run.run s with ⟨result, s'⟩
  cases result <;> rfl

theorem exec_bind_of_ok {x : Stateful ε S α} {s s' : S} {a : α} (first : x.exec s = (.ok a, s'))
    (rest : α → Stateful ε S β) : (x >>= rest).exec s = (rest a).exec s' := by
  rw [exec_bind, first]

theorem exec_bind_of_error {x : Stateful ε S α} {s s' : S} {e : ε}
    (first : x.exec s = (.error e, s')) (rest : α → Stateful ε S β) :
    (x >>= rest).exec s = (.error e, s') := by
  rw [exec_bind, first]

/-- A pure result followed by a computation that only reads the state. -/
theorem exec_ofExcept_bind {result : Except ε α} {rest : α → Stateful ε S β}
    {next : α → Except ε β} {s : S} (reads : ∀ a, (rest a).exec s = (next a, s)) :
    (ofExcept result >>= rest).exec s = (result >>= next, s) := by
  cases result with
  | error e => rfl
  | ok a => exact reads a

/-- A sequence returns exactly when each part does. -/
theorem bind_eq_ok {x : Stateful ε S α} {rest : α → Stateful ε S β} {s s'' : S} {b : β} :
    (x >>= rest).exec s = (.ok b, s'') ↔
      ∃ a s', x.exec s = (.ok a, s') ∧ (rest a).exec s' = (.ok b, s'') := by
  rw [exec_bind]
  rcases x.exec s with ⟨result, s'⟩
  cases result with
  | ok a => simp
  | error e => simp

/-- A sequence fails exactly when its first part does, or its second part after it. -/
theorem bind_eq_error {x : Stateful ε S α} {rest : α → Stateful ε S β} {s : S} {e : ε} :
    ((x >>= rest).exec s).1 = .error e ↔
      (x.exec s).1 = .error e ∨
        ∃ a s', x.exec s = (.ok a, s') ∧ ((rest a).exec s').1 = .error e := by
  rw [exec_bind]
  rcases x.exec s with ⟨result, s'⟩
  cases result with
  | ok a => simp
  | error other => simp

/-! ## Returning -/

/-- The computation does not fail in this state. -/
def Returns (x : Stateful ε S α) (s : S) : Prop := ∃ a, (x.exec s).1 = .ok a

theorem returns_pure (a : α) (s : S) : (pure a : Stateful ε S α).Returns s := ⟨a, rfl⟩

/-- A computation on a part returns when it does there. -/
theorem returns_zoom_iff {view : S → T} {put : T → S → S} {x : Stateful ε T α} {s : S} :
    (zoom view put x).Returns s ↔ x.Returns (view s) := Iff.rfl

theorem returns_bind_iff {x : Stateful ε S α} {rest : α → Stateful ε S β} {s : S} :
    (x >>= rest).Returns s ↔ ∃ a s', x.exec s = (.ok a, s') ∧ (rest a).Returns s' := by
  unfold Returns
  rw [exec_bind]
  generalize x.exec s = ended
  obtain ⟨result, s'⟩ := ended
  cases result with
  | ok a => simp
  | error e => simp

theorem returns_ofExcept_bind_iff {result : Except ε α} {rest : α → Stateful ε S β} {s : S} :
    (ofExcept result >>= rest).Returns s ↔ ∃ a, result = .ok a ∧ (rest a).Returns s := by
  rw [returns_bind_iff]
  simp

/-- What follows returns in any case. -/
theorem returns_bind_of_forall {x : Stateful ε S α} {rest : α → Stateful ε S β} {s : S}
    (follows : ∀ a s', (rest a).Returns s') : (x >>= rest).Returns s ↔ x.Returns s := by
  rw [returns_bind_iff]
  constructor
  · rintro ⟨a, s', first, _⟩
    exact ⟨a, by rw [first]⟩
  · rintro ⟨a, first⟩
    exact ⟨a, (x.exec s).2, Prod.ext first rfl, follows a _⟩

/-! ## Frames -/

/-- The computation leaves a part of the state as it is, however it ends. -/
def Keeps (view : S → T) (x : Stateful ε S α) : Prop := ∀ s, view (x.exec s).2 = view s

section Keeps

variable {view : S → T}

theorem keeps_pure (a : α) : Keeps view (pure a : Stateful ε S α) := fun _ => rfl

theorem keeps_ofExcept (result : Except ε α) :
    Keeps view (ofExcept result : Stateful ε S α) := fun _ => rfl

theorem keeps_throw (e : ε) : Keeps view (throw e : Stateful ε S α) := fun _ => rfl

theorem keeps_get : Keeps view (get : Stateful ε S S) := fun _ => rfl

theorem keeps_modify {f : S → S} (same : ∀ s, view (f s) = view s) :
    Keeps view (modify f : Stateful ε S PUnit) := same

theorem keeps_zoom {R : Type} {part : S → R} {put : R → S → S} (x : Stateful ε R α)
    (same : ∀ r s, view (put r s) = view s) : Keeps view (zoom part put x) :=
  fun _ => same _ _

theorem keeps_bind {x : Stateful ε S α} {rest : α → Stateful ε S β} (first : Keeps view x)
    (second : ∀ a, Keeps view (rest a)) : Keeps view (x >>= rest) := by
  intro s
  have kept := first s
  rw [exec_bind]
  generalize x.exec s = ended at kept
  obtain ⟨result, s'⟩ := ended
  cases result with
  | error e => exact kept
  | ok a => exact (second a s').trans kept

/-- A pure function of the result keeps what the computation keeps. -/
theorem keeps_bind_pure {x : Stateful ε S α} (kept : Keeps view x) (f : α → β) :
    Keeps view (x >>= fun a => (pure (f a) : Stateful ε S β)) :=
  keeps_bind kept fun _ => keeps_pure _

/-- What follows keeps the view, so it is the one after the first computation. -/
theorem view_bind {x : Stateful ε S α} {rest : α → Stateful ε S β}
    (second : ∀ a, Keeps view (rest a)) (s : S) :
    view ((x >>= rest).exec s).2 = view (x.exec s).2 := by
  rw [exec_bind]
  generalize x.exec s = ended
  obtain ⟨result, s'⟩ := ended
  cases result with
  | error e => rfl
  | ok a => exact second a s'

/-- What follows changes nothing, so the state is the one after the first computation. -/
theorem state_bind {x : Stateful ε S α} {rest : α → Stateful ε S β}
    (second : ∀ a s, ((rest a).exec s).2 = s) (s : S) :
    ((x >>= rest).exec s).2 = (x.exec s).2 :=
  @view_bind ε S S α β id x rest second s

theorem keeps_ite {condition : Prop} [Decidable condition] {x y : Stateful ε S α}
    (yes : Keeps view x) (no : Keeps view y) : Keeps view (if condition then x else y) := by
  split
  · exact yes
  · exact no

end Keeps

/-! ## Invariants -/

/-- The computation preserves a property of the state, however it ends. -/
def Preserves (Inv : S → Prop) (x : Stateful ε S α) : Prop := ∀ s, Inv s → Inv (x.exec s).2

section Preserves

variable {Inv : S → Prop}

theorem preserves_pure (a : α) : Preserves Inv (pure a : Stateful ε S α) := fun _ holds => holds

theorem preserves_ofExcept (result : Except ε α) :
    Preserves Inv (ofExcept result : Stateful ε S α) := fun _ holds => holds

theorem preserves_get : Preserves Inv (get : Stateful ε S S) := fun _ holds => holds

/-- A computation on a part preserves what it preserves of that part. -/
theorem preserves_zoom {Part : T → Prop} {view : S → T} {put : T → S → S} {x : Stateful ε T α}
    (preserved : Preserves Part x) (viewed : ∀ s, Inv s → Part (view s))
    (written : ∀ t s, Part t → Inv s → Inv (put t s)) : Preserves Inv (zoom view put x) :=
  fun s holds => written _ _ (preserved _ (viewed s holds)) holds

theorem preserves_bind {x : Stateful ε S α} {rest : α → Stateful ε S β}
    (first : Preserves Inv x) (second : ∀ a, Preserves Inv (rest a)) :
    Preserves Inv (x >>= rest) := by
  intro s holds
  have kept := first s holds
  rw [exec_bind]
  generalize x.exec s = ended at kept
  obtain ⟨result, s'⟩ := ended
  cases result with
  | error e => exact kept
  | ok a => exact second a s' kept

theorem preserves_bind_pure {x : Stateful ε S α} (preserved : Preserves Inv x) (f : α → β) :
    Preserves Inv (x >>= fun a => (pure (f a) : Stateful ε S β)) :=
  preserves_bind preserved fun _ => preserves_pure _

end Preserves

/-! ## Parts that do not matter -/

/-- Nothing that `forget` changes reaches the result or what is written elsewhere. -/
def Ignores (forget : S → S) (x : Stateful ε S α) : Prop :=
  ∀ s, x.exec (forget s) = ((x.exec s).1, forget (x.exec s).2)

section Ignores

variable {forget : S → S}

theorem ignores_pure (a : α) : Ignores forget (pure a : Stateful ε S α) := fun _ => rfl

theorem ignores_ofExcept (result : Except ε α) :
    Ignores forget (ofExcept result : Stateful ε S α) := fun _ => rfl

theorem ignores_throw (e : ε) : Ignores forget (throw e : Stateful ε S α) := fun _ => rfl

theorem ignores_modify {f : S → S} (commutes : ∀ s, f (forget s) = forget (f s)) :
    Ignores forget (modify f : Stateful ε S PUnit) :=
  fun s => congrArg (Prod.mk _) (commutes s)

theorem ignores_zoom {view : S → T} {put : T → S → S} (x : Stateful ε T α)
    (viewed : ∀ s, view (forget s) = view s)
    (written : ∀ t s, put t (forget s) = forget (put t s)) :
    Ignores forget (zoom view put x) := by
  intro s
  rw [exec_zoom, exec_zoom, viewed, written]

theorem ignores_bind {x : Stateful ε S α} {rest : α → Stateful ε S β} (first : Ignores forget x)
    (second : ∀ a, Ignores forget (rest a)) : Ignores forget (x >>= rest) := by
  intro s
  rw [exec_bind, exec_bind, first s]
  generalize x.exec s = ended
  obtain ⟨result, s'⟩ := ended
  cases result with
  | error e => rfl
  | ok a => exact second a s'

/-- What is read of the state is not among what is forgotten. -/
theorem ignores_get_bind {rest : S → Stateful ε S β} (same : ∀ s, rest (forget s) = rest s)
    (follows : ∀ s, Ignores forget (rest s)) :
    Ignores forget ((get : Stateful ε S S) >>= rest) := by
  intro s
  rw [exec_bind_of_ok (exec_get _), exec_bind_of_ok (exec_get _), same]
  exact follows s s

theorem ignores_ite {condition : Prop} [Decidable condition] {x y : Stateful ε S α}
    (yes : Ignores forget x) (no : Ignores forget y) :
    Ignores forget (if condition then x else y) := by
  split
  · exact yes
  · exact no

end Ignores

end Stateful
