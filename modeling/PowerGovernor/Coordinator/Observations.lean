import PowerGovernor.Coordinator.Runs

/-!
The observations that the coordinator accepts.

Owns the stamp of an observation, what a step does to the high-water marks, the
generations accepted from a worker since its last REGISTER, and the exact
condition under which they are strictly increasing. The fence compares with the
mark by `<`, so the generation of the mark itself passes again.
-/

set_option autoImplicit false

namespace PowerGovernor

/-! ## Stamps -/

/-- What an observation brings to `fence_obs`. -/
structure ObsStamp where
  epoch : CoordinatorEpoch
  boot : WorkerBootId
  generation : ObservationGeneration
  worker : WorkerId
deriving DecidableEq

def PowerObsMsg.stamp (po : PowerObsMsg) : ObsStamp := ⟨po.epoch, po.boot, po.obsGen, po.worker⟩

def ThermalObsMsg.stamp (th : ThermalObsMsg) : ObsStamp :=
  ⟨th.epoch, th.boot, th.obsGen, th.worker⟩

/-- The two kinds of observation are fenced alike. -/
def Frame.obsStamp (m : Frame) : Option ObsStamp :=
  match m.type with
  | .powerObservation => (decodePowerObs m).map PowerObsMsg.stamp
  | .thermalObservation => (decodeThermalObs m).map ThermalObsMsg.stamp
  | _ => none

namespace CoordShared

variable {cs : CoordShared}

def Passes (cs : CoordShared) (o : ObsStamp) : Prop :=
  cs.fenceObs o.epoch o.boot o.generation o.worker = .ok ()

instance (cs : CoordShared) (o : ObsStamp) : Decidable (cs.Passes o) :=
  inferInstanceAs (Decidable (_ = _))

/-- The observation of a frame, if it passes `fence_obs`. -/
def letsPass (cs : CoordShared) (m : Frame) : Option ObsStamp :=
  m.obsStamp.filter fun o => cs.Passes o

/-- The high-water mark of a worker. -/
def markOf (cs : CoordShared) (w : WorkerId) : Option ObservationGeneration :=
  (cs.obsHwm.find? w).map HighWater.generation

/-- Nothing below the mark passes. -/
theorem Passes.le {o : ObsStamp} (passes : cs.Passes o) {hi : ObservationGeneration}
    (mark : cs.markOf o.worker = some hi) : hi ≤ o.generation := by
  obtain ⟨entry, found, rfl⟩ := Option.map_eq_some_iff.mp mark
  unfold Passes fenceObs at passes
  split at passes
  · cases passes
  split at passes
  · cases passes
  split at passes
  · cases passes
  · rename_i low
    rw [found, Option.any_some, decide_eq_true_eq] at low
    exact Generation.not_lt.mp low

/-- A refused observation writes nothing. -/
theorem shared_fenced (o : ObsStamp) (id : UInt64) (progress : Progress) :
    (cs.fenced (cs.fenceObs o.epoch o.boot o.generation o.worker) id
        (progress, cs.advance o.worker o.generation)).2 =
      if cs.Passes o then cs.advance o.worker o.generation else cs := by
  by_cases passes : cs.Passes o
  · rw [if_pos passes, passes]
    rfl
  · rw [if_neg passes]
    cases fence : cs.fenceObs o.epoch o.boot o.generation o.worker with
    | error why => rfl
    | ok _ => exact absurd fence passes

/-- The first section advances the mark of an observation that passes. -/
theorem shared_receive (cs : CoordShared) (m : Frame) :
    (cs.receive m).2 = match cs.letsPass m with
      | some o => cs.advance o.worker o.generation
      | none => cs := by
  have advances : ∀ o : ObsStamp, (if cs.Passes o then cs.advance o.worker o.generation else cs) =
      match (some o).filter fun o => decide (cs.Passes o) with
      | some o => cs.advance o.worker o.generation
      | none => cs := by
    intro o
    rw [Option.filter_some]
    by_cases passes : cs.Passes o
    · rw [if_pos passes, if_pos (decide_eq_true passes)]
    · rw [if_neg passes, if_neg (by simpa using passes)]
  unfold letsPass Frame.obsStamp receive
  cases m.type with
  | powerObservation =>
      cases decodePowerObs m with
      | none => rfl
      | some po => exact (shared_fenced po.stamp _ _).trans (advances po.stamp)
  | thermalObservation =>
      cases decodeThermalObs m with
      | none => rfl
      | some th => exact (shared_fenced th.stamp _ _).trans (advances th.stamp)
  | reserve | decisionRequest =>
      cases decodeReserve m with
      | none => rfl
      | some rr => exact @view_fenced cs _ id _ _ _ rfl
  | activate | release =>
      cases decodeBudgetAction m with
      | none => rfl
      | some ba => exact @view_fenced cs _ id _ _ _ rfl
  | _ => rfl

end CoordShared

/-! ## High-water marks -/

/-- What a step does to a mark: a REGISTER resets it, an observation that passes
the fence moves it. -/
inductive MarkWrite where
  | reset (worker : WorkerId)
  | accept (o : ObsStamp)
deriving DecidableEq

namespace MarkWrite

def entry : MarkWrite → HighWater
  | reset worker => ⟨worker, .null⟩
  | accept o => ⟨o.worker, o.generation⟩

end MarkWrite

namespace Coordinator

variable {s : Coordinator} {event : Event}

/-- The mark that a step writes. -/
def markWrite (s : Coordinator) (event : Event) : Option MarkWrite :=
  if s.running then
    match event with
    | .connect conn first =>
      match s.connections conn with
      | some _ => none
      | none =>
        if first.type ≠ .register then none
        else (decodeRegister first).map fun reg => .reset reg.worker
    | .frame conn m =>
      match s.connections conn with
      | some ⟨_, none⟩ => (s.shared.letsPass m).map .accept
      | _ => none
    | _ => none
  else none

theorem markWrite_frame_iff {conn : Nat} {m : Frame} {o : ObsStamp} :
    s.markWrite (.frame conn m) = some (.accept o) ↔
      s.Idle conn ∧ s.shared.letsPass m = some o := by
  unfold markWrite Idle
  by_cases running : s.running = true
  · rw [if_pos running]
    dsimp only
    rcases s.connections conn with _ | ⟨reg, _ | work⟩ <;> simp [running]
  · simp [running]

theorem passes_of_markWrite {o : ObsStamp} (written : s.markWrite event = some (.accept o)) :
    s.shared.Passes o := by
  unfold markWrite at written
  split at written
  case isFalse stopped => cases written
  case isTrue running =>
    split at written
    · split at written
      · cases written
      · split at written
        · cases written
        · obtain ⟨reg, _, reset⟩ := Option.map_eq_some_iff.mp written
          cases reset
    · split at written
      · obtain ⟨_, passed, ⟨⟩⟩ := Option.map_eq_some_iff.mp written
        exact of_decide_eq_true (Option.filter_eq_some_iff.mp passed).2
      · cases written
    · cases written

theorem obsHwm_after (s : Coordinator) (event : Event) :
    (s.after event).shared.obsHwm = match s.markWrite event with
      | some write => s.shared.obsHwm.assign write.entry
      | none => s.shared.obsHwm := by
  unfold after markWrite
  split
  case isFalse stopped => rfl
  case isTrue running =>
    cases event with
    | connect conn first =>
        unfold take
        dsimp only
        cases s.connections conn with
        | some c => rfl
        | none =>
            by_cases other : first.type ≠ .register
            · rw [if_pos other, if_pos other]
            · rw [if_neg other, if_neg other]
              cases decodeRegister first <;> rfl
    | frame conn m =>
        unfold take
        dsimp only
        rcases s.connections conn with _ | ⟨reg, _ | work⟩
        · rfl
        · show (s.shared.receive m).2.obsHwm = _
          rw [CoordShared.shared_receive]
          cases s.shared.letsPass m <;> rfl
        · rfl
    | proceed conn =>
        unfold take
        dsimp only
        split
        · rename_i reg work found
          have kept : (work.run.exec s.shared).2.obsHwm = s.shared.obsHwm :=
            Pending.keeps_run (fun _ _ => rfl) work s.shared
          generalize work.run.exec s.shared = ended at kept ⊢
          obtain ⟨result, shared⟩ := ended
          cases result with
          | error fault => exact kept
          | ok progress => exact kept
        · rfl
    | disconnect conn =>
        unfold take
        dsimp only
        split <;> rfl
    | installBudget id parent hmax soft =>
        exact CoordShared.keeps_installBudget (fun _ _ => rfl) id parent hmax soft s.shared
    | setPolicy cap => exact CoordShared.keeps_setPolicy (fun _ _ => rfl) cap s.shared
    | rollEpoch => rfl

/-- The mark of a worker changes by the writes to it. -/
theorem markOf_after (s : Coordinator) (event : Event) (w : WorkerId) :
    (s.after event).shared.markOf w = match s.markWrite event with
      | some write =>
        if w = write.entry.worker then some write.entry.generation else s.shared.markOf w
      | none => s.shared.markOf w := by
  unfold CoordShared.markOf
  rw [obsHwm_after]
  cases s.markWrite event with
  | none => rfl
  | some write =>
      dsimp only
      rw [Keyed.find?_assign]
      exact apply_ite _ _ _ _

/-- A temperature of worker 1 under boot 10, in observation 1. -/
def temperatureMsg : ThermalObsMsg where
  worker := ⟨1⟩
  boot := ⟨10⟩
  epoch := .first
  accel := ⟨1⟩
  thermGen := .first
  obsGen := .first
  timestampNs := 1
  hasTemp := true
  tempCenti := 5000
  state := 2

def temperatureFrame : Frame := ⟨.thermalObservation, encodeThermalObs temperatureMsg⟩

/-- Worker 1 sends one observation twice. -/
def replaying : List Event :=
  [.connect 1 (registerFrame 1 10), .proceed 1, .frame 1 temperatureFrame,
    .frame 1 temperatureFrame]

end Coordinator

/-! ## Accepted observations -/

/-- A coordinator and the generations that passed `fence_obs` for each worker since
its last REGISTER; no step reads them. -/
structure Watched where
  coordinator : Coordinator
  accepted : WorkerId → List ObservationGeneration

namespace Watched

def start : Watched := ⟨.start, fun _ => []⟩

/-- The list of a worker after a write to its mark. -/
def record (x : Watched) : MarkWrite → WorkerId → List ObservationGeneration
  | .reset w => Function.update x.accepted w []
  | .accept o => Function.update x.accepted o.worker (x.accepted o.worker ++ [o.generation])

def after (x : Watched) (event : Event) : Watched where
  coordinator := x.coordinator.after event
  accepted :=
    match x.coordinator.markWrite event with
    | some write => x.record write
    | none => x.accepted

/-- No observation was accepted behind a later one. -/
def InOrder (x : Watched) : Prop := ∀ w, (x.accepted w).Pairwise (· ≤ ·)

/-- Nor was one accepted twice. -/
def Increasing (x : Watched) : Prop := ∀ w, (x.accepted w).Pairwise (· < ·)

/-- The step accepts no observation with the generation of the mark, the first one
after a REGISTER apart. -/
def AcceptsNew (x : Watched) (event : Event) : Prop :=
  ∀ o, x.coordinator.markWrite event = some (.accept o) →
    x.coordinator.shared.markOf o.worker = some o.generation → x.accepted o.worker = []

/-- The mark is the greatest of the accepted generations, if there is one. -/
def Marked (x : Watched) : Prop :=
  ∀ w, x.accepted w ≠ [] → ∃ hi ∈ x.accepted w,
    x.coordinator.shared.markOf w = some hi ∧ ∀ g ∈ x.accepted w, g ≤ hi

variable {x : Watched} {event : Event}

theorem accepted_after (x : Watched) (event : Event) (w : WorkerId) :
    (x.after event).accepted w = match x.coordinator.markWrite event with
      | some (.reset worker) => if w = worker then [] else x.accepted w
      | some (.accept o) =>
        if w = o.worker then x.accepted w ++ [o.generation] else x.accepted w
      | none => x.accepted w := by
  unfold after
  dsimp only
  cases x.coordinator.markWrite event with
  | none => rfl
  | some write =>
      unfold record
      cases write with
      | reset worker => exact Function.update_apply _ _ _ _
      | accept o =>
          dsimp only
          rw [Function.update_apply]
          split
          · rename_i same
            rw [same]
          · rfl

theorem markOf_after (x : Watched) (event : Event) (w : WorkerId) :
    (x.after event).coordinator.shared.markOf w = match x.coordinator.markWrite event with
      | some (.reset worker) => if w = worker then some .null else x.coordinator.shared.markOf w
      | some (.accept o) =>
        if w = o.worker then some o.generation else x.coordinator.shared.markOf w
      | none => x.coordinator.shared.markOf w := by
  refine (Coordinator.markOf_after x.coordinator event w).trans ?_
  rcases x.coordinator.markWrite event with _ | worker | o <;> rfl

/-- An accepted generation is not below the accepted ones. -/
theorem Marked.le (marked : x.Marked) {o : ObsStamp} (passes : x.coordinator.shared.Passes o) :
    ∀ g ∈ x.accepted o.worker, g ≤ o.generation := by
  intro g accepted
  obtain ⟨hi, _, mark, most⟩ := marked o.worker (List.ne_nil_of_mem accepted)
  exact Generation.le_trans (most g accepted) (passes.le mark)

theorem marked_after (marked : x.Marked) (event : Event) : (x.after event).Marked := by
  intro w nonempty
  rw [accepted_after] at nonempty ⊢
  rw [markOf_after]
  cases written : x.coordinator.markWrite event with
  | none =>
      rw [written] at nonempty
      exact marked w nonempty
  | some write =>
      rw [written] at nonempty
      cases write with
      | reset worker =>
          dsimp only at nonempty ⊢
          by_cases own : w = worker
          · rw [if_pos own] at nonempty
            exact absurd rfl nonempty
          · rw [if_neg own] at nonempty
            rw [if_neg own, if_neg own]
            exact marked w nonempty
      | accept o =>
          dsimp only at nonempty ⊢
          by_cases own : w = o.worker
          · rw [if_pos own, if_pos own]
            refine ⟨o.generation, by simp, rfl, ?_⟩
            intro g accepted
            rcases List.mem_append.mp accepted with before | last
            · exact marked.le (Coordinator.passes_of_markWrite written) g (own ▸ before)
            · rw [List.mem_singleton.mp last]
              exact Generation.le_refl _
          · rw [if_neg own] at nonempty
            rw [if_neg own, if_neg own]
            exact marked w nonempty

/-- What relates the generations accepted for each worker relates them after a step
that only appends what they are related to. -/
theorem pairwise_after {Rel : ObservationGeneration → ObservationGeneration → Prop}
    (kept : ∀ w, (x.accepted w).Pairwise Rel)
    (appends : ∀ o, x.coordinator.markWrite event = some (.accept o) →
      ∀ g ∈ x.accepted o.worker, Rel g o.generation) (w : WorkerId) :
    ((x.after event).accepted w).Pairwise Rel := by
  rw [accepted_after]
  cases written : x.coordinator.markWrite event with
  | none => exact kept w
  | some write =>
      cases write with
      | reset worker =>
          dsimp only
          split
          · exact List.Pairwise.nil
          · exact kept w
      | accept o =>
          dsimp only
          split
          case isFalse other => exact kept w
          case isTrue own =>
            subst own
            refine List.pairwise_append.mpr ⟨kept _, List.pairwise_singleton _ _, ?_⟩
            intro g accepted last isLast
            rw [List.mem_singleton.mp isLast]
            exact appends o written g accepted

theorem inOrder_after (marked : x.Marked) (inOrder : x.InOrder) (event : Event) :
    (x.after event).InOrder := by
  refine pairwise_after inOrder ?_
  intro o written
  exact marked.le (Coordinator.passes_of_markWrite written)

/-- The list grows strictly exactly when the generation is not the mark itself. -/
theorem increasing_after_iff (marked : x.Marked) (increasing : x.Increasing) (event : Event) :
    (x.after event).Increasing ↔ x.AcceptsNew event := by
  constructor
  · intro after o written mark
    by_contra nonempty
    obtain ⟨hi, accepted, highest, _⟩ := marked o.worker nonempty
    obtain rfl := Option.some.inj (mark.symm.trans highest)
    have grown := after o.worker
    rw [accepted_after, written] at grown
    dsimp only at grown
    rw [if_pos rfl, List.pairwise_append] at grown
    exact Generation.lt_irrefl _ (grown.2.2 _ accepted _ (List.mem_singleton.mpr rfl))
  · intro new
    refine pairwise_after increasing ?_
    intro o written g accepted
    have passes := Coordinator.passes_of_markWrite written
    refine Generation.lt_of_le_of_ne (marked.le passes g accepted) ?_
    rintro rfl
    obtain ⟨hi, _, highest, most⟩ := marked o.worker (List.ne_nil_of_mem accepted)
    have same : hi = o.generation :=
      Generation.le_antisymm (passes.le highest) (most _ accepted)
    rw [new o written (highest.trans (congrArg some same))] at accepted
    cases accepted

theorem marked_start : start.Marked := fun _ nonempty => absurd rfl nonempty

/-- Along every run the generations accepted between two REGISTER messages never
decrease, and they are strictly increasing exactly when the mark itself is not
accepted again. -/
theorem accepted_in_order (events : List Event) :
    Along after (fun x event => (x.after event).InOrder) start events ∧
      (Along after (fun x event => (x.after event).Increasing) start events ↔
        Along after AcceptsNew start events) := by
  constructor
  · refine Along.of_invariant (fun x => x.Marked ∧ x.InOrder) ?_ ?_ (along_true start events)
    · rintro x event ⟨marked, inOrder⟩ _
      have kept := inOrder_after marked inOrder event
      exact ⟨kept, marked_after marked event, kept⟩
    · exact ⟨marked_start, fun w => List.Pairwise.nil⟩
  · refine along_congr_of_invariant (fun x => x.Marked ∧ x.Increasing) ?_ ?_ ?_ events
    · rintro x event ⟨marked, increasing⟩
      exact increasing_after_iff marked increasing event
    · rintro x event ⟨marked, _⟩ increasing
      exact ⟨marked_after marked event, increasing⟩
    · exact ⟨marked_start, fun w => List.Pairwise.nil⟩

theorem replay_accepted :
    ¬ ∀ events, Along after (fun x event => (x.after event).Increasing) start events := by
  intro increases
  obtain ⟨_, _, _, increasing, _⟩ := increases Coordinator.replaying
  have accepted : (Coordinator.replaying.foldl after start).accepted ⟨1⟩ = [.first, .first] := by
    decide +kernel
  have twice : ((Coordinator.replaying.foldl after start).accepted ⟨1⟩).Pairwise (· < ·) :=
    increasing ⟨1⟩
  rw [accepted] at twice
  exact absurd twice (by decide)

end Watched

end PowerGovernor
