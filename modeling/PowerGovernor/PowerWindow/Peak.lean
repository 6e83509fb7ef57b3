import PowerGovernor.Library.Transition
import PowerGovernor.PowerWindow

/-!
The peak of a power window.

Owns the calls that change a window and the exact condition under which `peak` is still the
greatest power retained: the trim drops samples and leaves the peak as it was.
-/

set_option autoImplicit false

namespace PowerGovernor

/-- A call that changes a window. -/
inductive WindowCall where
  | record (t : Timestamp) (p : Watts)
  | clear
deriving DecidableEq

namespace PowerWindow

variable {w : PowerWindow}

/-- The window after a call, also one that throws. -/
def next (w : PowerWindow) : WindowCall → PowerWindow
  | .record t p => (w.record t p).1
  | .clear => w.clear

/-! ## The greatest power -/

/-- The greatest power of the samples, zero when there are none. -/
def greatest (samples : List PowerSample) : ℚ :=
  samples.foldr (fun s above => max s.p.value above) 0

theorem le_greatest {samples : List PowerSample} {s : PowerSample} (member : s ∈ samples) :
    s.p.value ≤ greatest samples := by
  induction samples with
  | nil => cases member
  | cons front rest inductionHypothesis =>
      rcases List.mem_cons.mp member with rfl | later
      · exact le_max_left _ _
      · exact (inductionHypothesis later).trans (le_max_right _ _)

theorem greatest_le {samples : List PowerSample} {bound : ℚ} (nonneg : 0 ≤ bound)
    (below : ∀ s ∈ samples, s.p.value ≤ bound) : greatest samples ≤ bound := by
  induction samples with
  | nil => exact nonneg
  | cons front rest inductionHypothesis =>
      obtain ⟨first, others⟩ := List.forall_mem_cons.mp below
      exact max_le first (inductionHypothesis others)

theorem greatest_nonneg (samples : List PowerSample) : 0 ≤ greatest samples := by
  cases samples with
  | nil => exact le_refl 0
  | cons front rest => exact front.p.nonneg.trans (le_max_left _ _)

/-- A positive greatest power is that of a sample. -/
theorem exists_greatest {samples : List PowerSample} (positive : 0 < greatest samples) :
    ∃ s ∈ samples, s.p.value = greatest samples := by
  induction samples with
  | nil => exact absurd positive (lt_irrefl 0)
  | cons front rest inductionHypothesis =>
      rcases le_total (greatest rest) front.p.value with least | most
      · exact ⟨front, List.mem_cons_self, (max_eq_left least).symm⟩
      · have same : greatest (front :: rest) = greatest rest := max_eq_right most
        rw [same] at positive ⊢
        obtain ⟨s, member, attained⟩ := inductionHypothesis positive
        exact ⟨s, List.mem_cons_of_mem front member, attained⟩

theorem greatest_concat (samples : List PowerSample) (s : PowerSample) :
    greatest (samples ++ [s]) = max (greatest samples) s.p.value := by
  induction samples with
  | nil =>
      show max s.p.value 0 = max 0 s.p.value
      exact max_comm _ _
  | cons front rest inductionHypothesis =>
      show max front.p.value (greatest (rest ++ [s])) = _
      rw [inductionHypothesis, ← max_assoc]
      rfl

/-! ## The peak -/

/-- `peak` is the greatest power retained. -/
def PeakIsRetained (w : PowerWindow) : Prop := w.peak.value = greatest w.samples

instance (w : PowerWindow) : Decidable w.PeakIsRetained :=
  inferInstanceAs (Decidable (w.peak.value = greatest w.samples))

/-- A call after which the peak is still retained: the new sample is as high, the call is
refused, or a sample as high is young enough or the newest. -/
def KeepsPeak (w : PowerWindow) : WindowCall → Prop
  | .clear => True
  | .record t p => w.peak.value ≤ p.value ∨ ¬ w.Takes t ∨
      ∃ s ∈ w.samples, s.p.value = w.peak.value ∧
        (t.ns - s.t.ns ≤ w.capacity.ns ∨ w.samples.getLast? = some s)

instance (w : PowerWindow) (call : WindowCall) : Decidable (w.KeepsPeak call) := by
  cases call <;> unfold KeepsPeak <;> infer_instance

/-! ## One record -/

variable {t : Timestamp} {p : Watts}

/-- A trim that throws has dropped nothing: only the oldest sample can be too old for the
clock. -/
theorem trimLoop_of_failed {capacity : Duration} {now : Timestamp} {samples : List PowerSample}
    (ordered : samples.Pairwise fun a b => a.t.ns ≤ b.t.ns)
    (failed : (trimLoop capacity now samples).2 ≠ .ok ()) :
    (trimLoop capacity now samples).1 = samples := by
  obtain ⟨many, far⟩ := Classical.not_imp.mp (mt (trimLoop_returns_iff ordered).mpr failed)
  cases samples with
  | nil => exact absurd many (by decide)
  | cons front rest =>
      have late : ¬ now.ElapsedFits front.t := by simpa using far
      obtain ⟨fault, overflows⟩ := Timestamp.elapsedSince_faults late
      unfold trimLoop
      rw [overflows]
      split <;> rfl

/-- What stays of the samples and a new one: the new one, the young ones and the newest. -/
theorem mem_of_kept (p : Watts) {s : PowerSample} (member : s ∈ w.samples)
    (stays : t.ns - s.t.ns ≤ w.capacity.ns ∨ w.samples.getLast? = some s) :
    s ∈ (trimLoop w.capacity t (w.samples ++ [⟨t, p⟩])).1 := by
  rcases stays with young | newest
  · exact mem_trimLoop (List.mem_append_left _ member) young
  · obtain ⟨older, same⟩ := List.getLast?_eq_some_iff.mp newest
    have enough := min_length_le_trimLoop w.capacity t (w.samples ++ [⟨t, p⟩])
    have suffix := trimLoop_suffix w.capacity t (w.samples ++ [⟨t, p⟩])
    generalize (trimLoop w.capacity t (w.samples ++ [⟨t, p⟩])).1 = kept at enough suffix ⊢
    rw [same] at enough suffix
    have pair : [s, ⟨t, p⟩] <:+ older ++ [s] ++ [⟨t, p⟩] := ⟨older, by simp⟩
    have length : [s, (⟨t, p⟩ : PowerSample)].length ≤ kept.length := by
      refine le_trans ?_ enough
      simp
    exact (List.suffix_of_suffix_length_le pair suffix length).subset List.mem_cons_self

theorem new_mem_trimLoop (w : PowerWindow) (t : Timestamp) (p : Watts) :
    (⟨t, p⟩ : PowerSample) ∈ (trimLoop w.capacity t (w.samples ++ [⟨t, p⟩])).1 := by
  have last := getLast?_trimLoop w.capacity t (w.samples ++ [⟨t, p⟩])
  rw [List.getLast?_concat] at last
  exact List.mem_of_getLast? last

/-- Where the trim ends, an old sample stays only if it is young enough or the newest. -/
theorem kept_of_mem (ordered : w.Ordered) (takes : w.Takes t) {s : PowerSample}
    (member : s ∈ (trimLoop w.capacity t (w.samples ++ [⟨t, p⟩])).1) (old : s ≠ ⟨t, p⟩) :
    s ∈ w.samples ∧ (t.ns - s.t.ns ≤ w.capacity.ns ∨ w.samples.getLast? = some s) := by
  have suffix := trimLoop_suffix w.capacity t (w.samples ++ [⟨t, p⟩])
  have last := getLast?_trimLoop w.capacity t (w.samples ++ [⟨t, p⟩])
  have ended : (trimLoop w.capacity t (w.samples ++ [⟨t, p⟩])).2 = .ok () := by
    have returned := (record_returns_iff ordered (p := p)).mpr takes
    rwa [record_of_late p takes.1] at returned
  have near := near_of_trimLoop (ordered.append takes.1) ended
  generalize (trimLoop w.capacity t (w.samples ++ [⟨t, p⟩])).1 = kept at *
  rw [List.getLast?_concat] at last
  obtain ⟨before, rfl⟩ := List.getLast?_eq_some_iff.mp last
  obtain ⟨dropped, same⟩ := suffix
  rw [← List.append_assoc] at same
  have older : dropped ++ before = w.samples := List.append_cancel_right same
  have earlier : s ∈ before := by
    rcases List.mem_append.mp member with earlier | new
    · exact earlier
    · exact absurd (List.mem_singleton.mp new) old
  refine ⟨older ▸ List.mem_append_right dropped earlier, ?_⟩
  rcases near with few | young
  · right
    rw [List.length_append, List.length_singleton] at few
    obtain ⟨only, rfl⟩ := List.length_eq_one_iff.mp
      (Nat.le_antisymm (by omega) (List.length_pos_of_mem earlier))
    rw [List.mem_singleton.mp earlier, ← older, List.getLast?_concat]
  · exact .inl (young s member)

/-- After a record the peak is the greatest of the old samples and the new one, whether or
not they stay. -/
theorem peakIsRetained_of_late (late : ∀ back ∈ w.samples.getLast?, back.t.ns ≤ t.ns)
    (p : Watts) :
    (w.record t p).1.PeakIsRetained ↔ max w.peak.value p.value =
      greatest (trimLoop w.capacity t (w.samples ++ [⟨t, p⟩])).1 := by
  unfold PeakIsRetained
  rw [record_of_late p late]
  show (if w.peak.value < p.value then p else w.peak).value = _ ↔ _
  split
  · rename_i higher
    rw [max_eq_right higher.le]
  · rename_i lower
    rw [max_eq_left (not_lt.mp lower)]

theorem peakIsRetained_record (ordered : w.Ordered) (retained : w.PeakIsRetained)
    (t : Timestamp) (p : Watts) :
    (w.record t p).1.PeakIsRetained ↔ w.KeepsPeak (.record t p) := by
  by_cases late : ∀ back ∈ w.samples.getLast?, back.t.ns ≤ t.ns
  · have new := le_greatest (new_mem_trimLoop w t p)
    have whole := greatest_concat w.samples ⟨t, p⟩
    rw [← retained] at whole
    rw [peakIsRetained_of_late late]
    constructor
    · intro same
      refine or_iff_not_imp_left.mpr fun lower => or_iff_not_imp_left.mpr fun takes => ?_
      have lower := not_le.mp lower
      rw [max_eq_left lower.le] at same
      obtain ⟨s, member, attained⟩ := exists_greatest (same ▸ p.nonneg.trans_lt lower)
      have attained := attained.trans same.symm
      have old : s ≠ ⟨t, p⟩ := by
        rintro rfl
        exact absurd attained lower.ne
      obtain ⟨inside, stays⟩ := kept_of_mem ordered (not_not.mp takes) member old
      exact ⟨s, inside, attained, stays⟩
    · intro keeps
      refine le_antisymm ?_ ?_
      · rcases keeps with higher | refused | ⟨s, member, attained, stays⟩
        · rw [max_eq_right higher]
          exact new
        · have failed : (trimLoop w.capacity t (w.samples ++ [⟨t, p⟩])).2 ≠ .ok () := by
            intro ended
            apply refused
            refine (record_returns_iff ordered (p := p)).mp ?_
            rw [record_of_late p late]
            exact ended
          rw [trimLoop_of_failed (ordered.append late) failed, whole]
        · refine max_le ?_ new
          rw [← attained]
          exact le_greatest (mem_of_kept p member stays)
      · rw [← whole]
        exact greatest_le (greatest_nonneg _) fun s member =>
          le_greatest ((trimLoop_suffix w.capacity t _).subset member)
  · have refused : ¬ w.Takes t := fun takes => late takes.1
    rw [record_of_early p late]
    exact ⟨fun _ => .inr (.inl refused), fun _ => retained⟩

/-! ## Runs -/

/-- In every run the peak is retained in all states exactly when every call keeps it. -/
theorem peak_is_retained_iff (capacity : Duration) (calls : List WindowCall) :
    Along next (fun w call => (w.next call).PeakIsRetained) (construct capacity) calls ↔
      Along next KeepsPeak (construct capacity) calls := by
  have ordered_next : ∀ {w : PowerWindow}, w.Ordered → ∀ call, (w.next call).Ordered := by
    intro w ordered call
    cases call with
    | record t p => exact ordered.record t p
    | clear => exact List.Pairwise.nil
  refine along_congr_of_invariant (fun w => w.Ordered ∧ w.PeakIsRetained) ?_ ?_
    ⟨List.Pairwise.nil, rfl⟩ calls
  · rintro w call ⟨ordered, retained⟩
    cases call with
    | record t p => exact peakIsRetained_record ordered retained t p
    | clear => exact ⟨fun _ => trivial, fun _ => rfl⟩
  · rintro w call ⟨ordered, _⟩ retained
    exact ⟨ordered_next ordered call, retained⟩

/-- A window of a second that has dropped its 100 W and still reports them. -/
theorem peak_outlives_sample :
    ¬ Along next (fun w call => (w.next call).PeakIsRetained)
      (construct ⟨1000000000, by decide, by decide⟩)
      [.record ⟨1000000000, by decide, by decide⟩ ⟨100, by decide +kernel⟩,
        .record ⟨2000000000, by decide, by decide⟩ ⟨10, by decide +kernel⟩,
        .record ⟨3000000000, by decide, by decide⟩ ⟨10, by decide +kernel⟩] := by
  rintro ⟨_, _, retained, _⟩
  revert retained
  decide +kernel

end PowerWindow

end PowerGovernor
