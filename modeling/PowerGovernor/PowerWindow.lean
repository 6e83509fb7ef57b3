import Mathlib.Tactic.Linarith
import PowerGovernor.Energy

/-!
What a power window holds.

Owns the order of its samples, which every record keeps, and the exact condition
under which `average_power` returns: it is `noexcept` and takes elapsed times,
so samples further apart than a `Duration` can hold end the process.
-/

set_option autoImplicit false

namespace PowerGovernor

namespace PowerWindow

variable {w : PowerWindow}

/-- The samples are in the order of their timestamps. -/
def Ordered (w : PowerWindow) : Prop := w.samples.Pairwise fun a b => a.t.ns ≤ b.t.ns

/-- The elapsed time from the first sample to the last fits in a `Duration`. -/
def Spans (w : PowerWindow) : Prop :=
  ∀ front ∈ w.samples.head?, ∀ back ∈ w.samples.getLast?, back.t.ElapsedFits front.t

theorem trimLoop_suffix (capacity : Duration) (now : Timestamp) (samples : List PowerSample) :
    (trimLoop capacity now samples).1 <:+ samples := by
  induction samples with
  | nil => exact List.suffix_rfl
  | cons front rest inductionHypothesis =>
      unfold trimLoop
      split
      · cases now.elapsedSince front.t with
        | error fault => exact List.suffix_rfl
        | ok elapsed =>
            dsimp only
            split
            · exact inductionHypothesis.trans (List.suffix_cons front rest)
            · exact List.suffix_rfl
      · exact List.suffix_rfl

/-- No sample is later than the last one. -/
theorem le_last {samples : List PowerSample}
    (ordered : samples.Pairwise fun a b => a.t.ns ≤ b.t.ns) {back : PowerSample}
    (last : samples.getLast? = some back) {a : PowerSample} (member : a ∈ samples) :
    a.t.ns ≤ back.t.ns := by
  obtain ⟨earlier, rfl⟩ := List.getLast?_eq_some_iff.mp last
  rcases List.mem_append.mp member with before | same
  · exact (List.pairwise_append.mp ordered).2.2 a before back (List.mem_singleton.mpr rfl)
  · rw [List.mem_singleton.mp same]

/-- A sample that is not earlier than the last one keeps the order. -/
theorem Ordered.append (ordered : w.Ordered) {t : Timestamp} {p : Watts}
    (late : ∀ back ∈ w.samples.getLast?, back.t.ns ≤ t.ns) :
    (w.samples ++ [(⟨t, p⟩ : PowerSample)]).Pairwise fun a b => a.t.ns ≤ b.t.ns := by
  apply List.pairwise_append.mpr
  refine ⟨ordered, List.pairwise_singleton _ _, fun a member b last => ?_⟩
  rw [List.mem_singleton.mp last]
  cases found : w.samples.getLast? with
  | none =>
      rw [List.getLast?_eq_none_iff.mp found] at member
      cases member
  | some back => exact (le_last ordered found member).trans (late back found)

/-- A sample at this time is recorded: it is not earlier than the last one, and where
more than two samples would be held, the first is not too far behind. -/
def Takes (w : PowerWindow) (t : Timestamp) : Prop :=
  (∀ back ∈ w.samples.getLast?, back.t.ns ≤ t.ns) ∧
    (2 ≤ w.samples.length → ∀ front ∈ w.samples.head?, t.ElapsedFits front.t)

instance (w : PowerWindow) (t : Timestamp) : Decidable (w.Takes t) := by
  unfold Takes
  infer_instance

/-- The loop ends exactly when the first elapsed time it takes fits: the later ones
are no longer. -/
theorem trimLoop_returns_iff {capacity : Duration} {now : Timestamp} {samples : List PowerSample}
    (ordered : samples.Pairwise fun a b => a.t.ns ≤ b.t.ns) :
    (trimLoop capacity now samples).2 = .ok () ↔
      (3 ≤ samples.length → ∀ front ∈ samples.head?, now.ElapsedFits front.t) := by
  induction samples with
  | nil => exact ⟨fun _ _ _ member => (nomatch member), fun _ => rfl⟩
  | cons front rest inductionHypothesis =>
      obtain ⟨first, later⟩ := List.pairwise_cons.mp ordered
      have head : (∀ other ∈ (front :: rest).head?, now.ElapsedFits other.t) ↔
          now.ElapsedFits front.t := by simp
      rw [head, List.length_cons]
      unfold trimLoop
      by_cases many : 2 ≤ rest.length
      · rw [if_pos many]
        have long : 3 ≤ rest.length + 1 := by omega
        cases taken : now.elapsedSince front.t with
        | error fault =>
            have overflows : ¬ now.ElapsedFits front.t := by
              intro fits
              obtain ⟨elapsed, returned⟩ := Timestamp.elapsedSince_returns_iff.mpr fits
              rw [taken] at returned
              cases returned
            exact ⟨nofun, fun fits => absurd (fits long) overflows⟩
        | ok elapsed =>
            have fits : now.ElapsedFits front.t := Timestamp.elapsedSince_returns_iff.mp ⟨_, taken⟩
            dsimp only
            split
            · rw [inductionHypothesis later]
              refine ⟨fun _ _ => fits, fun _ _ other member => ?_⟩
              have after := first other (List.mem_of_mem_head? member)
              unfold Timestamp.ElapsedFits at fits ⊢
              omega
            · exact ⟨fun _ _ => fits, fun _ => rfl⟩
      · rw [if_neg many]
        exact ⟨fun _ long => absurd long (by omega), fun _ => rfl⟩

/-- A sample earlier than the last one is refused. -/
theorem record_of_early {t : Timestamp} (p : Watts)
    (early : ¬ ∀ back ∈ w.samples.getLast?, back.t.ns ≤ t.ns) : w.record t p =
      (w, .error (.invalidArgument "pg::PowerWindow::record: out-of-order timestamp")) := by
  unfold PowerWindow.record
  rw [if_pos]
  cases last : w.samples.getLast? with
  | none =>
      rw [last] at early
      exact absurd (fun _ member => nomatch member) early
  | some back =>
      rw [last] at early
      simpa using early

theorem record_of_late {t : Timestamp} (p : Watts)
    (late : ∀ back ∈ w.samples.getLast?, back.t.ns ≤ t.ns) : w.record t p =
      ({ w with
          samples := (trimLoop w.capacity t (w.samples ++ [⟨t, p⟩])).1
          peak := if w.peak.value < p.value then p else w.peak },
        (trimLoop w.capacity t (w.samples ++ [⟨t, p⟩])).2) := by
  unfold PowerWindow.record
  rw [if_neg]
  cases last : w.samples.getLast? with
  | none => exact Bool.false_ne_true
  | some back =>
      rw [last] at late
      rw [Option.any_some, decide_eq_true_eq, not_lt]
      exact late back rfl

/-- Recording keeps the order. -/
theorem Ordered.record (ordered : w.Ordered) (t : Timestamp) (p : Watts) :
    (w.record t p).1.Ordered := by
  by_cases late : ∀ back ∈ w.samples.getLast?, back.t.ns ≤ t.ns
  · rw [record_of_late p late]
    exact (ordered.append late).sublist (trimLoop_suffix w.capacity t _).sublist
  · rw [record_of_early p late]
    exact ordered

theorem record_returns_iff (ordered : w.Ordered) {t : Timestamp} {p : Watts} :
    (w.record t p).2 = .ok () ↔ w.Takes t := by
  unfold Takes
  by_cases late : ∀ back ∈ w.samples.getLast?, back.t.ns ≤ t.ns
  · rw [record_of_late p late, trimLoop_returns_iff (ordered.append late), and_iff_right late]
    cases w.samples with
    | nil => simp
    | cons front rest => simp
  · rw [record_of_early p late]
    exact ⟨nofun, fun takes => absurd takes.1 late⟩

/-! ## What the trim keeps -/

variable {capacity : Duration} {now : Timestamp} {samples : List PowerSample}

/-- The trim leaves two samples where there are as many. -/
theorem min_length_le_trimLoop (capacity : Duration) (now : Timestamp)
    (samples : List PowerSample) :
    min samples.length 2 ≤ (trimLoop capacity now samples).1.length := by
  induction samples with
  | nil => exact Nat.le_refl 0
  | cons front rest inductionHypothesis =>
      unfold trimLoop
      split
      · rename_i many
        cases now.elapsedSince front.t with
        | error fault => exact Nat.min_le_left _ 2
        | ok elapsed =>
            dsimp only
            split
            · rw [Nat.min_eq_right many] at inductionHypothesis
              exact (Nat.min_le_right _ 2).trans inductionHypothesis
            · exact Nat.min_le_left _ 2
      · exact Nat.min_le_left _ 2

/-- What the trim leaves is no older than the capacity, unless it is two samples. -/
theorem near_of_trimLoop (ordered : samples.Pairwise fun a b => a.t.ns ≤ b.t.ns)
    (ended : (trimLoop capacity now samples).2 = .ok ()) :
    (trimLoop capacity now samples).1.length ≤ 2 ∨
      ∀ s ∈ (trimLoop capacity now samples).1, now.ns - s.t.ns ≤ capacity.ns := by
  induction samples with
  | nil => exact .inl (Nat.zero_le 2)
  | cons front rest inductionHypothesis =>
      obtain ⟨first, later⟩ := List.pairwise_cons.mp ordered
      unfold trimLoop at ended ⊢
      by_cases many : 2 ≤ rest.length
      · rw [if_pos many] at ended ⊢
        cases taken : now.elapsedSince front.t with
        | error fault =>
            rw [taken] at ended
            cases ended
        | ok elapsed =>
            have value := Timestamp.elapsedSince_eq_ok.mp taken
            rw [taken] at ended
            dsimp only at ended ⊢
            by_cases old : capacity.ns < elapsed.ns
            · rw [if_pos old] at ended ⊢
              exact inductionHypothesis later ended
            · rw [if_neg old]
              right
              intro s member
              rcases List.mem_cons.mp member with rfl | after
              · omega
              · have order := first s after
                omega
      · rw [if_neg many]
        left
        show rest.length + 1 ≤ 2
        omega

/-- The trim drops no sample that is as young as the capacity. -/
theorem mem_trimLoop {s : PowerSample} (member : s ∈ samples)
    (young : now.ns - s.t.ns ≤ capacity.ns) : s ∈ (trimLoop capacity now samples).1 := by
  induction samples with
  | nil => cases member
  | cons front rest inductionHypothesis =>
      unfold trimLoop
      split
      · cases taken : now.elapsedSince front.t with
        | error fault => exact member
        | ok elapsed =>
            have value := Timestamp.elapsedSince_eq_ok.mp taken
            have positive := capacity.nonneg
            dsimp only
            split
            · rename_i old
              apply inductionHypothesis
              rcases List.mem_cons.mp member with rfl | after
              · omega
              · exact after
            · exact member
      · exact member

/-- The newest samples stay: a suffix of two or more ends as the whole. -/
theorem getLast?_trimLoop (capacity : Duration) (now : Timestamp) (samples : List PowerSample) :
    (trimLoop capacity now samples).1.getLast? = samples.getLast? := by
  obtain ⟨dropped, same⟩ := trimLoop_suffix capacity now samples
  have enough := min_length_le_trimLoop capacity now samples
  cases kept : (trimLoop capacity now samples).1 with
  | nil =>
      rw [kept, List.length_nil] at enough
      have none : samples.length = 0 := by omega
      rw [List.length_eq_zero_iff.mp none]
  | cons front rest =>
      rw [← same, kept, List.getLast?_append, List.getLast?_cons, Option.some_or]

/-! ## Averages -/

/-- In an ordered window that spans no more than a `Duration` every two samples do. -/
theorem pairwise_fits (ordered : w.Ordered) (spans : w.Spans) :
    w.samples.Pairwise fun a b => a.t.ns ≤ b.t.ns ∧ b.t.ElapsedFits a.t := by
  apply List.Pairwise.imp_of_mem _ ordered
  intro a b memberA memberB le
  refine ⟨le, ?_⟩
  cases shape : w.samples with
  | nil =>
      rw [shape] at memberA
      cases memberA
  | cons front rest =>
      have first : front.t.ns ≤ a.t.ns := by
        rw [shape] at memberA
        rcases List.mem_cons.mp memberA with rfl | later
        · exact le_refl _
        · unfold Ordered at ordered
          rw [shape] at ordered
          exact (List.pairwise_cons.mp ordered).1 a later
      have nonempty : w.samples ≠ [] := by
        rw [shape]
        exact List.cons_ne_nil front rest
      have last := List.getLast?_eq_some_getLast nonempty
      have fits := spans front (by rw [shape]; rfl) _ last
      have after := le_last ordered last memberB
      unfold Timestamp.ElapsedFits at fits ⊢
      omega

theorem integrate_of_fits {samples : List PowerSample}
    (fits : samples.Pairwise fun a b => a.t.ns ≤ b.t.ns ∧ b.t.ElapsedFits a.t) :
    ∃ energy, integrate samples = .ok energy ∧ 0 ≤ energy := by
  fun_induction integrate samples with
  | case1 first second rest inductionHypothesis =>
      obtain ⟨heads, tail⟩ := List.pairwise_cons.mp fits
      obtain ⟨acc, summed, nonneg⟩ := inductionHypothesis tail
      obtain ⟨le, near⟩ := heads second List.mem_cons_self
      obtain ⟨elapsed, returned, _⟩ := Timestamp.elapsedSince_of_fits le near
      rw [returned, summed]
      refine ⟨_, rfl, ?_⟩
      have power : 0 ≤ first.p.value + second.p.value := add_nonneg first.p.nonneg second.p.nonneg
      have seconds : 0 ≤ elapsed.secondsF :=
        div_nonneg (Int.cast_nonneg elapsed.nonneg) (by norm_num)
      positivity
  | case2 => exact ⟨0, rfl, le_refl 0⟩

/-- Over two samples or more the average is the energy over the span, if there is one. -/
theorem averagePower_eq {front second back : PowerSample} {rest : List PowerSample} {energy : ℚ}
    {elapsed : Duration} (shape : w.samples = front :: second :: rest)
    (last : (front :: second :: rest).getLast? = some back)
    (summed : integrate (front :: second :: rest) = .ok energy) (nonneg : 0 ≤ energy)
    (returned : back.t.elapsedSince front.t = .ok elapsed) :
    w.spanSeconds = .ok elapsed.secondsF ∧ w.averagePower =
      .ok (if elapsed.secondsF ≤ 0 then back.p.value else energy / elapsed.secondsF) := by
  have joules : (Quantity.construct energy : Except Fault Joules) = .ok ⟨energy, nonneg⟩ :=
    Quantity.construct_eq_ok.mpr rfl
  have span : w.spanSeconds = .ok elapsed.secondsF := by
    unfold spanSeconds
    rw [shape, last]
    dsimp only
    rw [returned]
    rfl
  refine ⟨span, ?_⟩
  unfold averagePower
  rw [noexcept_eq_ok, shape, last]
  dsimp only
  rw [summed, span]
  dsimp only [bind, Except.bind]
  rw [joules]
  dsimp only [pure, Except.pure]
  split <;> rfl

/-- The average of an ordered window that spans no more than a `Duration`. -/
theorem averagePower_of_spans (ordered : w.Ordered) (spans : w.Spans) :
    ∃ average, w.averagePower = .ok average ∧ 0 ≤ average := by
  obtain ⟨energy, summed, nonneg⟩ := integrate_of_fits (pairwise_fits ordered spans)
  unfold Spans at spans
  cases shape : w.samples with
  | nil =>
      unfold averagePower
      rw [shape]
      exact ⟨0, rfl, le_refl 0⟩
  | cons front rest =>
      cases rest with
      | nil =>
          unfold averagePower
          rw [shape]
          exact ⟨front.p.value, rfl, front.p.nonneg⟩
      | cons second rest =>
          have nonempty : front :: second :: rest ≠ [] := List.cons_ne_nil _ _
          have last := List.getLast?_eq_some_getLast nonempty
          rw [shape] at spans summed
          obtain ⟨elapsed, returned⟩ := Timestamp.elapsedSince_returns_iff.mpr
            (spans front rfl _ last)
          have seconds : 0 ≤ elapsed.secondsF := div_nonneg (Int.cast_nonneg elapsed.nonneg)
            (by norm_num)
          refine ⟨_, (averagePower_eq shape last summed nonneg returned).2, ?_⟩
          split
          · exact Watts.nonneg _
          · exact div_nonneg nonneg seconds

/-- An average is only taken over a window that spans no more than a `Duration`. -/
theorem spans_of_averagePower {average : ℚ} (returned : w.averagePower = .ok average) :
    w.Spans := by
  unfold averagePower at returned
  have returned := noexcept_eq_ok.mp returned
  unfold Spans
  cases shape : w.samples with
  | nil => exact fun _ member => nomatch member
  | cons front rest =>
      rintro _ ⟨⟩ back last
      cases rest with
      | nil =>
          obtain rfl : front = back := by simpa using last
          unfold Timestamp.ElapsedFits
          rw [sub_self]
          decide
      | cons second rest =>
          rw [shape] at returned
          have last : (front :: second :: rest).getLast? = some back := last
          rw [last] at returned
          obtain ⟨_, _, returned⟩ := bind_eq_ok.mp returned
          obtain ⟨_, _, returned⟩ := bind_eq_ok.mp returned
          obtain ⟨span, spanned, _⟩ := bind_eq_ok.mp returned
          unfold spanSeconds at spanned
          rw [shape, last] at spanned
          obtain ⟨elapsed, fits, _⟩ := bind_eq_ok.mp spanned
          exact Timestamp.elapsedSince_returns_iff.mp ⟨elapsed, fits⟩

end PowerWindow

end PowerGovernor
