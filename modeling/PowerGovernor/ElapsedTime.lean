import PowerGovernor.Freshness
import PowerGovernor.Governor.Audit
import PowerGovernor.PowerWindow

/-!
Elapsed time over all timestamps.

Owns the two ways `elapsed_since` ends without a duration, what its `noexcept` callers make
of them, and the pairs of timestamps for which the elapsed time is exact and every caller
returns. Timestamps come unchecked from the wire and from files, so every 64-bit value is
one.
-/

set_option autoImplicit false

namespace PowerGovernor

namespace Timestamp

variable {now a : Timestamp}

/-! ## How it fails -/

/-- A difference that is no `Duration` is rejected by its constructor. -/
theorem elapsedSince_of_too_long (tooLong : kMaxNs < now.ns - a.ns)
    (inRange : now.ns - a.ns < 9223372036854775808) :
    now.elapsedSince a = .error (.overflowError "pg::Duration overflow") := by
  have nonneg : ¬ now.ns - a.ns < 0 := by
    unfold kMaxNs at tooLong
    omega
  have later : a.ns < now.ns := by
    unfold kMaxNs at tooLong
    omega
  unfold elapsedSince
  rw [if_pos later, if_pos inRange]
  unfold Duration.construct
  rw [dif_neg nonneg, dif_pos tooLong]

/-- A difference that is no 64-bit integer overflows before the constructor sees it. -/
theorem elapsedSince_of_overflow (overflows : 9223372036854775808 ≤ now.ns - a.ns) :
    now.elapsedSince a = .error .undefined := by
  have later : a.ns < now.ns := by omega
  unfold elapsedSince
  rw [if_pos later, if_neg (not_lt.mpr overflows)]

end Timestamp

/-! ## The callers -/

/-- The classifier looks at the elapsed time of a source that was observed. -/
theorem FreshnessThresholds.classify_of_fits (t : FreshnessThresholds) {now observed : Timestamp}
    (fits : now.ElapsedFits observed) : ∃ state, t.classify now observed = .ok state := by
  obtain ⟨elapsed, returned⟩ := Timestamp.elapsedSince_returns_iff.mpr fits
  obtain ⟨age, aged⟩ : ∃ age, ageOf now observed = .ok age := by
    unfold ageOf
    split
    · exact ⟨Duration.zero, rfl⟩
    · exact ⟨elapsed, noexcept_eq_ok.mpr returned⟩
  unfold classify
  rw [aged]
  dsimp only [bind, Except.bind]
  split
  · exact ⟨.expired, rfl⟩
  · exact ⟨t.ageFromDuration age, rfl⟩

theorem Reservation.expired_of_fits {r : Reservation} {now : Timestamp}
    (fits : now.ElapsedFits r.created) : ∃ late, r.expired now = .ok late := by
  obtain ⟨elapsed, returned⟩ := Timestamp.elapsedSince_returns_iff.mpr fits
  unfold expired
  rw [returned]
  split
  · exact ⟨false, rfl⟩
  · exact ⟨decide (r.validity.ns < elapsed.ns), rfl⟩

theorem ReservationManager.auditLoop_of_fits {now : Timestamp} {reservations : List Reservation}
    (fits : ∀ r ∈ reservations, now.ElapsedFits r.created) :
    ∃ passed, auditLoop now reservations = .ok passed := by
  induction reservations with
  | nil => exact ⟨true, rfl⟩
  | cons r rest inductionHypothesis =>
      obtain ⟨near, others⟩ := List.forall_mem_cons.mp fits
      obtain ⟨age, returned⟩ := Timestamp.elapsedSince_returns_iff.mpr near
      unfold auditLoop
      rw [returned]
      dsimp only [bind, Except.bind]
      split
      · exact inductionHypothesis others
      split
      · exact inductionHypothesis others
      split
      · exact ⟨false, rfl⟩
      · exact inductionHypothesis others

/-- The average of two samples, in either order of their times. -/
theorem PowerWindow.averagePower_of_fits (capacity : Duration) (peak low high : Watts)
    {now a : Timestamp} (fits : now.ElapsedFits a) :
    ∃ average, averagePower ⟨capacity, [⟨a, low⟩, ⟨now, high⟩], peak⟩ = .ok average := by
  obtain ⟨elapsed, returned⟩ := Timestamp.elapsedSince_returns_iff.mpr fits
  let samples : List PowerSample := [⟨a, low⟩, ⟨now, high⟩]
  have summed : integrate samples =
      .ok (1 / 2 * (low.value + high.value) * elapsed.secondsF + 0) := by
    show (now.elapsedSince a >>= _) = _
    rw [returned]
    rfl
  have nonneg : 0 ≤ 1 / 2 * (low.value + high.value) * elapsed.secondsF + 0 := by
    have power : 0 ≤ low.value + high.value := add_nonneg low.nonneg high.nonneg
    have seconds : 0 ≤ elapsed.secondsF :=
      div_nonneg (Int.cast_nonneg elapsed.nonneg) (by norm_num)
    positivity
  let window : PowerWindow := ⟨capacity, samples, peak⟩
  have shape : window.samples = [⟨a, low⟩, ⟨now, high⟩] := rfl
  exact ⟨_, (averagePower_eq shape rfl summed nonneg returned).2⟩

/-! ## All timestamps -/

/-- The elapsed time from `a` to `now` is exact, and every `noexcept` caller that takes it
returns: the freshness of what was observed at `a`, the expiry and the audit of what was
created then, and the average over two samples at these times. -/
structure ElapsedTotal (now a : Timestamp) : Prop where
  exact : ∃ elapsed, now.elapsedSince a = .ok elapsed ∧ elapsed.ns = max 0 (now.ns - a.ns)
  classifies : ∀ t : FreshnessThresholds, ∃ state, t.classify now a = .ok state
  expires : ∀ r : Reservation, r.created = a → ∃ late, r.expired now = .ok late
  audits : ∀ rm : ReservationManager, (∀ r ∈ rm.map.entries, r.created = a) →
    ∃ passed, rm.auditNoLeaks now = .ok passed
  averages : ∀ (capacity : Duration) (peak low high : Watts),
    ∃ average, PowerWindow.averagePower ⟨capacity, [⟨a, low⟩, ⟨now, high⟩], peak⟩ = .ok average

/-- Elapsed time is total and exact for two timestamps exactly when the later is at most a
`Duration` after the earlier. -/
theorem elapsed_total_iff (now a : Timestamp) :
    ElapsedTotal now a ↔ now.ns - a.ns ≤ kMaxNs := by
  constructor
  · intro total
    obtain ⟨elapsed, returned, _⟩ := total.exact
    exact Timestamp.elapsedSince_returns_iff.mp ⟨elapsed, returned⟩
  · intro fits
    obtain ⟨elapsed, returned⟩ := Timestamp.elapsedSince_returns_iff.mpr fits
    refine ⟨⟨elapsed, returned, Timestamp.elapsedSince_eq_ok.mp returned⟩, ?_, ?_, ?_, ?_⟩
    · intro t
      exact t.classify_of_fits fits
    · rintro r rfl
      exact Reservation.expired_of_fits fits
    · intro rm created
      have near : ∀ r ∈ rm.map.entries, now.ElapsedFits r.created :=
        fun r member => (created r member).symm ▸ fits
      obtain ⟨passed, audited⟩ := ReservationManager.auditLoop_of_fits near
      exact ⟨passed, noexcept_eq_ok.mpr audited⟩
    · intro capacity peak low high
      exact PowerWindow.averagePower_of_fits capacity peak low high fits

/-- A time in the year 2116 and one just before the epoch: the elapsed time is rejected, and
the classifier, which may not throw, ends the process. From the last timestamp back to the
first the subtraction itself overflows. -/
theorem elapsed_not_total :
    let now : Timestamp := ⟨4611686018427387903, by decide, by decide⟩
    let a : Timestamp := ⟨-1, by decide, by decide⟩
    let first : Timestamp := ⟨-9223372036854775808, by decide, by decide⟩
    let last : Timestamp := ⟨9223372036854775807, by decide, by decide⟩
    let t : FreshnessThresholds := ⟨Duration.zero, Duration.zero, Duration.zero⟩
    now.elapsedSince a = .error (.overflowError "pg::Duration overflow") ∧
      t.classify now a = .error .terminate ∧ last.elapsedSince first = .error .undefined ∧
      ¬ ElapsedTotal now a := by
  intro now a first last t
  have rejected : now.elapsedSince a = .error (.overflowError "pg::Duration overflow") :=
    Timestamp.elapsedSince_of_too_long (by decide) (by decide)
  refine ⟨rejected, by decide +kernel, Timestamp.elapsedSince_of_overflow (by decide), ?_⟩
  intro total
  obtain ⟨elapsed, returned, _⟩ := total.exact
  cases rejected.symm.trans returned

end PowerGovernor
