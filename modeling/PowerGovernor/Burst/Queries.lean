import PowerGovernor.Burst.Calls
import PowerGovernor.Library.Transition

/-!
Queries between the calls of `consume`.

Owns the results of the `consume` calls in a sequence of calls, and the queries that change
none of them: those that find no window to start or to refill. The others move the window
of the budget, although the source declares them `const`.
-/

set_option autoImplicit false

namespace PowerGovernor

namespace BurstBudget

variable {b : BurstBudget} {call : BurstCall}

/-- The budget after a call. -/
def next (b : BurstBudget) (call : BurstCall) : BurstBudget := (call.perform.exec b).2

/-- The results of the `consume` calls of a sequence, in order. -/
def consumeResults : BurstBudget → List BurstCall → List (Except Fault (Option Bool))
  | _, [] => []
  | b, call :: rest =>
    if call.isConsume then (call.perform.exec b).1 :: (b.next call).consumeResults rest
    else (b.next call).consumeResults rest

/-- A query that reaches the refill finds a window that is settled. -/
def SettledFor (b : BurstBudget) (call : BurstCall) : Prop :=
  call.isConsume = false → b.Looks call → b.Settled call.now

theorem next_of_settled (query : call.isConsume = false) (settled : b.SettledFor call) :
    b.next call = b := by
  by_cases looks : b.Looks call
  · rw [next, query_of_looks query looks, refillIfNeeded_of_settled (settled query looks)]
  · exact query_of_not_looks looks query

/-- Queries that find the window settled change the result of no `consume`. -/
theorem consumeResults_of_settled {calls : List BurstCall}
    (settled : Along next SettledFor b calls) :
    b.consumeResults calls = b.consumeResults (calls.filter BurstCall.isConsume) := by
  induction calls generalizing b with
  | nil => rfl
  | cons call rest inductionHypothesis =>
      obtain ⟨first, others⟩ := settled
      cases query : call.isConsume with
      | true =>
          rw [List.filter_cons_of_pos query, consumeResults, consumeResults, if_pos query,
            if_pos query, inductionHypothesis others]
      | false =>
          rw [List.filter_cons_of_neg (by simp [query]), consumeResults,
            if_neg (by simp [query])]
          rw [next_of_settled query first] at others ⊢
          exact inductionHypothesis others

/-- A disabled budget looks at no window. -/
theorem along_of_disabled (disabled : b.limits.enabled = false) (calls : List BurstCall) :
    Along next SettledFor b calls := by
  refine Along.of_invariant (fun b => b.limits.enabled = false) ?_ disabled (along_true b calls)
  intro b call disabled _
  refine ⟨fun _ looks => ?_, ?_⟩
  · cases call <;> simp [Looks, disabled] at looks
  · rw [next, perform_of_disabled disabled]
    exact disabled

/-- 2^62 nanoseconds, one more than a `Duration` holds. -/
def tooLate : Timestamp := ⟨kMaxNs + 1, by decide, by decide⟩

/-- A `consume` that starts the window does not fail. -/
theorem consume_of_fresh (enabled : b.limits.enabled = true) (fresh : b.started = false)
    (j : Joules) (now : Timestamp) : (consume j now).Returns b := by
  have first : (refillIfNeeded now).exec b = _ := refillIfNeeded_of_fresh fresh
  obtain ⟨b', again⟩ := refillIfNeeded_of_start rfl
  rw [Stateful.Returns, exec_consume_of_refilled enabled j first again]
  split
  · exact ⟨true, rfl⟩
  · exact ⟨false, rfl⟩

/-- A query at the epoch starts the window, and a `consume` that would have started it
then throws. -/
theorem consumeResults_after_query {limits : BurstLimits} (enabled : limits.enabled = true) :
    (construct limits).consumeResults
        [.available Timestamp.zero, .consume Joules.zero tooLate] ≠
      (construct limits).consumeResults [.consume Joules.zero tooLate] := by
  let running : BurstBudget := { construct limits with started := true }
  have started : (construct limits).next (.available Timestamp.zero) = running := by
    have looks : (construct limits).Looks (.available Timestamp.zero) := enabled
    rw [next, query_of_looks rfl looks]
    exact congrArg Prod.snd (refillIfNeeded_of_fresh rfl)
  have late : ¬ tooLate.ElapsedFits Timestamp.zero := by decide
  obtain ⟨fault, overflows⟩ := Timestamp.elapsedSince_faults late
  have failed : (refillIfNeeded tooLate).exec running = (.error fault, running) :=
    refillIfNeeded_of_overflow rfl overflows
  have thrown : ((BurstCall.consume Joules.zero tooLate).perform.exec running).1 =
      .error fault := by
    rw [perform_consume, exec_consume_of_failed enabled failed]
    rfl
  obtain ⟨accepted, returned⟩ := consume_of_fresh (b := construct limits) enabled rfl
    Joules.zero tooLate
  have answered : ((BurstCall.consume Joules.zero tooLate).perform.exec
      (construct limits)).1 = .ok (some accepted) := by
    rw [perform_consume, returned]
    rfl
  intro same
  simp only [consumeResults, BurstCall.isConsume, if_true, Bool.false_eq_true, if_false, started,
    thrown, answered] at same
  cases List.head_eq_of_cons_eq same

/-- No insertion of queries into time-ordered calls changes the result of a `consume`. -/
def QueriesPure (b : BurstBudget) : Prop :=
  ∀ calls : List BurstCall, Timestamp.Ordered (calls.map BurstCall.now) →
    b.consumeResults calls = b.consumeResults (calls.filter BurstCall.isConsume)

/-- Over every run, queries that find no window to start or to refill change the result of no
`consume`. The queries of a fresh budget are pure exactly when it is disabled. -/
theorem queries_change_no_result (b : BurstBudget) :
    (∀ calls : List BurstCall, Along next SettledFor b calls →
      b.consumeResults calls = b.consumeResults (calls.filter BurstCall.isConsume)) ∧
    (b = construct b.limits → (b.QueriesPure ↔ b.limits.enabled = false)) := by
  refine ⟨fun calls => consumeResults_of_settled, fun fresh => ⟨fun always => ?_, ?_⟩⟩
  · rw [← Bool.not_eq_true]
    intro enabled
    rw [fresh] at always
    exact consumeResults_after_query enabled (always _ (by decide))
  · intro disabled calls _
    exact consumeResults_of_settled (along_of_disabled disabled calls)

/-- A budget whose window starts at the epoch. -/
def running : BurstBudget := { construct .standard with started := true }

/-- After half a second the window is settled, and a fresh budget that is disabled has pure
queries. -/
theorem queries_change_no_result_running :
    running.consumeResults [.available .halfSecond, .consume ⟨50, by decide +kernel⟩ .fullSecond] =
      running.consumeResults [.consume ⟨50, by decide +kernel⟩ .fullSecond] ∧
    (construct .blank).QueriesPure := by
  constructor
  · refine (queries_change_no_result running).1 _ ⟨fun _ _ => ⟨rfl, fun elapsed returned => ?_⟩,
      nofun, trivial⟩
    rw [Timestamp.elapsedSince_eq_ok.mp returned]
    decide
  · exact ((queries_change_no_result (construct .blank)).2 rfl).mpr rfl

/-- A query at the epoch moves the window: with it the second 50 J are accepted after half a
second, and without it they are refused. -/
theorem query_moves_window :
    (construct .standard).consumeResults [.available Timestamp.zero,
        .consume ⟨50, by decide +kernel⟩ .halfSecond,
        .consume ⟨50, by decide +kernel⟩ .fullSecond] =
      [.ok (some true), .ok (some true)] ∧
    (construct .standard).consumeResults [
        .consume ⟨50, by decide +kernel⟩ .halfSecond,
        .consume ⟨50, by decide +kernel⟩ .fullSecond] =
      [.ok (some true), .ok (some false)] := by
  decide +kernel

end BurstBudget

end PowerGovernor
