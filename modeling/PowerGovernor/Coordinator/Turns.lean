import PowerGovernor.Coordinator.Calls

/-!
One connection of the coordinator.

Owns the replies that a step sends on a connection, what a step can do to the handler
of a connection, and what a reply has to do with the frame it answers.
-/

set_option autoImplicit false

namespace PowerGovernor

/-- The connection whose handler takes a step in an event. -/
def Event.conn? : Event → Option Nat
  | .connect conn _ | .frame conn _ | .proceed conn | .disconnect conn => some conn
  | .installBudget _ _ _ _ | .setPolicy _ | .rollEpoch => none

namespace Coordinator

/-- The reply that an event sends on a connection. -/
def repliesTo (s : Coordinator) (event : Event) (conn : Nat) : Option Reply :=
  (s.sends event).bind fun sent => if sent.1 = conn then some sent.2 else none

variable {s : Coordinator} {event : Event} {conn : Nat}

theorem delivered (conn : Nat) (reply : Reply) :
    ((some (conn, reply)).bind fun sent => if sent.1 = conn then some sent.2 else none) =
      some reply := if_pos rfl

theorem connections_setConnection (s : Coordinator) (conn : Nat) (c : Option Connection) :
    (s.setConnection conn c).connections conn = c := Function.update_self ..

/-- What an event does to a connection: its handler before and after the event, and the
reply that is sent. A frame is taken up in the four cases in the middle. -/
inductive Turn (s : Coordinator) (conn : Nat) :
    Event → Option Connection → Option Connection → Option Reply → Prop where
  | rests {event : Event} {handler : Option Connection}
      (quiet : ∀ m, s.takesUp event ≠ some (conn, m)) : Turn s conn event handler handler none
  | closes {c : Connection} (idle : c.work = none) :
      Turn s conn (.disconnect conn) (some c) none none
  | refuses {first : Frame} {reply : Reply} (taken : s.takesUp (.connect conn first) =
        some (conn, first)) (other : first.type ≠ .register ∨ decodeRegister first = none) :
      Turn s conn (.connect conn first) none none (some reply)
  | greets {first : Frame} {reg : RegisterMsg} (taken : s.takesUp (.connect conn first) =
        some (conn, first)) (type : first.type = .register)
      (decoded : decodeRegister first = some reg) :
      Turn s conn (.connect conn first) none (some ⟨reg, some (.welcome reg.worker)⟩) none
  | answers {m : Frame} {reg : RegisterMsg} {reply : Reply}
      (taken : s.takesUp (.frame conn m) = some (conn, m))
      (replied : (s.shared.receive m).1 = .replied reply) :
      Turn s conn (.frame conn m) (some ⟨reg, none⟩) (some ⟨reg, none⟩) (some reply)
  | accepts {m : Frame} {reg : RegisterMsg} {next : Pending}
      (taken : s.takesUp (.frame conn m) = some (conn, m)) (accepts : s.shared.Accepts m next) :
      Turn s conn (.frame conn m) (some ⟨reg, none⟩) (some ⟨reg, some next⟩) none
  | finishes {reg : RegisterMsg} {work : Pending} {reply : Reply} (running : s.running = true)
      (ran : (work.run.exec s.shared).1 = .ok (.replied reply)) :
      Turn s conn (.proceed conn) (some ⟨reg, some work⟩) (some ⟨reg, none⟩) (some reply)
  | proceeds {reg : RegisterMsg} {rr : ReserveMsg} {planned : ReservationId}
      (running : s.running = true)
      (ran : ((Pending.plan rr).run.exec s.shared).1 = .ok (.pending (.reserve rr planned))) :
      Turn s conn (.proceed conn) (some ⟨reg, some (.plan rr)⟩)
        (some ⟨reg, some (.reserve rr planned)⟩) none

/-- An event of another connection or of the control loop. -/
theorem turn_of_other (other : event.conn? ≠ some conn) :
    (s.after event).connections conn = s.connections conn ∧ s.repliesTo event conn = none ∧
      ∀ m, s.takesUp event ≠ some (conn, m) := by
  have away : ∀ {written : Nat} {c : Option Connection}, some written ≠ some conn →
      Function.update s.connections written c conn = s.connections conn := by
    intro written c different
    exact Function.update_of_ne (fun same => different (congrArg some same.symm)) ..
  refine ⟨?_, ?_, ?_⟩
  · unfold after
    split
    case isFalse stopped => rfl
    case isTrue running =>
      unfold take
      cases event with
      | connect written first =>
          dsimp only
          repeat' split
          all_goals first | rfl | exact away other
      | frame written m =>
          dsimp only
          split
          · exact away other
          · rfl
      | proceed written =>
          dsimp only
          split
          · split
            · rfl
            · exact away other
          · rfl
      | disconnect written =>
          dsimp only
          split
          · exact away other
          · rfl
      | installBudget id parent hmax soft => rfl
      | setPolicy cap => rfl
      | rollEpoch => rfl
  · unfold repliesTo
    cases sent : s.sends event with
    | none => rfl
    | some p =>
        refine if_neg fun here => other ?_
        have found := sent
        unfold sends at found
        split at found
        case isFalse stopped => cases found
        case isTrue running =>
          cases event with
          | connect written first =>
              dsimp only at found
              split at found
              · cases found
              · split at found
                · cases found
                  exact congrArg some here
                · split at found
                  · cases found
                    exact congrArg some here
                  · cases found
          | frame written m =>
              obtain ⟨_, rfl, _⟩ := sends_frame_iff.mp sent
              exact congrArg some here
          | proceed written =>
              obtain ⟨_, rfl, _⟩ := sends_proceed_iff.mp sent
              exact congrArg some here
          | disconnect written => cases found
          | installBudget id parent hmax soft => cases found
          | setPolicy cap => cases found
          | rollEpoch => cases found
  · intro m taken
    unfold takesUp at taken
    split at taken
    case isFalse stopped => cases taken
    case isTrue running =>
      split at taken
      · split at taken
        · obtain ⟨rfl, _⟩ := Prod.mk.inj (Option.some.inj taken)
          exact other rfl
        · cases taken
      · split at taken
        · obtain ⟨rfl, _⟩ := Prod.mk.inj (Option.some.inj taken)
          exact other rfl
        · cases taken
      · cases taken

/-- A process that has ended takes no step. -/
theorem turn_of_stopped (stopped : s.running = false) (event : Event) :
    s.after event = s ∧ s.sends event = none ∧ s.takesUp event = none := by
  have halted : ¬ s.running = true := by simp [stopped]
  unfold after sends takesUp
  rw [if_neg halted, if_neg halted, if_neg halted]
  exact ⟨rfl, rfl, rfl⟩

theorem turn_connect (running : s.running = true) (conn : Nat) (first : Frame) :
    Turn s conn (.connect conn first) (s.connections conn)
      ((s.take (.connect conn first)).connections conn)
      (s.repliesTo (.connect conn first) conn) := by
  unfold repliesTo sends take
  rw [if_pos running]
  dsimp only
  rcases found : s.connections conn with _ | c
  · have taken : s.takesUp (.connect conn first) = some (conn, first) := by
      unfold takesUp
      rw [if_pos running]
      dsimp only
      rw [found]
    dsimp only
    by_cases type : first.type = .register
    · rw [if_neg (not_not.mpr type), if_neg (not_not.mpr type)]
      rcases decoded : decodeRegister first with _ | reg
      · dsimp only
        rw [found, delivered]
        exact .refuses taken (.inr decoded)
      · dsimp only
        rw [connections_setConnection]
        exact .greets taken type decoded
    · rw [if_pos type, if_pos type, found, delivered]
      exact .refuses taken (.inl type)
  · have taken : s.takesUp (.connect conn first) = none := by
      unfold takesUp
      rw [if_pos running]
      dsimp only
      rw [found]
    dsimp only
    rw [found]
    refine .rests fun m taken' => ?_
    rw [taken] at taken'
    cases taken'

theorem turn_frame (running : s.running = true) (conn : Nat) (m : Frame) :
    Turn s conn (.frame conn m) (s.connections conn)
      ((s.take (.frame conn m)).connections conn) (s.repliesTo (.frame conn m) conn) := by
  have quiet : ¬ s.Idle conn → ∀ m', s.takesUp (.frame conn m) ≠ some (conn, m') := by
    intro busy m' taken
    unfold takesUp at taken
    rw [if_pos running] at taken
    dsimp only at taken
    split at taken
    · rename_i reg idle
      exact busy ⟨running, reg, idle⟩
    · cases taken
  have busy : ∀ {c : Option Connection}, s.connections conn = c → (∀ reg, c ≠ some ⟨reg, none⟩) →
      ¬ s.Idle conn := by
    rintro c found other ⟨_, reg, idle⟩
    exact other reg (found.symm.trans idle)
  unfold repliesTo sends take
  rw [if_pos running]
  dsimp only
  rcases found : s.connections conn with _ | ⟨reg, _ | work⟩
  · dsimp only
    rw [found]
    exact .rests (quiet (busy found (by simp)))
  · dsimp only
    rw [connections_setConnection]
    have taken := takesUp_frame (m := m) ⟨running, reg, found⟩
    rcases left : (s.shared.receive m).1 with reply | next
    · dsimp only
      rw [delivered]
      exact .answers taken left
    · exact .accepts taken (CoordShared.receive_eq_pending.mp left)
  · dsimp only
    rw [found]
    exact .rests (quiet (busy found (by simp)))

theorem turn_proceed (running : s.running = true) (conn : Nat) :
    Turn s conn (.proceed conn) (s.connections conn)
      ((s.take (.proceed conn)).connections conn) (s.repliesTo (.proceed conn) conn) := by
  have quiet : ∀ m, s.takesUp (.proceed conn) ≠ some (conn, m) := by
    intro m taken
    unfold takesUp at taken
    rw [if_pos running] at taken
    cases taken
  unfold repliesTo sends take
  rw [if_pos running]
  dsimp only
  rcases found : s.connections conn with _ | ⟨reg, _ | work⟩
  · dsimp only
    rw [found]
    exact .rests quiet
  · dsimp only
    rw [found]
    exact .rests quiet
  · dsimp only
    rcases ran : work.run.exec s.shared with ⟨fault | reply | next, shared⟩
    · dsimp only
      rw [found]
      exact .rests quiet
    · dsimp only
      rw [connections_setConnection, delivered]
      exact .finishes running (congrArg Prod.fst ran)
    · dsimp only
      rw [connections_setConnection]
      obtain ⟨rr, planned, rfl, rfl⟩ := Pending.reserve_of_run (congrArg Prod.fst ran)
      exact .proceeds running (congrArg Prod.fst ran)

theorem turn_disconnect (running : s.running = true) (conn : Nat) :
    Turn s conn (.disconnect conn) (s.connections conn)
      ((s.take (.disconnect conn)).connections conn) (s.repliesTo (.disconnect conn) conn) := by
  have quiet : ∀ m, s.takesUp (.disconnect conn) ≠ some (conn, m) := by
    intro m taken
    unfold takesUp at taken
    rw [if_pos running] at taken
    cases taken
  unfold repliesTo sends take
  rw [if_pos running]
  dsimp only
  rcases found : s.connections conn with _ | ⟨reg, _ | work⟩
  · dsimp only
    rw [found]
    exact .rests quiet
  · dsimp only
    rw [connections_setConnection]
    exact .closes rfl
  · dsimp only
    rw [found]
    exact .rests quiet

/-- Every event is a turn at every connection. -/
theorem turn (s : Coordinator) (event : Event) (conn : Nat) :
    Turn s conn event (s.connections conn) ((s.after event).connections conn)
      (s.repliesTo event conn) := by
  by_cases other : event.conn? ≠ some conn
  · obtain ⟨connections, reply, quiet⟩ := turn_of_other (s := s) other
    rw [connections, reply]
    exact .rests quiet
  have here := not_not.mp other
  cases running : s.running with
  | false =>
      obtain ⟨frozen, silent, quiet⟩ := turn_of_stopped running event
      have noReply : s.repliesTo event conn = none := by
        unfold repliesTo
        rw [silent]
        rfl
      rw [frozen, noReply]
      exact .rests fun m taken => by rw [quiet] at taken; cases taken
  | true =>
      have step : s.after event = s.take event := if_pos running
      rw [step]
      cases event with
      | connect written first =>
          obtain rfl := Option.some.inj here
          exact turn_connect running written first
      | frame written m =>
          obtain rfl := Option.some.inj here
          exact turn_frame running written m
      | proceed written =>
          obtain rfl := Option.some.inj here
          exact turn_proceed running written
      | disconnect written =>
          obtain rfl := Option.some.inj here
          exact turn_disconnect running written
      | installBudget id parent hmax soft => cases here
      | setPolicy cap => cases here
      | rollEpoch => cases here

end Coordinator

end PowerGovernor
