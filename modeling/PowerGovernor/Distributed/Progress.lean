import PowerGovernor.Distributed.Sessions

/-!
Workers get their answers.

Owns how many steps of its own connection a waiting worker is away from its answer, what
every step does to that number, and the theorem that those steps bring the answer,
whatever happens in between, as long as the coordinator runs.
-/

set_option autoImplicit false

namespace PowerGovernor

/-- How many sections are left. -/
def Pending.sections : Pending → Nat
  | .plan _ => 2
  | _ => 1

namespace Link

variable {l l' : Link} {handler handler' : Option Connection} {s : Distributed} {conn : Nat}
  {a : Action}

/-- The worker waits for the answer to its registration or to a command. -/
def Waits (l : Link) : Prop := l.phase = .registering ∨ ∃ cmd, l.phase = .awaiting cmd

/-- How many steps of the connection are left until the worker has its answer. -/
def remaining (l : Link) (handler : Option Connection) : Nat :=
  if l.requests.waiting = [] then
    match handler.bind Connection.work with
    | some work => work.sections + 1
    | none => if l.replies.waiting = [] then 0 else 1
  else 4

theorem waits_of_phase {cmd : WorkerCommand} (phase : l.phase = .awaiting cmd) : l.Waits :=
  .inr ⟨cmd, phase⟩

theorem Waits.phase_ne (waits : l.Waits) : l.phase ≠ .stopped ∧ l.phase ≠ .ready := by
  rcases waits with phase | ⟨cmd, phase⟩ <;> simp [phase]

/-- A worker that waits has something under way. -/
theorem remaining_pos (stage : l.Stage handler) (waits : l.Waits) : 0 < l.remaining handler := by
  obtain ⟨running, busy⟩ := waits.phase_ne
  unfold remaining
  cases stage with
  | greeting phase framed requests replies | asked phase asked requests replies =>
      rw [if_neg (by simp [requests])]
      decide
  | welcoming phase requests replies =>
      rw [if_pos requests]
      exact Nat.succ_pos _
  | working phase asked worksOn requests replies =>
      rw [if_pos requests]
      exact Nat.succ_pos _
  | welcomed phase requests replies | answered phase requests replies =>
      rw [if_pos requests]
      dsimp only [Option.bind_some]
      rw [if_neg (by simp [replies])]
      decide
  | idle phase => rcases phase with phase | phase <;> contradiction
  | closed phase => contradiction

theorem sections_range (work : Pending) : 1 ≤ work.sections ∧ work.sections ≤ 2 := by
  cases work <;> simp [Pending.sections]

theorem remaining_of_drained (requests : l.requests.waiting = []) : l.remaining handler < 4 := by
  unfold remaining
  rw [if_pos requests]
  split
  · rename_i work _
    exact Nat.add_lt_add_right (Nat.lt_succ_of_le (sections_range work).2) 1
  · split <;> decide

/-- A handler that waits leaves the request or the reply. -/
theorem remaining_of_idle (idle : handler.bind Connection.work = none) :
    l.remaining handler = 4 ∨ l.remaining handler ≤ 1 := by
  unfold remaining
  rw [idle]
  split
  · refine .inr ?_
    dsimp only
    split <;> decide
  · exact .inl rfl

/-- One step is left only when there is a reply on the way. -/
theorem remaining_ne_one (nothing : l.replies.next = none) : l.remaining handler ≠ 1 := by
  unfold remaining
  split
  · split
    · rename_i work _
      exact Nat.ne_of_gt (Nat.lt_succ_of_le (sections_range work).1)
    · rw [if_pos (List.head?_eq_none_iff.mp nothing)]
      decide
  · decide

theorem remaining_le (l : Link) (handler : Option Connection) : l.remaining handler ≤ 4 := by
  by_cases requests : l.requests.waiting = []
  · exact Nat.le_of_lt (remaining_of_drained requests)
  · exact Nat.le_of_eq (if_neg requests)

/-- Nothing is heard twice or forgotten. -/
theorem received_of_moves (moved : s.Moves conn l a handler l' handler') :
    l.replies.received.length ≤ l'.replies.received.length := by
  have hears : ∀ closed, l.replies.received.length ≤ (l.hear closed).replies.received.length := by
    intro closed
    have taken : l.replies.received.length ≤ l.replies.take.received.length := by
      show _ ≤ (l.replies.received ++ _).length
      rw [List.length_append]
      exact Nat.le_add_right _ _
    obtain same | ⟨_, ended⟩ | ⟨_, _, _, heard⟩ | ⟨_, _, _, _, heard⟩ := l.hear_cases closed
    · rw [same]
    · rw [ended]
    · rw [heard]
      unfold register
      dsimp only
      repeat' split
      all_goals exact taken
    · rw [heard]
      exact taken
  cases moved with
  | hears => exact hears _
  | issues =>
      obtain same | ⟨_, _, _, _, _, _, asked⟩ | ⟨_, _, _, _, idle⟩ := l.issue_cases _
      · rw [same]
      · rw [asked]
      · rw [idle]
  | _ => exact Nat.le_refl _

/-- A worker that waits listens while the coordinator runs. -/
theorem Waits.hear (waits : l.Waits) :
    (l.replies.next = none ∧ l.hear false = l) ∨
      ∃ reply, l.replies.next = some reply ∧
        (l.hear false).replies.received = l.replies.received ++ [reply] := by
  have registers : ∀ (l : Link) answer, (l.register answer).replies = l.replies := by
    intro l answer
    unfold register
    dsimp only
    repeat' split
    all_goals rfl
  unfold Link.hear
  cases next : l.replies.next with
  | none =>
      refine .inl ⟨rfl, ?_⟩
      rcases waits with phase | ⟨cmd, phase⟩
      · rw [phase]
        rfl
      · rw [phase]
        rfl
  | some reply =>
      refine .inr ⟨reply, rfl, ?_⟩
      rcases waits with phase | ⟨cmd, phase⟩
      · rw [phase]
        dsimp only
        rw [registers]
        exact Fifo.received_take next
      · rw [phase]
        exact Fifo.received_take next

theorem remaining_of_next {f : Frame} (first : l.requests.next = some f) :
    l.remaining handler = 4 := by
  refine if_neg fun empty => ?_
  exact Fifo.next_ne_some_of_empty empty first

/-- While the handler works, nothing is on the way. -/
theorem remaining_of_work {reg : RegisterMsg} {work : Pending}
    (stage : l.Stage (some ⟨reg, some work⟩)) :
    l.requests.waiting = [] ∧ l.remaining (some ⟨reg, some work⟩) = work.sections + 1 := by
  cases stage with
  | welcoming phase requests replies => exact ⟨requests, if_pos requests⟩
  | working phase asked worksOn requests replies => exact ⟨requests, if_pos requests⟩

/-- The last section leaves at most the reply on the way. -/
theorem remaining_answered (requests : l.requests.waiting = []) (reply : Option Reply)
    (reg : RegisterMsg) : (l.answered reply).remaining (some ⟨reg, none⟩) ≤ 1 := by
  unfold remaining
  rw [if_pos (show (l.answered reply).requests.waiting = [] from requests)]
  dsimp only [Option.bind_some]
  split <;> decide

/-- No step puts a waiting worker further away from its answer, but for its end. -/
theorem remaining_of_moves (stage : l.Stage handler) (waits : l.Waits)
    (moved : s.Moves conn l a handler l' handler') (alive : a ≠ .kill conn)
    (running : s.coordinator.running = true) :
    l.replies.received.length < l'.replies.received.length ∨
      (l'.Waits ∧ l'.remaining handler' ≤ l.remaining handler) := by
  obtain ⟨notStopped, notReady⟩ := waits.phase_ne
  cases moved with
  | untouched => exact .inr ⟨waits, Nat.le_refl _⟩
  | issues =>
      have same : ∀ cmd, l.issue cmd = l := fun cmd => if_neg notReady
      rw [same]
      exact .inr ⟨waits, Nat.le_refl _⟩
  | hears =>
      rw [running]
      obtain ⟨_, same⟩ | ⟨reply, _, heard⟩ := waits.hear
      · refine .inr ?_
        change (l.hear false).Waits ∧ (l.hear false).remaining handler ≤ _
        rw [same]
        exact ⟨waits, Nat.le_refl _⟩
      · refine .inl ?_
        change _ < (l.hear false).replies.received.length
        rw [heard, List.length_append]
        exact Nat.lt_succ_self _
  | ends => exact absurd rfl alive
  | greets first running type decoded =>
      exact .inr ⟨waits, (remaining_of_next first).symm ▸ remaining_le _ _⟩
  | refuses first running other => exact (stage.not_refused first other).elim
  | answers first running replied =>
      exact .inr ⟨waits, (remaining_of_next first).symm ▸ remaining_le _ _⟩
  | accepts first running accepts =>
      exact .inr ⟨waits, (remaining_of_next first).symm ▸ remaining_le _ _⟩
  | @finishes reg work reply _ ran =>
      obtain ⟨requests, left⟩ := remaining_of_work stage
      rw [left]
      have last := remaining_answered requests (some reply) reg
      exact .inr ⟨waits, Nat.le_trans last (Nat.le_add_left 1 _)⟩
  | @proceeds reg rr planned _ ran =>
      obtain ⟨requests, left⟩ := remaining_of_work stage
      rw [left]
      refine .inr ⟨waits, ?_⟩
      unfold remaining
      rw [if_pos requests]
      exact Nat.le_succ 2
  | closes stopped drained idle => exact absurd stopped notStopped

end Link

namespace Distributed

variable {s : Distributed} {conn : Nat} {l : Link}

theorem running_of_after {a : Action} (running : (s.after a).coordinator.running = true) :
    s.coordinator.running = true := by
  by_contra ended
  cases enabled : s.event a with
  | none =>
      rw [coordinator_after none enabled] at running
      exact ended running
  | some event =>
      rw [coordinator_after (some event) enabled] at running
      refine ended ?_
      have frozen := (Coordinator.turn_of_stopped (Bool.eq_false_iff.mpr ended) event).1
      change (s.coordinator.after event).running = true at running
      rw [frozen] at running
      exact running

/-- The step of a connection that is due at a distance from the answer. -/
def duty (conn : Nat) : Nat → Action
  | 0 | 1 => .hear conn
  | 2 | 3 => .proceed conn
  | _ => .deliver conn

/-- A request on the way can be taken up. -/
theorem deliver_enabled (inStep : s.InStep) (found : s.links conn = some l) {f : Frame}
    (first : l.requests.next = some f) (running : s.coordinator.running = true) :
    s.event (.deliver conn) = some (s.arrival conn f) ∧ l.requests.waiting = [f] := by
  have stage := (inStep conn l found).1
  have only : l.requests.waiting = [f] ∧ ∀ c, s.coordinator.connections conn = some c →
      c.work = none := by
    generalize s.coordinator.connections conn = handler at stage ⊢
    cases stage with
    | greeting phase framed requests replies | asked phase asked requests replies =>
        obtain rfl := (Fifo.next_eq_some_of_singleton requests).mp first
        refine ⟨requests, ?_⟩
        rintro c ⟨⟩ <;> rfl
    | welcoming phase requests | welcomed phase requests | idle phase requests
    | answered phase requests | closed phase requests | working phase asked worksOn requests =>
        exact absurd first (Fifo.next_ne_some_of_empty requests)
  refine ⟨?_, only.1⟩
  have takes : s.coordinator.takesUp (s.arrival conn f) = some (conn, f) := by
    unfold arrival Coordinator.takesUp
    rw [if_pos running]
    cases handler : s.coordinator.connections conn with
    | none =>
        dsimp only
        rw [handler]
    | some c =>
        obtain ⟨reg, work⟩ := c
        obtain rfl : work = none := only.2 _ handler
        dsimp only
        rw [handler]
  unfold Distributed.event
  dsimp only
  rw [found, Option.bind_some, first, Option.bind_some, if_pos takes]

/-- A request on the way reaches the handler. -/
theorem remaining_deliver (inStep : s.InStep) (found : s.links conn = some l)
    (running : s.coordinator.running = true)
    (distance : l.remaining (s.coordinator.connections conn) = 4) :
    ∃ l', (s.after (.deliver conn)).links conn = some l' ∧
      l'.remaining ((s.after (.deliver conn)).coordinator.connections conn) < 4 := by
  have waits : l.requests.waiting ≠ [] := fun requests =>
    Nat.ne_of_lt (Link.remaining_of_drained requests) distance
  obtain ⟨f, rest, waiting⟩ := List.exists_cons_of_ne_nil waits
  have first : l.requests.next = some f := by
    rw [Fifo.next, waiting]
    rfl
  obtain ⟨enabled, only⟩ := deliver_enabled inStep found first running
  exact ⟨_, links_of_deliver found enabled,
    Link.remaining_of_drained (Fifo.waiting_take_of_singleton only)⟩

/-- A section is run. -/
theorem remaining_proceed (inStep : s.InStep) (found : s.links conn = some l)
    (running : (s.after (.proceed conn)).coordinator.running = true)
    (distance : l.remaining (s.coordinator.connections conn) = 2 ∨
      l.remaining (s.coordinator.connections conn) = 3) :
    ∃ l', (s.after (.proceed conn)).links conn = some l' ∧
      l'.remaining ((s.after (.proceed conn)).coordinator.connections conn) <
        l.remaining (s.coordinator.connections conn) := by
  have before := running_of_after running
  have stage := (inStep conn l found).1
  have links : (s.after (.proceed conn)).links conn =
      some (l.answered (s.coordinator.repliesTo (.proceed conn) conn)) := by
    show s.linkAfter _ conn = _
    unfold linkAfter
    rw [found]
    rfl
  refine ⟨_, links, ?_⟩
  have stepped : (s.after (.proceed conn)).coordinator = s.coordinator.take (.proceed conn) :=
    (coordinator_after (some _) rfl).trans (if_pos before)
  rw [stepped] at running ⊢
  generalize s.coordinator.repliesTo (.proceed conn) conn = reply
  have busy : (s.coordinator.connections conn).bind Connection.work ≠ none := by
    intro idle
    have far := @Link.remaining_of_idle l _ idle
    omega
  generalize handler : s.coordinator.connections conn = c at stage busy ⊢
  obtain _ | ⟨reg, _ | work⟩ := c
  · exact absurd rfl busy
  · exact absurd rfl busy
  · obtain ⟨requests, left⟩ := Link.remaining_of_work stage
    rw [left]
    unfold Coordinator.take at running ⊢
    dsimp only at running ⊢
    rw [handler] at running ⊢
    dsimp only at running ⊢
    rcases ran : work.run.exec s.coordinator.shared with ⟨fault | reply' | next, shared⟩
    · rw [ran] at running
      cases running
    · dsimp only
      rw [Coordinator.connections_setConnection]
      exact Nat.lt_of_le_of_lt (Link.remaining_answered requests reply reg)
        (Nat.lt_succ_of_le (Link.sections_range work).1)
    · obtain ⟨rr, planned, rfl, rfl⟩ := Pending.reserve_of_run (congrArg Prod.fst ran)
      dsimp only
      rw [Coordinator.connections_setConnection]
      unfold Link.remaining
      rw [if_pos (show (l.answered reply).requests.waiting = [] from requests)]
      exact Nat.lt_succ_self 2

/-- A reply on the way is heard. -/
theorem received_hear (found : s.links conn = some l) (waits : l.Waits)
    (running : s.coordinator.running = true)
    (distance : l.remaining (s.coordinator.connections conn) = 1) :
    ∃ l', (s.after (.hear conn)).links conn = some l' ∧
      l.replies.received.length < l'.replies.received.length := by
  have links : (s.after (.hear conn)).links conn = some (l.hear false) := by
    show s.linkAfter _ conn = _
    unfold linkAfter
    rw [found]
    dsimp only [touch]
    rw [if_pos rfl, running]
    rfl
  refine ⟨_, links, ?_⟩
  obtain ⟨nothing, _⟩ | ⟨reply, _, heard⟩ := waits.hear
  · exact absurd distance (Link.remaining_ne_one nothing)
  · rw [heard, List.length_append]
    exact Nat.lt_succ_self _

/-- The step that is due brings a waiting worker closer to its answer. -/
theorem closer_of_duty (inStep : s.InStep) (found : s.links conn = some l) (waits : l.Waits)
    {k : Nat} (distance : l.remaining (s.coordinator.connections conn) = k)
    (running : (s.after (duty conn k)).coordinator.running = true) :
    ∃ l', (s.after (duty conn k)).links conn = some l' ∧
      (l.replies.received.length < l'.replies.received.length ∨
        l'.remaining ((s.after (duty conn k)).coordinator.connections conn) < k) := by
  have before := running_of_after running
  have range := l.remaining_le (s.coordinator.connections conn)
  have positive := Link.remaining_pos (inStep conn l found).1 waits
  have cases : k = 1 ∨ (k = 2 ∨ k = 3) ∨ k = 4 := by omega
  rcases cases with rfl | (rfl | rfl) | rfl
  · obtain ⟨l', found', heard⟩ := received_hear found waits before distance
    exact ⟨l', found', .inl heard⟩
  · obtain ⟨l', found', closer⟩ := remaining_proceed inStep found running (.inl distance)
    rw [distance] at closer
    exact ⟨l', found', .inr closer⟩
  · obtain ⟨l', found', closer⟩ := remaining_proceed inStep found running (.inr distance)
    rw [distance] at closer
    exact ⟨l', found', .inr closer⟩
  · obtain ⟨l', found', closer⟩ := remaining_deliver inStep found before distance
    exact ⟨l', found', .inr closer⟩

/-- The steps that are due from a distance on. -/
def duties (conn : Nat) : Nat → List Action
  | 0 => []
  | k + 1 => duty conn (k + 1) :: duties conn k

/-- What was heard is not forgotten. -/
theorem received_le_along {actions : List Action} (found : s.links conn = some l) :
    ∃ l', (actions.foldl after s).links conn = some l' ∧
      l.replies.received.length ≤ l'.replies.received.length := by
  induction actions generalizing s l with
  | nil => exact ⟨l, found, Nat.le_refl _⟩
  | cons a rest inductionHypothesis =>
      obtain ⟨l', found', moved⟩ := moves found a
      obtain ⟨l'', found'', later⟩ := inductionHypothesis found'
      exact ⟨l'', found'', Nat.le_trans (Link.received_of_moves moved) later⟩

theorem running_along {actions : List Action}
    (running : (actions.foldl after s).coordinator.running = true) :
    s.coordinator.running = true := by
  induction actions generalizing s with
  | nil => exact running
  | cons a rest inductionHypothesis => exact running_of_after (inductionHypothesis running)

/-- A worker at a distance from its answer gets it when the steps that are due are among
those that happen. -/
theorem served_of_duties {actions : List Action} {k : Nat} (inStep : s.InStep)
    (found : s.links conn = some l) (waits : l.Waits)
    (near : l.remaining (s.coordinator.connections conn) ≤ k)
    (due : (duties conn k).Sublist actions) (alive : .kill conn ∉ actions)
    (running : (actions.foldl after s).coordinator.running = true) :
    ∃ l', (actions.foldl after s).links conn = some l' ∧
      l.replies.received.length < l'.replies.received.length := by
  induction actions generalizing s l k with
  | nil =>
      have positive := Link.remaining_pos (inStep conn l found).1 waits
      cases k with
      | zero => exact absurd near (Nat.not_le_of_lt positive)
      | succ k => cases due
  | cons a rest inductionHypothesis =>
      have runs := running_along (s := s.after a) running
      obtain ⟨l', found', moved⟩ := moves found a
      have notKill : a ≠ .kill conn := fun same => alive (same ▸ List.mem_cons_self)
      obtain heard | ⟨waits', kept⟩ := Link.remaining_of_moves (inStep conn l found).1 waits moved
        notKill (running_of_after runs)
      · obtain ⟨l'', found'', later⟩ := @received_le_along _ _ _ rest found'
        exact ⟨l'', found'', Nat.lt_of_lt_of_le heard later⟩
      have goOn : ∀ j, l'.remaining ((s.after a).coordinator.connections conn) ≤ j →
          (duties conn j).Sublist rest → ∃ l'', (rest.foldl after (s.after a)).links conn =
            some l'' ∧ l.replies.received.length < l''.replies.received.length := by
        intro j near' due'
        obtain ⟨l'', found'', later⟩ := inductionHypothesis (inStep_after inStep a) found' waits'
          near' due' (fun member => alive (List.mem_cons_of_mem _ member)) running
        exact ⟨l'', found'', Nat.lt_of_le_of_lt (Link.received_of_moves moved) later⟩
      cases k with
      | zero =>
          have positive := Link.remaining_pos (inStep conn l found).1 waits
          exact absurd near (Nat.not_le_of_lt positive)
      | succ k =>
          cases due with
          | cons _ due => exact goOn (k + 1) (Nat.le_trans kept near) due
          | cons_cons _ due =>
              by_cases last : l.remaining (s.coordinator.connections conn) = k + 1
              · obtain ⟨l₁, found₁, heard | closer⟩ := closer_of_duty inStep found waits last runs
                · obtain rfl := Option.some.inj (found'.symm.trans found₁)
                  obtain ⟨l'', found'', later⟩ := @received_le_along _ _ _ rest found'
                  exact ⟨l'', found'', Nat.lt_of_lt_of_le heard later⟩
                · obtain rfl := Option.some.inj (found'.symm.trans found₁)
                  exact goOn k (Nat.le_of_lt_succ closer) due
              · exact goOn k (Nat.le_trans kept (by omega)) due

/-- Every request is answered. In every run in which the coordinator is still up and the
worker has not been ended, four steps of the connection in this order, with anything in
between, bring a waiting worker the answer to its registration or to its command. -/
theorem waiting_worker_answered {Meets : Distributed → Action → Prop}
    (reached : (runs Meets).Reachable s) (found : s.links conn = some l) (waits : l.Waits)
    {actions : List Action}
    (due : [.deliver conn, .proceed conn, .proceed conn, .hear conn].Sublist actions)
    (alive : .kill conn ∉ actions)
    (running : (actions.foldl after s).coordinator.running = true) :
    ∃ l', (actions.foldl after s).links conn = some l' ∧
      l.replies.received.length < l'.replies.received.length :=
  served_of_duties (inStep_of_reachable reached) found waits (l.remaining_le _)
    (show (duties conn 4).Sublist actions from due) alive running


/-- A budget is installed while worker 1 waits for its reservation. -/
def answering : List Action :=
  [.deliver 1, .outside (.installBudget 1 0 100 100), .proceed 1, .hear 1, .proceed 1, .hear 1]

theorem waiting_worker_answered_asking : ∃ l l', (run asking).links 1 = some l ∧
    (answering.foldl after (run asking)).links 1 = some l' ∧
    l.replies.received.length < l'.replies.received.length := by
  have asked : ((run asking).links 1).map Link.phase = some (.awaiting (.reserve 1 5)) := by
    decide +kernel
  obtain ⟨l, found, phase⟩ := Option.map_eq_some_iff.mp asked
  have running : (answering.foldl after (run asking)).coordinator.running = true := by
    decide +kernel
  have due : [.deliver 1, .proceed 1, .proceed 1, .hear 1].Sublist answering :=
    .cons_cons _ (.cons _ (.cons_cons _ (.cons _ (.cons_cons _ (.cons_cons _ .slnil)))))
  have alive : .kill 1 ∉ answering := by simp [answering]
  obtain ⟨l', found', heard⟩ := waiting_worker_answered (run_reachable asking) found
    (Link.waits_of_phase phase) due alive running
  exact ⟨l, l', found, found', heard⟩

end Distributed

end PowerGovernor
