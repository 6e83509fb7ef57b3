import PowerGovernor.Authority

/-!
The fence of the authority gate.

Owns `check` and `adopt`, the six generation domains they go through, and what holds along a
sequence of envelopes that are each checked and adopted when they are accepted.

Does not own the setters and the roll of the epoch, which the sequences here leave out.
-/

set_option autoImplicit false

namespace PowerGovernor

/-! ## The generation domains -/

inductive AuthorityDomain where
  | policy | budget | reservation | observation | decision | device
deriving DecidableEq, Repr

/-- The counter of a domain. -/
def AuthorityDomain.tag : AuthorityDomain → GenerationTag
  | .policy => .policy
  | .budget => .budget
  | .reservation => .reservation
  | .observation => .observation
  | .decision => .decision
  | .device => .device

namespace AuthorityEnvelope

def hasEpochBoot (e : AuthorityEnvelope) : Bool := e.epoch.isNull == false && e.boot.isValid

/-- The generation in the field of a domain, null where the message does not carry it. -/
def generation (e : AuthorityEnvelope) : (d : AuthorityDomain) → Generation d.tag
  | .policy => e.policy
  | .budget => e.budget
  | .reservation => e.reservation
  | .observation => e.observation
  | .decision => e.decision
  | .device => e.device

/-- The generation that the message carries in a domain. -/
def carried? (e : AuthorityEnvelope) (d : AuthorityDomain) : Option (Generation d.tag) :=
  if (e.generation d).isNull then none else some (e.generation d)

theorem carried?_eq_some {e : AuthorityEnvelope} {d : AuthorityDomain} {g : Generation d.tag} :
    e.carried? d = some g ↔ (e.generation d).isNull = false ∧ e.generation d = g := by
  unfold carried?
  cases (e.generation d).isNull <;> simp

end AuthorityEnvelope

namespace AuthorityGate

/-! ## Check and adopt -/

inductive Verdict where
  | accept | staleEpoch | staleBoot | stalePolicy | staleBudget | staleReservation
  | staleObservation | staleDecision | staleDevice | invalid
deriving DecidableEq, Repr

/-- `gen_stale`: a null field is simply not carried by the message. -/
def genStale {tag : GenerationTag} (msg current : Generation tag) : Bool :=
  if msg.isNull then false else decide (msg < current)

def check (gate : AuthorityGate) (e : AuthorityEnvelope) : Verdict :=
  if ¬ e.hasEpochBoot then .invalid
  else if e.epoch ≠ gate.epoch then .staleEpoch
  else if e.boot ≠ gate.boot then .staleBoot
  else if genStale e.policy gate.policy then .stalePolicy
  else if genStale e.budget gate.budget then .staleBudget
  else if genStale e.reservation gate.reservation then .staleReservation
  else if genStale e.observation gate.observation then .staleObservation
  else if genStale e.decision gate.decision then .staleDecision
  else if genStale e.device gate.device then .staleDevice
  else .accept

/-- One line of `adopt`. -/
def raised {tag : GenerationTag} (current msg : Generation tag) : Generation tag :=
  if msg.isNull = false ∧ current < msg then msg else current

def adopt (gate : AuthorityGate) (e : AuthorityEnvelope) : AuthorityGate where
  epoch := gate.epoch
  boot := gate.boot
  policy := raised gate.policy e.policy
  budget := raised gate.budget e.budget
  reservation := raised gate.reservation e.reservation
  observation := raised gate.observation e.observation
  decision := raised gate.decision e.decision
  device := raised gate.device e.device

/-- The high-water mark of a domain. -/
def mark (gate : AuthorityGate) : (d : AuthorityDomain) → Generation d.tag
  | .policy => gate.policy
  | .budget => gate.budget
  | .reservation => gate.reservation
  | .observation => gate.observation
  | .decision => gate.decision
  | .device => gate.device

/-! ## One message -/

section

variable {gate : AuthorityGate} {e : AuthorityEnvelope} {d : AuthorityDomain}
variable {tag : GenerationTag}

theorem genStale_eq_false {msg current : Generation tag} :
    genStale msg current = false ↔ (msg.isNull = false → current ≤ msg) := by
  unfold genStale
  cases msg.isNull with
  | true => simp
  | false => simp [Generation.not_lt]

theorem forall_domain {p : AuthorityDomain → Prop} :
    (∀ d, p d) ↔ p .policy ∧ p .budget ∧ p .reservation ∧ p .observation ∧ p .decision ∧
      p .device := by
  constructor
  · intro all
    exact ⟨all _, all _, all _, all _, all _, all _⟩
  · rintro ⟨policy, budget, reservation, observation, decision, device⟩ d
    cases d <;> assumption

/-- One line of `check`. -/
theorem refuse_eq_accept {refused : Prop} [Decidable refused] {verdict rest : Verdict}
    (refusal : verdict ≠ .accept) :
    (if refused then verdict else rest) = .accept ↔ ¬ refused ∧ rest = .accept := by
  split
  · rename_i holds
    exact ⟨fun same => absurd same refusal, fun both => absurd holds both.1⟩
  · rename_i fails
    exact ⟨fun same => ⟨fails, same⟩, And.right⟩

/-- An accepted message has the epoch and the boot of the gate and is in no domain older
than the mark. -/
theorem check_eq_accept : gate.check e = .accept ↔
    e.hasEpochBoot = true ∧ e.epoch = gate.epoch ∧ e.boot = gate.boot ∧
      ∀ d, (e.generation d).isNull = false → gate.mark d ≤ e.generation d := by
  have fresh : (∀ d, (e.generation d).isNull = false → gate.mark d ≤ e.generation d) ↔
      ∀ d, ¬ genStale (e.generation d) (gate.mark d) = true :=
    forall_congr' fun d => by rw [Bool.not_eq_true, genStale_eq_false]
  rw [fresh, forall_domain]
  unfold check
  rw [refuse_eq_accept, refuse_eq_accept, refuse_eq_accept, refuse_eq_accept, refuse_eq_accept,
    refuse_eq_accept, refuse_eq_accept, refuse_eq_accept, refuse_eq_accept, not_not, not_not,
    not_not, eq_self, and_true]
  · exact Iff.rfl
  all_goals exact Verdict.noConfusion

theorem mark_adopt : (gate.adopt e).mark d = raised (gate.mark d) (e.generation d) := by
  cases d <;> rfl

theorem le_raised (current msg : Generation tag) : current ≤ raised current msg := by
  unfold raised
  split
  · rename_i newer
    exact UInt64.le_of_lt newer.2
  · exact current.le_refl

/-- What a message carries is at most the mark it leaves. -/
theorem carried_le_raised {current msg : Generation tag} (carried : msg.isNull = false) :
    msg ≤ raised current msg := by
  unfold raised
  split
  · exact msg.le_refl
  · rename_i older
    exact Generation.not_lt.mp fun newer => older ⟨carried, newer⟩

end

/-! ## Sequences of messages -/

/-- Check a message and adopt it when it is accepted. -/
def process (gate : AuthorityGate) (e : AuthorityEnvelope) : AuthorityGate :=
  if gate.check e = .accept then gate.adopt e else gate

/-- The gate after a sequence of messages. -/
def processed (gate : AuthorityGate) (es : List AuthorityEnvelope) : AuthorityGate :=
  es.foldl process gate

/-- The messages of a sequence that are accepted, in order. -/
def accepted (gate : AuthorityGate) : List AuthorityEnvelope → List AuthorityEnvelope
  | [] => []
  | e :: es =>
    if gate.check e = .accept then e :: accepted (gate.process e) es
    else accepted (gate.process e) es

variable {gate : AuthorityGate} {e : AuthorityEnvelope} {es : List AuthorityEnvelope}

theorem process_stamp (gate : AuthorityGate) (e : AuthorityEnvelope) :
    (gate.process e).epoch = gate.epoch ∧ (gate.process e).boot = gate.boot := by
  unfold process
  split <;> exact ⟨rfl, rfl⟩

theorem mark_le_process (gate : AuthorityGate) (e : AuthorityEnvelope) (d : AuthorityDomain) :
    gate.mark d ≤ (gate.process e).mark d := by
  unfold process
  split
  · rw [mark_adopt]
    exact le_raised _ _
  · exact Generation.le_refl _

/-- No sequence lowers a mark. -/
theorem mark_le_processed (gate : AuthorityGate) (es : List AuthorityEnvelope)
    (d : AuthorityDomain) : gate.mark d ≤ (gate.processed es).mark d := by
  induction es generalizing gate with
  | nil => exact Generation.le_refl _
  | cons e es inductionHypothesis =>
      exact Generation.le_trans (mark_le_process gate e d) (inductionHypothesis (gate.process e))

theorem processed_append (gate : AuthorityGate) (before after : List AuthorityEnvelope) :
    gate.processed (before ++ after) = (gate.processed before).processed after :=
  List.foldl_append

/-- The mark a message leaves is at least what it carries. -/
theorem carried_le_process (accepts : gate.check e = .accept) {d : AuthorityDomain}
    {g : Generation d.tag} (carried : e.carried? d = some g) : g ≤ (gate.process e).mark d := by
  obtain ⟨present, rfl⟩ := AuthorityEnvelope.carried?_eq_some.mp carried
  unfold process
  rw [if_pos accepts, mark_adopt]
  exact carried_le_raised present

/-- Every message that is still accepted carries at least the mark. -/
theorem mark_le_of_mem_accepted (member : e ∈ gate.accepted es) {d : AuthorityDomain}
    {g : Generation d.tag} (carried : e.carried? d = some g) : gate.mark d ≤ g := by
  induction es generalizing gate with
  | nil => cases member
  | cons head es inductionHypothesis =>
      have later : e ∈ (gate.process head).accepted es → gate.mark d ≤ g := fun member =>
        Generation.le_trans (mark_le_process gate head d) (inductionHypothesis member)
      unfold accepted at member
      split at member
      · rename_i accepts
        rcases List.mem_cons.mp member with rfl | member
        · obtain ⟨present, rfl⟩ := AuthorityEnvelope.carried?_eq_some.mp carried
          exact (check_eq_accept.mp accepts).2.2.2 d present
        · exact later member
      · exact later member

theorem stamp_of_mem_accepted (member : e ∈ gate.accepted es) :
    e.epoch = gate.epoch ∧ e.boot = gate.boot := by
  induction es generalizing gate with
  | nil => cases member
  | cons head es inductionHypothesis =>
      have later : e ∈ (gate.process head).accepted es →
          e.epoch = gate.epoch ∧ e.boot = gate.boot := by
        intro member
        obtain ⟨epoch, boot⟩ := process_stamp gate head
        rw [← epoch, ← boot]
        exact inductionHypothesis member
      unfold accepted at member
      split at member
      · rename_i accepts
        rcases List.mem_cons.mp member with rfl | member
        · obtain ⟨_, epoch, boot, _⟩ := check_eq_accept.mp accepts
          exact ⟨epoch, boot⟩
        · exact later member
      · exact later member

/-- What the accepted messages carry in a domain never goes down. -/
theorem carried_sorted (gate : AuthorityGate) (es : List AuthorityEnvelope) (d : AuthorityDomain) :
    ((gate.accepted es).filterMap (·.carried? d)).Pairwise (· ≤ ·) := by
  induction es generalizing gate with
  | nil => exact .nil
  | cons e es inductionHypothesis =>
      unfold accepted
      split
      · rename_i accepts
        cases carried : e.carried? d with
        | none =>
            rw [List.filterMap_cons, carried]
            exact inductionHypothesis (gate.process e)
        | some g =>
            rw [List.filterMap_cons, carried]
            refine .cons ?_ (inductionHypothesis (gate.process e))
            intro later member
            obtain ⟨other, memberOther, carriedOther⟩ := List.mem_filterMap.mp member
            exact Generation.le_trans (carried_le_process accepts carried)
              (mark_le_of_mem_accepted memberOther carriedOther)
      · exact inductionHypothesis (gate.process e)

/-- A message that is older than one accepted before, whatever comes in between, is refused. -/
theorem check_ne_accept_of_older {earlier : AuthorityEnvelope}
    (accepts : gate.check earlier = .accept) (between : List AuthorityEnvelope)
    {d : AuthorityDomain} {g : Generation d.tag} (carried : e.carried? d = some g)
    (older : g < earlier.generation d) :
    (gate.processed (earlier :: between)).check e ≠ .accept := by
  intro laterAccepts
  obtain ⟨present, rfl⟩ := AuthorityEnvelope.carried?_eq_some.mp carried
  have atLeast := (check_eq_accept.mp laterAccepts).2.2.2 d present
  have raises : earlier.generation d ≤ (gate.process earlier).mark d := by
    -- An older generation is below it, so the earlier message carries it.
    have notNull : (earlier.generation d).isNull = false := by
      rw [Generation.isNull, beq_eq_false_iff_ne]
      intro null
      have below : (e.generation d).raw < (earlier.generation d).raw := older
      rw [null] at below
      exact UInt64.not_lt_zero below
    exact carried_le_process accepts (AuthorityEnvelope.carried?_eq_some.mpr ⟨notNull, rfl⟩)
  have kept := mark_le_processed (gate.process earlier) between d
  exact Generation.not_lt.mpr (Generation.le_trans raises (Generation.le_trans kept atLeast)) older

/-- Along every sequence of messages no mark goes down, what is accepted never goes down in
a domain, a message older than an accepted one is refused, and what is accepted has the epoch
and the boot of the gate. -/
theorem stale_message_never_enters (gate : AuthorityGate) (es : List AuthorityEnvelope) :
    (∀ before after, es = before ++ after → ∀ d,
      (gate.processed before).mark d ≤ (gate.processed es).mark d) ∧
    (∀ d, ((gate.accepted es).filterMap (·.carried? d)).Pairwise (· ≤ ·)) ∧
    (∀ before earlier between e after, es = before ++ earlier :: between ++ e :: after →
      (gate.processed before).check earlier = .accept →
      (∃ d g, e.carried? d = some g ∧ g < earlier.generation d) →
      (gate.processed (before ++ earlier :: between)).check e ≠ .accept) ∧
    ∀ e ∈ gate.accepted es, e.epoch = gate.epoch ∧ e.boot = gate.boot := by
  refine ⟨?_, gate.carried_sorted es, ?_, fun e => stamp_of_mem_accepted⟩
  · rintro before after rfl d
    rw [processed_append]
    exact mark_le_processed _ after d
  · rintro before earlier between e after _ accepts ⟨d, g, carried, older⟩
    rw [processed_append]
    exact check_ne_accept_of_older accepts between carried older

end AuthorityGate

end PowerGovernor
