import PowerGovernor.Library.Fifo
import PowerGovernor.Library.Stateful
import PowerGovernor.Protocol.Transport

/-!
Frames from one end of a connection to the other.

Owns sending, the pipe that the two ends share, and the theorem that a pipe delivers
the frames in order: whatever the pieces in which bytes are written and read, a frame
is received if and only if it is the next one that was sent whole.
-/

set_option autoImplicit false

namespace PowerGovernor

variable {σ : Type}

/-- A connection with both its ends. A call of `send` writes a positive number of the
bytes it is given behind the unread ones, from the first on, or signals an error. -/
structure Pipe (σ : Type) extends Transport σ where
  send : σ → Bytes → Option (Nat × σ)
  accepts : ∀ {s bytes sent s'}, send s bytes = some (sent, s') →
    0 < sent ∧ sent ≤ bytes.length ∧ unread s' = unread s ++ bytes.take sent

/-! ## Sending -/

/-- The loop of `sock_send_all` from an offset on. -/
def sockSendAllLoop (t : Pipe σ) (p : Bytes) (off : Nat) (s : σ) : Bool × σ :=
  if off < p.length then
    match _accepted : t.send s (p.drop off) with
    | none => (false, s)
    | some (sent, s') => sockSendAllLoop t p (off + sent) s'
  else (true, s)
termination_by p.length - off
decreasing_by
  have := (t.accepts ‹_›).1
  omega

def sockSendAll (t : Pipe σ) (s : σ) (p : Bytes) : Bool × σ := sockSendAllLoop t p 0 s

/-- A frame that is too large throws before anything is written. -/
def sendFrame (t : Pipe σ) (f : Frame) : Stateful Fault σ Bool := do
  let bytes ← Stateful.ofExcept (serializeFrame f)
  let (sent, s) := sockSendAll t (← get) bytes
  set s
  return sent

/-- The bytes of a frame. -/
def Frame.bytes (f : Frame) : Bytes := withChecksum (frameHeader f ++ f.payload)

/-- What the loop leaves in the pipe: all the bytes, or the first of them. -/
theorem unread_sockSendAllLoop (t : Pipe σ) (p : Bytes) (off : Nat) (s : σ)
    (within : off ≤ p.length) {start : Bytes} (before : t.unread s = start ++ p.take off) :
    ∃ k, t.unread (sockSendAllLoop t p off s).2 = start ++ p.take k ∧ k ≤ p.length ∧
      ((sockSendAllLoop t p off s).1 = true ↔ k = p.length) := by
  fun_induction sockSendAllLoop t p off s with
  | case1 off s short refused =>
      exact ⟨off, before, within, by simp [Nat.ne_of_lt short]⟩
  | case2 off s short sent s' accepted inductionHypothesis =>
      obtain ⟨_, bounded, after⟩ := t.accepts accepted
      rw [List.length_drop] at bounded
      refine inductionHypothesis (by omega) ?_
      rw [after, before, List.append_assoc, ← List.take_add]
  | case3 off s enough =>
      have whole : off = p.length := by omega
      exact ⟨off, before, within, by simp [whole]⟩

/-- A send writes the frame or, if it fails, less than the frame. -/
theorem exec_sendFrame (t : Pipe σ) (f : Frame) (s : σ) :
    (maxFrame < f.payload.length ∧ ∃ fault, (sendFrame t f).exec s = (.error fault, s)) ∨
      (f.payload.length ≤ maxFrame ∧ ∃ sent s' k, (sendFrame t f).exec s = (.ok sent, s') ∧
        t.unread s' = t.unread s ++ f.bytes.take k ∧ k ≤ f.bytes.length ∧
        (sent = true ↔ k = f.bytes.length)) := by
  by_cases large : maxFrame < f.payload.length
  · refine .inl ⟨large, .lengthError "pg wire: frame exceeds MAX_FRAME", ?_⟩
    have refused : serializeFrame f = .error (.lengthError "pg wire: frame exceeds MAX_FRAME") :=
      if_pos large
    unfold sendFrame
    rw [refused]
    rfl
  · have small := not_lt.mp large
    have written : serializeFrame f = .ok f.bytes := serializeFrame_eq_ok.mpr ⟨small, rfl⟩
    obtain ⟨k, after, bounded, whole⟩ := unread_sockSendAllLoop t f.bytes 0 s (Nat.zero_le _)
      (List.append_nil _).symm
    refine .inr ⟨small, _, _, k, ?_, after, bounded, whole⟩
    unfold sendFrame
    rw [written]
    rfl

/-! ## Streams that begin with a frame -/

theorem length_bytes (f : Frame) : f.bytes.length = headerSize + f.payload.length + trailerSize :=
  length_checkedFrame f

/-- No frame is a beginning of another one. -/
theorem bytes_append_inj {f g : Frame} (smallF : f.payload.length ≤ maxFrame)
    (smallG : g.payload.length ≤ maxFrame) {left right : Bytes}
    (same : f.bytes ++ left = g.bytes ++ right) : f = g ∧ left = right := by
  have decoded : ∀ {h : Frame} (rest : Bytes), h.payload.length ≤ maxFrame →
      deserializeFrame (h.bytes ++ rest) =
        .ok (h, headerSize + h.payload.length + trailerSize) := by
    intro h rest small
    exact deserializeFrame_eq_ok.mpr ⟨small, rfl, rest, rfl⟩
  have first := decoded left smallF
  rw [same, decoded right smallG] at first
  obtain ⟨rfl, _⟩ := Prod.mk.inj (Except.ok.inj first)
  exact ⟨rfl, List.append_cancel_left same⟩

/-- A frame that was cut short is not taken for one. -/
theorem recvFrame_of_torn (t : Transport σ) {s : σ} {f : Frame}
    (small : f.payload.length ≤ maxFrame) {k : Nat} (cut : k < f.bytes.length)
    (left : t.unread s = f.bytes.take k) : (recvFrame t s).1 = none := by
  by_contra received
  obtain ⟨g, found⟩ := Option.ne_none_iff_exists'.mp received
  obtain ⟨smallG, begins⟩ := recvFrame_eq_some.mp ⟨_, Prod.ext found rfl, rfl⟩
  have whole : f.bytes ++ [] = g.bytes ++ (t.unread (recvFrame t s).2 ++ f.bytes.drop k) := by
    rw [List.append_nil, ← List.append_assoc]
    calc f.bytes = f.bytes.take k ++ f.bytes.drop k := (List.take_append_drop k f.bytes).symm
      _ = _ := by rw [← left, begins]; rfl
  obtain ⟨rfl, rest⟩ := bytes_append_inj small smallG whole
  have cutAll : f.bytes.drop k = [] := (List.append_eq_nil_iff.mp rest.symm).2
  exact absurd (List.drop_eq_nil_iff.mp cutAll) (Nat.not_le.mpr cut)

/-! ## Conversations -/

/-- A step of one of the two ends. -/
inductive Transfer where
  | send (f : Frame)
  | receive

/-- A pipe in use, with the frames sent whole and the frames received. An end that
fails is not used again. -/
structure Conversation (σ : Type) where
  pipe : σ
  sent : List Frame
  received : List Frame
  sending : Bool
  receiving : Bool

namespace Conversation

def start (s : σ) : Conversation σ := ⟨s, [], [], true, true⟩

def after (t : Pipe σ) (c : Conversation σ) : Transfer → Conversation σ
  | .send f =>
    if c.sending then
      match (sendFrame t f).exec c.pipe with
      | (.ok true, s) => { c with pipe := s, sent := c.sent ++ [f] }
      | (_, s) => { c with pipe := s, sending := false }
    else c
  | .receive =>
    if c.receiving then
      match recvFrame t.toTransport c.pipe with
      | (some f, s) => { c with pipe := s, received := c.received ++ [f] }
      | (none, s) => { c with pipe := s, receiving := false }
    else c

/-- The bytes of frames one after another. -/
def stream (frames : List Frame) : Bytes := (frames.map Frame.bytes).flatten

/-- The rest of a send that failed. -/
def Torn (bytes : Bytes) : Prop :=
  ∃ (f : Frame) (k : Nat), f.payload.length ≤ maxFrame ∧ k < f.bytes.length ∧ bytes = f.bytes.take k

theorem torn_nil : Torn [] := by
  refine ⟨⟨.hello, []⟩, 0, Nat.zero_le _, ?_, rfl⟩
  rw [length_bytes]
  exact Nat.zero_lt_succ _

/-- The pipe stands for a queue of frames. -/
structure Refines (t : Pipe σ) (c : Conversation σ) (q : Fifo Frame) : Prop where
  sent : q.sent = c.sent
  received : q.received = c.received
  small : ∀ f ∈ c.sent, f.payload.length ≤ maxFrame
  unread : c.receiving = true → ∃ torn, t.unread c.pipe = stream q.waiting ++ torn ∧ Torn torn ∧
    (c.sending = true → torn = [])

variable {t : Pipe σ} {c : Conversation σ} {q : Fifo Frame}

/-- The receiver takes the oldest frame, or finds that there is none. -/
theorem Refines.recvFrame (refines : c.Refines t q) (receiving : c.receiving = true) :
    (recvFrame t.toTransport c.pipe).1 = q.next ∧
      ∀ f, q.next = some f → ∃ torn, t.unread (PowerGovernor.recvFrame t.toTransport c.pipe).2 =
        stream q.take.waiting ++ torn ∧ Torn torn ∧ (c.sending = true → torn = []) := by
  obtain ⟨torn, unread, isTorn, whole⟩ := refines.unread receiving
  cases first : q.next with
  | none =>
      have nothing : q.waiting = [] := List.head?_eq_none_iff.mp first
      obtain ⟨f, k, small, cut, rfl⟩ := isTorn
      rw [nothing] at unread
      refine ⟨recvFrame_of_torn t.toTransport small cut unread, ?_⟩
      intro f impossible
      cases impossible
  | some f =>
      have waiting := Fifo.waiting_take first
      have member : f ∈ c.sent := by
        rw [← refines.sent, q.conserved, waiting]
        exact List.mem_append_right _ List.mem_cons_self
      have begins : t.unread c.pipe = f.bytes ++ (stream q.take.waiting ++ torn) := by
        rw [unread, waiting, ← List.append_assoc]
        rfl
      obtain ⟨s, received, left⟩ := recvFrame_eq_some.mpr ⟨refines.small f member, begins⟩
      rw [received]
      refine ⟨rfl, ?_⟩
      rintro _ ⟨⟩
      exact ⟨torn, left, isTorn, whole⟩

/-- The queue after a step. -/
theorem Refines.after (refines : c.Refines t q) (transfer : Transfer) :
    ∃ q', (c.after t transfer).Refines t q' := by
  cases transfer with
  | send f =>
      unfold Conversation.after
      dsimp only
      split
      case isFalse closed => exact ⟨q, refines⟩
      case isTrue sending =>
        obtain ⟨_, fault, failed⟩ | ⟨small, sent, s, k, ran, left, bounded, whole⟩ :=
          exec_sendFrame t f c.pipe
        · rw [failed]
          refine ⟨q, refines.sent, refines.received, refines.small, fun receiving => ?_⟩
          obtain ⟨torn, unread, isTorn, _⟩ := refines.unread receiving
          exact ⟨torn, unread, isTorn, fun again => absurd again Bool.false_ne_true⟩
        · rw [ran]
          cases sent with
          | true =>
              refine ⟨q.put f, ?_, refines.received, ?_, fun receiving => ?_⟩
              · rw [Fifo.sent_put, refines.sent]
              · exact List.forall_mem_append.mpr
                  ⟨refines.small, List.forall_mem_singleton.mpr small⟩
              · obtain ⟨torn, unread, _, none⟩ := refines.unread receiving
                rw [none sending, List.append_nil] at unread
                refine ⟨[], ?_, torn_nil, fun _ => rfl⟩
                rw [left, unread, whole.mp rfl, List.take_length, Fifo.waiting_put]
                simp [stream]
          | false =>
              refine ⟨q, refines.sent, refines.received, refines.small, fun receiving => ?_⟩
              obtain ⟨torn, unread, _, none⟩ := refines.unread receiving
              rw [none sending, List.append_nil] at unread
              have cut : k < f.bytes.length := by
                refine Nat.lt_of_le_of_ne bounded fun all => ?_
                cases whole.mpr all
              exact ⟨f.bytes.take k, by rw [left, unread], ⟨f, k, small, cut, rfl⟩,
                fun again => absurd again Bool.false_ne_true⟩
  | receive =>
      unfold Conversation.after
      dsimp only
      split
      case isFalse closed => exact ⟨q, refines⟩
      case isTrue receiving =>
        obtain ⟨read, left⟩ := refines.recvFrame receiving
        generalize PowerGovernor.recvFrame t.toTransport c.pipe = ended at read left
        obtain ⟨result, s⟩ := ended
        cases result with
        | none =>
            exact ⟨q, refines.sent, refines.received, refines.small,
              fun again => absurd again Bool.false_ne_true⟩
        | some f =>
            refine ⟨q.take, refines.sent, ?_, refines.small, fun _ => left f read.symm⟩
            rw [Fifo.received_take read.symm, refines.received]

theorem refines_start {s : σ} (fresh : t.unread s = []) : (start s).Refines t .empty :=
  ⟨rfl, rfl, fun _ member => absurd member List.not_mem_nil,
    fun _ => ⟨[], fresh, torn_nil, fun _ => rfl⟩⟩

theorem refines_foldl (refines : c.Refines t q) (transfers : List Transfer) :
    ∃ q', (transfers.foldl (Conversation.after t) c).Refines t q' := by
  induction transfers generalizing c q with
  | nil => exact ⟨q, refines⟩
  | cons transfer rest inductionHypothesis =>
      obtain ⟨q', refines'⟩ := refines.after transfer
      exact inductionHypothesis refines'

/-- A pipe that takes one byte on each call. -/
def bytewisePipe : Pipe Bytes where
  toTransport := bytewise
  send stream bytes := bytes.head?.map fun byte => (1, stream ++ [byte])
  accepts := by
    intro stream bytes sent stream' accepted
    obtain ⟨byte, first, written⟩ := Option.map_eq_some_iff.mp accepted
    obtain ⟨rfl, rfl⟩ := Prod.mk.inj written
    obtain ⟨rest, rfl⟩ := List.head?_eq_some_iff.mp first
    exact ⟨Nat.one_pos, Nat.le_add_left 1 _, rfl⟩

/-- A greeting on its way, a byte a call. -/
def greeting : Conversation Bytes :=
  [Transfer.send ⟨.hello, []⟩].foldl (Conversation.after bytewisePipe) (start [])

end Conversation

end PowerGovernor
