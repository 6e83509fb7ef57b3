import Mathlib.Data.List.TakeWhile
import PowerGovernor.Coordinator.Calls
import PowerGovernor.Decision.Document
import PowerGovernor.Json.ReadBack
import PowerGovernor.Persistence.Digest
import PowerGovernor.Protocol.Layouts

/-!
The worker process.

Owns the commands of a worker with the frames they send and the lines they print, the
registration, the frames of the coordinator's replies, and what a worker reads from
them.

Does not own the text of a command.
-/

set_option autoImplicit false

namespace PowerGovernor

/-- A frame that carries the encoding of a message. -/
def Message.frame (type : MsgType) (m : Message) : Except Fault Frame := do
  return ⟨type, ← m.encode⟩

theorem Message.frame_eq_ok {type : MsgType} {m : Message} {f : Frame} :
    m.frame type = .ok f ↔ f.type = type ∧ m.encode = .ok f.payload := by
  obtain ⟨type', payload⟩ := f
  unfold frame
  cases m.encode with
  | error fault =>
      constructor
      · intro same
        cases same
      · rintro ⟨_, same⟩
        cases same
  | ok bytes =>
      constructor
      · rintro ⟨⟩
        exact ⟨rfl, rfl⟩
      · rintro ⟨rfl, ⟨⟩⟩
        rfl

/-- A message is read from its frame. -/
theorem Message.decode_frame {type : MsgType} {m : Message} {f : Frame}
    (framed : m.frame type = .ok f) (checked : m.Checked) : m.kind.decode f = some m := by
  have encoded := (frame_eq_ok.mp framed).2
  exact decode_eq_some.mpr ⟨rfl, checked, m.layout_le (encode_eq_ok.mp encoded)⟩

/-! ## Replies on the wire -/

def ReplyText.bytes : ReplyText → Except Fault Bytes
  | .text message => .ok (ascii message)
  | .decision dec => .ok (ascii dec.verdict.name ++ 32 :: dec.digest)
  | .stateDigest gov => gov.stateDigest

/-- The message of `send_ack` and `send_error`. -/
def Reply.ack (reply : Reply) : Except Fault AckMsg := do
  return ⟨reply.messageId, reply.ok, ← reply.message.bytes⟩

def Reply.frame (reply : Reply) : Except Fault Frame := do
  Message.frame reply.type (.ack (← reply.ack))

/-- The reader of a reply gets what was sent. -/
theorem Reply.decodeAck_frame {reply : Reply} {f : Frame} (framed : reply.frame = .ok f) :
    ∃ ack, reply.ack = .ok ack ∧ decodeAck f = some ack := by
  obtain ⟨ack, found, framed⟩ := bind_eq_ok.mp framed
  refine ⟨ack, found, ?_⟩
  have decoded := Message.decode_frame framed trivial
  obtain ⟨same, read, here⟩ := Option.map_eq_some_iff.mp decoded
  cases here
  exact read

/-- A reply whose text fits into a frame is heard as it was sent. -/
theorem Reply.frame_eq_ok {reply : Reply} {message : Bytes}
    (text : reply.message.bytes = .ok message) (short : message.length < 4294967296) :
    ∃ f, reply.frame = .ok f ∧ decodeAck f = some ⟨reply.messageId, reply.ok, message⟩ := by
  have ack : reply.ack = .ok ⟨reply.messageId, reply.ok, message⟩ := by
    unfold ack
    rw [text]
    rfl
  obtain ⟨payload, encoded⟩ := Message.exists_encode
    (m := .ack ⟨reply.messageId, reply.ok, message⟩) short
  have framed : reply.frame = .ok ⟨reply.type, payload⟩ := by
    unfold frame
    rw [ack]
    exact Message.frame_eq_ok.mpr ⟨rfl, encoded⟩
  obtain ⟨ack', found, decoded⟩ := decodeAck_frame framed
  obtain rfl := Except.ok.inj (ack.symm.trans found)
  exact ⟨_, framed, decoded⟩

/-! ## Numbers in a text -/

theorem length_decimal {n k : Nat} (positive : 0 < k) (bound : n < 10 ^ k) :
    (decimal n).length ≤ k := by
  induction k generalizing n with
  | zero => omega
  | succ k inductionHypothesis =>
      by_cases small : n < 10
      · rw [decimal_of_lt_ten small]
        exact Nat.le_add_left 1 k
      · have power : n < 10 ^ k * 10 := by rwa [← Nat.pow_succ]
        have front : n / 10 < 10 ^ k := Nat.div_lt_of_lt_mul (by omega)
        have below : 0 < k := by
          by_contra zero
          obtain rfl : k = 0 := by omega
          omega
        rw [decimal_of_ten_le (by omega), List.length_append, List.length_singleton]
        exact Nat.succ_le_succ (inductionHypothesis below front)

/-- A white space character. -/
def isSpace (c : UInt8) : Bool := c == 32 || (9 ≤ c && c ≤ 13)

/-- The sign in front of a number, and what follows it. -/
def readSign : Bytes → Bool × Bytes
  | 45 :: rest => (true, rest)
  | 43 :: rest => (false, rest)
  | text => (false, text)

/-- `std::stoull`: white space, a sign and digits are read, and nothing behind them. A
negative number wraps around. -/
def stoull (text : Bytes) : Option UInt64 :=
  let (negative, rest) := readSign (text.dropWhile isSpace)
  let digits := rest.takeWhile JsonText.isDigit
  if digits = [] then none
  else
    let n := JsonText.digitsValue digits
    if 18446744073709551615 < n then none
    else some (if negative then 0 - UInt64.ofNat n else UInt64.ofNat n)

theorem isDigit_spec {c : UInt8} (digit : JsonText.isDigit c = true) :
    isSpace c = false ∧ c ≠ 45 ∧ c ≠ 43 := by
  have all : ∀ n < 256, JsonText.isDigit (UInt8.ofNat n) = true →
      isSpace (UInt8.ofNat n) = false ∧ UInt8.ofNat n ≠ 45 ∧ UInt8.ofNat n ≠ 43 := by
    decide +kernel
  have here := all c.toNat c.toNat_lt
  rw [UInt8.ofNat_toNat] at here
  exact here digit

/-- What `std::to_string` writes is read back. -/
theorem stoull_decimal (n : UInt64) : stoull (decimal n.toNat) = some n := by
  obtain ⟨c, digits, text, isDigits, _, value⟩ := decimal_spec n.toNat
  obtain ⟨space, minus, plus⟩ := isDigit_spec (isDigits c List.mem_cons_self)
  have unsigned : readSign (c :: digits) = (false, c :: digits) := by
    unfold readSign
    split
    · rename_i same
      exact absurd (List.cons.inj same).1 minus
    · rename_i same
      exact absurd (List.cons.inj same).1 plus
    · rfl
  have all : (c :: digits).takeWhile JsonText.isDigit = c :: digits :=
    List.takeWhile_eq_self_iff.mpr isDigits
  have bounded := n.toNat_lt
  unfold stoull
  rw [text, List.dropWhile_cons_of_neg (by simp [space]), unsigned]
  dsimp only
  rw [all, value, if_neg (List.cons_ne_nil _ _), if_neg (by omega)]
  simp

/-! ## The worker -/

/-- The part of `WorkerCtx` that is not its socket. -/
structure WorkerCtx where
  worker : WorkerId
  boot : WorkerBootId
  node : NodeId
  accel : AcceleratorId
  obsGen : ObservationGeneration
  epoch : CoordinatorEpoch
deriving DecidableEq

/-- A command line whose arguments are read, or one that is not understood. An amount
is a `long`, of 32 bits on the platform that the sockets are for. -/
inductive WorkerCommand where
  | quit
  | observe (mw centi : Int32)
  | reserve (budget : UInt64) (mw : Int32)
  | activate (reservation budget : UInt64) (mw : Int32)
  | release (reservation budget : UInt64) (mw : Int32)
  | decision (budget : UInt64) (mw : Int32)
  | staleObserve (epoch boot : UInt64) (mw : Int32)
  | staleReserve (epoch boot budget : UInt64) (mw : Int32)
  | staleRelease (epoch boot reservation budget : UInt64) (mw : Int32)
  | badArgs (name : String)
  | unknown
deriving DecidableEq

namespace WorkerCtx

/-- What `run_worker_main` starts with. -/
def fresh (worker : WorkerId) (boot : WorkerBootId) (node : NodeId) : WorkerCtx :=
  ⟨worker, boot, node, ⟨1⟩, .first, .null⟩

variable (w : WorkerCtx)

def registerMsg : RegisterMsg := ⟨w.worker, w.boot, w.node, ascii "w"⟩

/-- `observe`. -/
def observeMsg (mw centi : Int32) : PowerObsMsg where
  worker := w.worker
  boot := w.boot
  epoch := w.epoch
  accel := w.accel
  deviceGen := .first
  obsGen := w.obsGen
  timestampNs := 1000000
  hasPower := true
  powerMw := mw.toInt64
  hasTemp := true
  tempCenti := centi
  smMhz := 0
  memMhz := 0
  hasUtil := true
  utilizationBp := 5000
  hasEnergy := false
  energyMj := 0
  throttled := false
  provenance := 1
  source := ascii "fake"

/-- `stale_observe`: under a given epoch and boot, and without a utilization. -/
def staleObserveMsg (epoch boot : UInt64) (mw : Int32) : PowerObsMsg :=
  { w.observeMsg mw 3700 with
    epoch := ⟨epoch⟩
    boot := ⟨boot⟩
    hasUtil := false
    utilizationBp := 0 }

/-- `reserve`, and `stale_reserve` under a given epoch and boot. -/
def reserveMsg (epoch : CoordinatorEpoch) (boot : WorkerBootId) (budget : UInt64) (mw : Int32) :
    ReserveMsg where
  reservation := .invalid
  budget := ⟨budget⟩
  requestedMw := mw.toInt64
  requestedMj := 0
  budgetGen := .first
  reservationGen := .first
  policyGen := .first
  deviceGen := .first
  workload := ⟨w.worker.raw⟩
  cls := 1
  scope := ⟨1⟩
  epoch := epoch
  boot := boot
  timestampNs := 1000000
  validityNs := 5000000000

/-- `decision`: the fields that are not set keep their defaults. -/
def decisionMsg (budget : UInt64) (mw : Int32) : ReserveMsg :=
  { w.reserveMsg w.epoch w.boot budget mw with
    budgetGen := .null
    reservationGen := .null
    policyGen := .null
    deviceGen := .null
    scope := .invalid
    timestampNs := 0
    validityNs := 0 }

/-- `activate` and `release`, and `stale_release` under a given epoch and boot. -/
def actionMsg (epoch : CoordinatorEpoch) (boot : WorkerBootId) (reservation budget : UInt64)
    (mw : Int32) : BudgetActionMsg where
  reservation := ⟨reservation⟩
  budget := ⟨budget⟩
  amountMw := mw.toInt64
  budgetGen := .first
  epoch := epoch
  boot := boot

/-- The message a command sends and its frame type. -/
def message : WorkerCommand → Option (MsgType × Message)
  | .observe mw centi => some (.powerObservation, .powerObs (w.observeMsg mw centi))
  | .reserve budget mw =>
    some (.reserve, .reserve (w.reserveMsg w.epoch w.boot budget mw))
  | .activate reservation budget mw =>
    some (.activate, .budgetAction (actionMsg w.epoch w.boot reservation budget mw))
  | .release reservation budget mw =>
    some (.release, .budgetAction (actionMsg w.epoch w.boot reservation budget mw))
  | .decision budget mw => some (.decisionRequest, .reserve (w.decisionMsg budget mw))
  | .staleObserve epoch boot mw =>
    some (.powerObservation, .powerObs (w.staleObserveMsg epoch boot mw))
  | .staleReserve epoch boot budget mw =>
    some (.reserve, .reserve (w.reserveMsg ⟨epoch⟩ ⟨boot⟩ budget mw))
  | .staleRelease epoch boot reservation budget mw =>
    some (.release, .budgetAction (actionMsg ⟨epoch⟩ ⟨boot⟩ reservation budget mw))
  | .quit | .badArgs _ | .unknown => none

/-- An observation takes up its generation when it is sent. -/
def advanced : WorkerCommand → WorkerCtx
  | .observe _ _ | .staleObserve _ _ _ => { w with obsGen := w.obsGen.next }
  | _ => w

/-- The frame of a command. -/
def request (cmd : WorkerCommand) : Except Fault (Option Frame) :=
  match w.message cmd with
  | none => .ok none
  | some (type, m) => (m.frame type).map some

def registerFrame : Except Fault Frame := (Message.register w.registerMsg).frame .register

/-- The end of `worker_register`: the epoch is read from the answer. -/
def welcomed (message : Bytes) : WorkerCtx :=
  { w with epoch := (stoull message).elim .first Generation.mk }

variable {w}

/-- Every message of a worker can be encoded and passes the checks of its decoder. -/
theorem fits_of_message {cmd : WorkerCommand} {type : MsgType} {m : Message}
    (sends : w.message cmd = some (type, m)) : m.StringsFit ∧ m.Checked := by
  have source : (ascii "fake").length < 4294967296 := by decide
  cases cmd with
  | observe mw centi =>
      cases sends
      exact ⟨source, trivial⟩
  | staleObserve epoch boot mw =>
      cases sends
      exact ⟨source, trivial⟩
  | reserve budget mw | decision budget mw | staleReserve epoch boot budget mw =>
      cases sends
      exact ⟨trivial, show (1 : UInt8) ≤ 7 by decide⟩
  | activate reservation budget mw | release reservation budget mw
  | staleRelease epoch boot reservation budget mw =>
      cases sends
      exact ⟨trivial, trivial⟩
  | quit | badArgs name | unknown => cases sends

/-- A command sends the frame of its message, or nothing. -/
theorem request_eq (cmd : WorkerCommand) :
    (w.message cmd = none ∧ w.request cmd = .ok none) ∨
      ∃ type m f, w.message cmd = some (type, m) ∧ m.frame type = .ok f ∧
        w.request cmd = .ok (some f) := by
  unfold request
  rcases sends : w.message cmd with _ | ⟨type, m⟩
  · exact .inl ⟨rfl, rfl⟩
  · obtain ⟨payload, encoded⟩ := Message.exists_encode (fits_of_message sends).1
    have framed : m.frame type = .ok ⟨type, payload⟩ := Message.frame_eq_ok.mpr ⟨rfl, encoded⟩
    refine .inr ⟨type, m, _, rfl, framed, ?_⟩
    dsimp only
    rw [framed]
    rfl

theorem exists_registerFrame : ∃ f, w.registerFrame = .ok f := by
  obtain ⟨payload, encoded⟩ := Message.exists_encode (m := .register w.registerMsg)
    (show (ascii "w").length < 4294967296 by decide)
  exact ⟨⟨.register, payload⟩, Message.frame_eq_ok.mpr ⟨rfl, encoded⟩⟩

/-- The coordinator reads the registration. -/
theorem decodeRegister_registerFrame {f : Frame} (framed : w.registerFrame = .ok f) :
    f.type = .register ∧ decodeRegister f = some w.registerMsg := by
  refine ⟨(Message.frame_eq_ok.mp framed).1, ?_⟩
  obtain ⟨reg, read, here⟩ := Option.map_eq_some_iff.mp (Message.decode_frame framed trivial)
  cases here
  exact read

/-- A worker that reads the number of an epoch is in that epoch. -/
theorem welcomed_decimal (epoch : CoordinatorEpoch) :
    w.welcomed (decimal epoch.raw.toNat) = { w with epoch := epoch } := by
  unfold welcomed
  rw [stoull_decimal]
  rfl

end WorkerCtx

/-! ## Lines -/

namespace WorkerCommand

/-- The name in the lines of a command that sends a frame. -/
def name : WorkerCommand → String
  | .observe _ _ => "observe"
  | .reserve _ _ => "reserve"
  | .activate _ _ _ => "activate"
  | .release _ _ _ => "release"
  | .decision _ _ => "decision"
  | .staleObserve _ _ _ => "stale_observe"
  | .staleReserve _ _ _ _ => "stale_reserve"
  | .staleRelease _ _ _ _ _ => "stale_release"
  | .badArgs name => name
  | .quit | .unknown => ""

/-- What is printed for an answer that is ok. -/
def accepted (message : Bytes) : WorkerCommand → Bytes
  | .reserve _ _ | .decision _ _ | .staleReserve _ _ _ _ => ascii "ACCEPT:" ++ message
  | _ => ascii "ACCEPT"

/-- The line for the answer to a command. -/
def line (cmd : WorkerCommand) (answer : Option AckMsg) : Bytes :=
  ascii (cmd.name ++ " -> ") ++ match answer with
    | none => ascii "bad ack"
    | some ra => if ra.ok then cmd.accepted ra.message else ra.message

/-- The line for an answer that does not come. -/
def closedLine (cmd : WorkerCommand) : Bytes := ascii (cmd.name ++ ": connection closed")

/-- The line of a command that sends nothing. -/
def idleLine : WorkerCommand → List Bytes
  | .badArgs name => [ascii (name ++ ": bad args")]
  | .unknown => [ascii "unknown cmd"]
  | _ => []

end WorkerCommand

/-- The line that ends `worker_register`. -/
def registerLine : Option AckMsg → Bytes
  | none => ascii "REGISTER rejected: malformed"
  | some ra =>
    ascii (if ra.ok then "REGISTER ok: " else "REGISTER rejected: ") ++ ra.message

end PowerGovernor
