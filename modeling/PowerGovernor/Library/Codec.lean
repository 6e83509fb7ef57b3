import Mathlib.Data.Nat.Basic
import Mathlib.Tactic.Ring
import PowerGovernor.Library.Stateful

/-!
Byte codecs.

Owns little-endian words of any width, readers that consume a byte list, the
concatenation of chunks that may fail to encode, the round-trip relation between
a chunk and a reader with its composition rules, and the loop that decodes a
counted section while it applies every record to a state.
-/

set_option autoImplicit false

/-! ## Little-endian words -/

namespace LittleEndian

/-- The low `width` bytes of a number, the least significant first. -/
def encode : Nat → Nat → List UInt8
  | 0, _ => []
  | width + 1, v => UInt8.ofNat v :: encode width (v / 256)

/-- The number a byte list stands for. -/
def decode : List UInt8 → Nat
  | [] => 0
  | byte :: rest => byte.toNat + 256 * decode rest

@[simp] theorem length_encode (width v : Nat) : (encode width v).length = width := by
  induction width generalizing v with
  | zero => rfl
  | succ width inductionHypothesis => simp [encode, inductionHypothesis]

theorem decode_encode (width v : Nat) : decode (encode width v) = v % 256 ^ width := by
  induction width generalizing v with
  | zero => simp [encode, decode, Nat.mod_one]
  | succ width inductionHypothesis =>
      have low : (UInt8.ofNat v).toNat = v % 256 := by simp
      rw [encode, decode, low, inductionHypothesis, Nat.pow_succ, Nat.mul_comm (256 ^ width) 256,
        Nat.mod_mul]

/-- A word that fits its width survives. -/
theorem decode_encode_of_lt {width v : Nat} (fits : v < 256 ^ width) :
    decode (encode width v) = v := by
  rw [decode_encode, Nat.mod_eq_of_lt fits]

theorem decode_lt (bytes : List UInt8) : decode bytes < 256 ^ bytes.length := by
  induction bytes with
  | nil => exact Nat.one_pos
  | cons byte rest inductionHypothesis =>
      have low : byte.toNat < 256 := byte.toNat_lt
      rw [decode, List.length_cons, Nat.pow_succ]
      omega

/-- The bytes of the number that some bytes stand for. -/
theorem encode_decode (bytes : List UInt8) : encode bytes.length (decode bytes) = bytes := by
  induction bytes with
  | nil => rfl
  | cons byte rest inductionHypothesis =>
      have low : UInt8.ofNat (byte.toNat + 256 * decode rest) = byte := by
        apply UInt8.toNat_inj.mp
        simp
      have high : (byte.toNat + 256 * decode rest) / 256 = decode rest := by
        have below : byte.toNat < 256 := byte.toNat_lt
        omega
      rw [List.length_cons, decode, encode, low, high, inductionHypothesis]

/-- Byte lists of one length stand for different numbers. -/
theorem decode_injective {left right : List UInt8} (length : left.length = right.length)
    (same : decode left = decode right) : left = right := by
  rw [← encode_decode left, ← encode_decode right, length, same]

end LittleEndian

/-! ## Readers -/

/-- A computation that consumes bytes or fails with `ε`. -/
abbrev ByteReader (ε : Type) := StateT (List UInt8) (Except ε)

/-- The concatenation of chunks, up to the first that fails. -/
def concat {φ : Type} : List (Except φ (List UInt8)) → Except φ (List UInt8)
  | [] => .ok []
  | .error fault :: _ => .error fault
  | .ok bytes :: chunks =>
    match concat chunks with
    | .error fault => .error fault
    | .ok rest => .ok (bytes ++ rest)

section RoundTrip

variable {ε φ α β : Type}

theorem concat_cons_eq_ok {chunk : Except φ (List UInt8)} {chunks : List (Except φ (List UInt8))}
    {bytes : List UInt8} :
    concat (chunk :: chunks) = .ok bytes ↔
      ∃ first rest, chunk = .ok first ∧ concat chunks = .ok rest ∧ bytes = first ++ rest := by
  cases chunk with
  | error fault => simp [concat]
  | ok first =>
      rw [concat]
      generalize concat chunks = tail
      cases tail with
      | error fault => simp
      | ok rest => simp [eq_comm]

/-- In a concatenation that succeeds every chunk does. -/
theorem ok_of_mem_concat {chunks : List (Except φ (List UInt8))} {bytes : List UInt8}
    (encoded : concat chunks = .ok bytes) (chunk : Except φ (List UInt8))
    (member : chunk ∈ chunks) : ∃ part, chunk = .ok part := by
  induction chunks generalizing bytes with
  | nil => cases member
  | cons head chunks inductionHypothesis =>
      obtain ⟨first, rest, headOk, restOk, _⟩ := concat_cons_eq_ok.mp encoded
      rcases List.mem_cons.mp member with rfl | later
      · exact ⟨first, headOk⟩
      · exact inductionHypothesis restOk later

/-- Chunks that are never empty are at most as many as their bytes. -/
theorem length_le_of_concat {chunks : List (Except φ (List UInt8))} {bytes : List UInt8}
    (nonempty : ∀ chunk ∈ chunks, chunk ≠ .ok []) (encoded : concat chunks = .ok bytes) :
    chunks.length ≤ bytes.length := by
  induction chunks generalizing bytes with
  | nil => exact Nat.zero_le _
  | cons chunk chunks inductionHypothesis =>
      obtain ⟨first, rest, rfl, restOk, rfl⟩ := concat_cons_eq_ok.mp encoded
      have some : first ≠ [] := by
        rintro rfl
        exact nonempty _ List.mem_cons_self rfl
      have others := inductionHypothesis
        (fun chunk member => nonempty chunk (List.mem_cons_of_mem _ member)) restOk
      have positive := List.length_pos_iff.mpr some
      rw [List.length_cons, List.length_append]
      omega

/-- Whatever follows, the bytes are read as `a` up to their end. -/
def Carries (bytes : List UInt8) (reader : ByteReader ε α) (a : α) : Prop :=
  ∀ rest, reader.run (bytes ++ rest) = .ok (a, rest)

/-- What an encoding that succeeds carries. -/
def Encodes (chunk : Except φ (List UInt8)) (reader : ByteReader ε α) (a : α) : Prop :=
  ∀ bytes, chunk = .ok bytes → Carries bytes reader a

/-- Reading on after what the bytes carry. -/
theorem Carries.bind {left right : List UInt8} {reader : ByteReader ε α}
    {next : α → ByteReader ε β} {a : α} {b : β} (head : Carries left reader a)
    (tail : Carries right (next a) b) : Carries (left ++ right) (reader >>= next) b := by
  intro rest
  rw [List.append_assoc, StateT.run_bind, head (right ++ rest)]
  exact tail rest

/-- A function of what is read. -/
theorem Carries.map {bytes : List UInt8} {reader : ByteReader ε α} {a : α}
    (carries : Carries bytes reader a) (f : α → β) :
    Carries bytes (reader >>= fun a => pure (f a)) (f a) := by
  intro rest
  rw [StateT.run_bind, carries rest]
  rfl

namespace Encodes

theorem of_carries {bytes : List UInt8} {reader : ByteReader ε α} {a : α}
    (carries : Carries bytes reader a) : Encodes (.ok bytes : Except φ _) reader a := by
  intro other same
  rw [← Except.ok.inj same]
  exact carries

/-- A chunk followed by chunks, a reader followed by a reader. -/
theorem cons {chunk : Except φ (List UInt8)} {chunks : List (Except φ (List UInt8))}
    {reader : ByteReader ε α} {next : α → ByteReader ε β} {a : α} {b : β}
    (head : Encodes chunk reader a) (tail : Encodes (concat chunks) (next a) b) :
    Encodes (concat (chunk :: chunks)) (reader >>= next) b := by
  intro bytes encoded rest
  obtain ⟨first, others, firstOk, othersOk, rfl⟩ := concat_cons_eq_ok.mp encoded
  have read := head first firstOk (others ++ rest)
  rw [List.append_assoc, StateT.run_bind, read]
  exact tail others othersOk rest

/-- A reader that consumes nothing between two chunks. -/
theorem skip {chunks : Except φ (List UInt8)} {reader : ByteReader ε α}
    {next : α → ByteReader ε β} {a : α} {b : β} (quiet : reader = pure a)
    (tail : Encodes chunks (next a) b) : Encodes chunks (reader >>= next) b := by
  rw [quiet, pure_bind]
  exact tail

/-- A reader that consumes nothing ends the chunks. -/
theorem nil {reader : ByteReader ε α} {a : α} (ends : ∀ rest, reader.run rest = .ok (a, rest)) :
    Encodes (concat [] : Except φ _) reader a := by
  intro bytes encoded rest
  rw [← Except.ok.inj encoded]
  exact ends rest

end Encodes

end RoundTrip

namespace ByteReader

variable {ε : Type}

/-- A little-endian word of a fixed width. -/
def word (failed : ε) (width : Nat) : ByteReader ε Nat := fun bytes =>
  if bytes.length < width then .error failed
  else .ok (LittleEndian.decode (bytes.take width), bytes.drop width)

theorem carries_word (failed : ε) (width : Nat) {v : Nat} (fits : v < 256 ^ width) :
    Carries (LittleEndian.encode width v) (word failed width) v := by
  intro rest
  have long : ¬ (LittleEndian.encode width v ++ rest).length < width := by simp
  have taken : (LittleEndian.encode width v ++ rest).take width = LittleEndian.encode width v :=
    List.take_left' (LittleEndian.length_encode width v)
  have dropped : (LittleEndian.encode width v ++ rest).drop width = rest :=
    List.drop_left' (LittleEndian.length_encode width v)
  show (if _ then _ else _) = _
  rw [if_neg long, taken, dropped, LittleEndian.decode_encode_of_lt fits]

/-- A fixed number of bytes, as they are. -/
def raw (failed : ε) (count : Nat) : ByteReader ε (List UInt8) := fun bytes =>
  if bytes.length < count then .error failed else .ok (bytes.take count, bytes.drop count)

theorem carries_raw (failed : ε) (bytes : List UInt8) :
    Carries bytes (raw failed bytes.length) bytes := by
  intro rest
  have long : ¬ (bytes ++ rest).length < bytes.length := by simp
  show (if _ then _ else _) = _
  rw [if_neg long, List.take_left, List.drop_left]

end ByteReader

/-! ## Counted sections -/

namespace ByteReader

variable {ε φ S α : Type}

/-- Read `count` records and apply each before the next is read. -/
def sections (reader : ByteReader ε α) (apply : α → Stateful ε S Unit) :
    Nat → List UInt8 → Stateful ε S (List UInt8)
  | 0, bytes => pure bytes
  | count + 1, bytes => do
    let (a, rest) ← Stateful.ofExcept (reader.run bytes)
    apply a
    sections reader apply count rest

/-- The records read before the section ends or stops. -/
def collect (reader : ByteReader ε α) : Nat → List UInt8 → List α
  | 0, _ => []
  | count + 1, bytes =>
    match reader.run bytes with
    | .ok (a, rest) => a :: collect reader count rest
    | .error _ => []

/-- Apply a list of records. -/
def applyAll (apply : α → Stateful ε S Unit) : List α → Stateful ε S Unit
  | [] => pure ()
  | a :: rest => do
    apply a
    applyAll apply rest

variable {reader : ByteReader ε α} {apply : α → Stateful ε S Unit}

/-- Where every record is accepted in its turn, the records fold over the state. -/
theorem exec_applyAll (Ready : S → List α → Prop) {step : S → α → S}
    (each : ∀ a rest s, Ready s (a :: rest) →
      (apply a).exec s = (.ok (), step s a) ∧ Ready (step s a) rest)
    {items : List α} {s : S} (ready : Ready s items) :
    (applyAll apply items).exec s = (.ok (), items.foldl step s) := by
  induction items generalizing s with
  | nil => rfl
  | cons a rest inductionHypothesis =>
      obtain ⟨applied, next⟩ := each a rest s ready
      rw [applyAll, Stateful.exec_bind_of_ok applied]
      exact inductionHypothesis next

theorem exec_sections_of_unread {bytes : List UInt8} {e : ε} (unread : reader.run bytes = .error e)
    (count : Nat) (s : S) :
    (sections reader apply (count + 1) bytes).exec s = (.error e, s) := by
  rw [sections, unread]
  rfl

theorem exec_sections_of_read {bytes rest : List UInt8} {a : α}
    (read : reader.run bytes = .ok (a, rest)) (count : Nat) (s : S) :
    (sections reader apply (count + 1) bytes).exec s =
      (apply a >>= fun _ => sections reader apply count rest).exec s := by
  rw [sections, read]
  rfl

/-- A section that carries its records applies exactly these. -/
theorem exec_sections {β : Type} {items : List β} {encode : β → Except φ (List UInt8)}
    {decoded : β → α} (encodes : ∀ item ∈ items, Encodes (encode item) reader (decoded item))
    {bytes : List UInt8} (encoded : concat (items.map encode) = .ok bytes) (rest : List UInt8)
    (s : S) : (sections reader apply items.length (bytes ++ rest)).exec s =
      (applyAll apply (items.map decoded) >>= fun _ => pure rest).exec s := by
  induction items generalizing bytes s with
  | nil =>
      rw [← Except.ok.inj encoded]
      rfl
  | cons item items inductionHypothesis =>
      obtain ⟨first, others, firstOk, othersOk, rfl⟩ := concat_cons_eq_ok.mp encoded
      have read := encodes item List.mem_cons_self first firstOk (others ++ rest)
      rw [List.length_cons, List.append_assoc, exec_sections_of_read read]
      simp only [List.map_cons, applyAll, bind_assoc]
      rw [Stateful.exec_bind, Stateful.exec_bind]
      rcases (apply (decoded item)).exec s with ⟨result, s'⟩
      cases result with
      | error e => rfl
      | ok _ =>
          exact inductionHypothesis
            (fun other member => encodes other (List.mem_cons_of_mem _ member)) othersOk s'

section Progress

variable (reader apply) (Forward : S → S → Prop)
  (trans : ∀ s t u, Forward s t → Forward t u → Forward s u)
  (step : ∀ a s, (∃ e, (apply a).exec s = (.error e, s)) ∨
    ∃ s', (apply a).exec s = (.ok (), s') ∧ Forward s s')

include trans step

/-- Where a record stops the section unchanged or moves the state forward, so
does the section. -/
theorem sections_forward (count : Nat) (bytes : List UInt8) (s : S) :
    ((sections reader apply count bytes).exec s).2 = s ∨
      Forward s ((sections reader apply count bytes).exec s).2 := by
  induction count generalizing bytes s with
  | zero => exact .inl rfl
  | succ count inductionHypothesis =>
      cases read : reader.run bytes with
      | error e => exact .inl (by rw [exec_sections_of_unread read])
      | ok result =>
          rw [exec_sections_of_read read]
          rcases step result.1 s with ⟨e, stopped⟩ | ⟨s', applied, moved⟩
          · exact .inl (by rw [Stateful.exec_bind_of_error stopped])
          · rw [Stateful.exec_bind_of_ok applied]
            rcases inductionHypothesis result.2 s' with same | further
            · rw [same]
              exact .inr moved
            · exact .inr (trans _ _ _ moved further)

/-- A section has no record, stops at its first one, or applies it and moves
forward. -/
theorem sections_cases (count : Nat) (bytes : List UInt8) (s : S) :
    (count = 0 ∧ (sections reader apply count bytes).exec s = (.ok bytes, s)) ∨
    (count ≠ 0 ∧ (∃ e, (sections reader apply count bytes).exec s = (.error e, s)) ∧
      ∀ a rest, reader.run bytes = .ok (a, rest) → ∃ e, (apply a).exec s = (.error e, s)) ∨
    (count ≠ 0 ∧ (∃ a rest s', reader.run bytes = .ok (a, rest) ∧
      (apply a).exec s = (.ok (), s')) ∧
        Forward s ((sections reader apply count bytes).exec s).2) := by
  cases count with
  | zero => exact .inl ⟨rfl, rfl⟩
  | succ count =>
      refine .inr ?_
      cases read : reader.run bytes with
      | error e => exact .inl ⟨nofun, ⟨e, exec_sections_of_unread read count s⟩, nofun⟩
      | ok result =>
          obtain ⟨a, rest⟩ := result
          rw [exec_sections_of_read read]
          rcases step a s with ⟨e, stopped⟩ | ⟨s', applied, moved⟩
          · refine .inl ⟨nofun, ⟨e, Stateful.exec_bind_of_error stopped _⟩, ?_⟩
            intro other after same
            obtain ⟨rfl, rfl⟩ := Prod.mk.inj (Except.ok.inj same)
            exact ⟨e, stopped⟩
          · refine .inr ⟨nofun, ⟨a, rest, s', rfl, applied⟩, ?_⟩
            rw [Stateful.exec_bind_of_ok applied]
            rcases sections_forward reader apply Forward trans step count rest s' with
              same | further
            · rw [same]
              exact moved
            · exact trans _ _ _ moved further

end Progress

variable (reader apply) in
/-- Where every record is applied, the section applies what it reads. -/
theorem state_sections {f : α → S → S} (total : ∀ a s, (apply a).exec s = (.ok (), f a s))
    (count : Nat) (bytes : List UInt8) (s : S) :
    ((sections reader apply count bytes).exec s).2 =
      (collect reader count bytes).foldl (fun s a => f a s) s := by
  induction count generalizing bytes s with
  | zero => rfl
  | succ count inductionHypothesis =>
      cases read : reader.run bytes with
      | error e =>
          rw [exec_sections_of_unread read, collect, read]
          rfl
      | ok result =>
          rw [exec_sections_of_read read,
            Stateful.exec_bind_of_ok (total result.1 s), collect, read]
          exact inductionHypothesis result.2 (f result.1 s)

/-! ### Reading apart from applying -/

theorem run_bind_eq_ok {β : Type} {x : ByteReader ε α} {next : α → ByteReader ε β}
    {bytes rest : List UInt8} {b : β} :
    (x >>= next).run bytes = .ok (b, rest) ↔
      ∃ a middle, x.run bytes = .ok (a, middle) ∧ (next a).run middle = .ok (b, rest) := by
  rw [StateT.run_bind]
  cases x.run bytes with
  | error e => exact ⟨nofun, nofun⟩
  | ok read =>
      refine ⟨fun returned => ⟨read.1, read.2, rfl, returned⟩, ?_⟩
      rintro ⟨a, middle, same, returned⟩
      obtain rfl := Except.ok.inj same
      exact returned

/-- Read `count` records. -/
def readAll (reader : ByteReader ε α) : Nat → ByteReader ε (List α)
  | 0 => pure []
  | count + 1 => do
    let a ← reader
    let items ← readAll reader count
    return a :: items

theorem readAll_succ_eq_ok {count : Nat} {bytes rest : List UInt8} {items : List α} :
    (readAll reader (count + 1)).run bytes = .ok (items, rest) ↔
      ∃ a middle others, reader.run bytes = .ok (a, middle) ∧
        (readAll reader count).run middle = .ok (others, rest) ∧ items = a :: others := by
  rw [readAll, run_bind_eq_ok]
  constructor
  · rintro ⟨a, middle, read, returned⟩
    obtain ⟨others, last, readOthers, returned⟩ := run_bind_eq_ok.mp returned
    obtain ⟨rfl, rfl⟩ := Prod.mk.inj (Except.ok.inj returned)
    exact ⟨a, middle, others, read, readOthers, rfl⟩
  · rintro ⟨a, middle, others, read, readOthers, rfl⟩
    exact ⟨a, middle, read, run_bind_eq_ok.mpr ⟨others, rest, readOthers, rfl⟩⟩

/-- Encoded records are read back as what they carry. -/
theorem carries_readAll {β : Type} {encode : β → Except φ (List UInt8)} {decoded : β → α}
    (encodes : ∀ item, Encodes (encode item) reader (decoded item)) {items : List β}
    {bytes : List UInt8} (encoded : concat (items.map encode) = .ok bytes) :
    Carries bytes (readAll reader items.length) (items.map decoded) := by
  induction items generalizing bytes with
  | nil =>
      intro rest
      rw [← Except.ok.inj encoded]
      rfl
  | cons item items inductionHypothesis =>
      obtain ⟨first, others, firstOk, othersOk, rfl⟩ := concat_cons_eq_ok.mp encoded
      intro rest
      rw [List.append_assoc]
      exact readAll_succ_eq_ok.mpr ⟨_, _, _, encodes item first firstOk _,
        inductionHypothesis othersOk rest, rfl⟩

/-- Equal bytes start with equal records, if these are equally many. -/
theorem records_of_append_eq {β : Type} {encode : β → Except φ (List UInt8)} {decoded : β → α}
    (encodes : ∀ item, Encodes (encode item) reader (decoded item)) {items items' : List β}
    (length : items.length = items'.length) {bytes bytes' rest rest' : List UInt8}
    (encoded : concat (items.map encode) = .ok bytes)
    (encoded' : concat (items'.map encode) = .ok bytes') (same : bytes ++ rest = bytes' ++ rest') :
    items.map decoded = items'.map decoded ∧ rest = rest' := by
  have read := carries_readAll encodes encoded rest
  have read' := carries_readAll encodes encoded' rest'
  rw [same, length, read'] at read
  obtain ⟨records, others⟩ := Prod.mk.inj (Except.ok.inj read)
  exact ⟨records.symm, others.symm⟩

/-- Reading fewer records reads the first ones. -/
theorem readAll_first {k count : Nat} (below : k ≤ count) {bytes middle rest : List UInt8}
    {first items : List α} (some : (readAll reader k).run bytes = .ok (first, middle))
    (all : (readAll reader count).run bytes = .ok (items, rest)) : first <+: items := by
  induction k generalizing count bytes first items with
  | zero =>
      obtain ⟨rfl, rfl⟩ := Prod.mk.inj (Except.ok.inj some)
      exact List.nil_prefix
  | succ k inductionHypothesis =>
      cases count with
      | zero => exact absurd below (Nat.not_succ_le_zero k)
      | succ count =>
          obtain ⟨a, after, others, read, readOthers, rfl⟩ := readAll_succ_eq_ok.mp some
          obtain ⟨b, after', others', read', readOthers', rfl⟩ := readAll_succ_eq_ok.mp all
          obtain ⟨rfl, rfl⟩ := Prod.mk.inj (Except.ok.inj (read.symm.trans read'))
          have later := inductionHypothesis (Nat.le_of_succ_le_succ below) readOthers readOthers'
          exact List.prefix_cons_inj a |>.mpr later

/-- Reading a section fails at the first record that cannot be read. -/
theorem readAll_eq_error {count : Nat} {bytes : List UInt8} {e : ε} :
    (readAll reader count).run bytes = .error e ↔
      ∃ k < count, ∃ items middle, (readAll reader k).run bytes = .ok (items, middle) ∧
        reader.run middle = .error e := by
  induction count generalizing bytes with
  | zero =>
      refine ⟨nofun, ?_⟩
      rintro ⟨k, below, _⟩
      omega
  | succ count inductionHypothesis =>
      have unfolded : (readAll reader (count + 1)).run bytes = reader.run bytes >>= fun first =>
          (readAll reader count).run first.2 >>= fun others =>
            .ok (first.1 :: others.1, others.2) := rfl
      rw [unfolded]
      cases read : reader.run bytes with
      | error other =>
          constructor
          · intro failed
            obtain rfl := Except.error.inj failed
            exact ⟨0, Nat.succ_pos _, [], bytes, rfl, read⟩
          · rintro ⟨k, below, items, middle, all, failed⟩
            cases k with
            | zero =>
                obtain ⟨rfl, rfl⟩ := Prod.mk.inj (Except.ok.inj all)
                rw [read] at failed
                obtain rfl := Except.error.inj failed
                rfl
            | succ k =>
                obtain ⟨a, rest, others, first, _⟩ := readAll_succ_eq_ok.mp all
                rw [read] at first
                cases first
      | ok result =>
          have step : (Except.ok result >>= fun first => (readAll reader count).run first.2 >>=
              fun others => Except.ok (first.1 :: others.1, others.2)) = .error e ↔
                (readAll reader count).run result.2 = .error e := by
            show ((readAll reader count).run result.2 >>= fun others =>
              Except.ok (result.1 :: others.1, others.2)) = .error e ↔ _
            cases (readAll reader count).run result.2 with
            | error other => exact ⟨fun same => same, fun same => same⟩
            | ok others => exact ⟨nofun, nofun⟩
          rw [step, inductionHypothesis]
          constructor
          · rintro ⟨k, below, items, middle, all, failed⟩
            exact ⟨k + 1, Nat.succ_lt_succ below, result.1 :: items, middle,
              readAll_succ_eq_ok.mpr ⟨_, _, _, read, all, rfl⟩, failed⟩
          · rintro ⟨k, below, items, middle, all, failed⟩
            cases k with
            | zero =>
                obtain ⟨rfl, rfl⟩ := Prod.mk.inj (Except.ok.inj all)
                rw [read] at failed
                cases failed
            | succ k =>
                obtain ⟨a, rest, others, first, later, rfl⟩ := readAll_succ_eq_ok.mp all
                rw [read] at first
                obtain rfl := Except.ok.inj first
                exact ⟨k, Nat.lt_of_succ_lt_succ below, others, middle, later, failed⟩

/-- A section that succeeds has read all its records and applied them. -/
theorem sections_eq_ok {count : Nat} {bytes rest : List UInt8} {s s' : S} :
    (sections reader apply count bytes).exec s = (.ok rest, s') ↔
      ∃ items, (readAll reader count).run bytes = .ok (items, rest) ∧
        (applyAll apply items).exec s = (.ok (), s') := by
  induction count generalizing bytes s with
  | zero =>
      constructor
      · rintro ⟨⟩
        exact ⟨[], rfl, rfl⟩
      · rintro ⟨items, read, applied⟩
        obtain ⟨rfl, rfl⟩ := Prod.mk.inj (Except.ok.inj read)
        cases applied
        rfl
  | succ count inductionHypothesis =>
      cases read : reader.run bytes with
      | error e =>
          rw [exec_sections_of_unread read]
          refine ⟨nofun, ?_⟩
          rintro ⟨items, all, _⟩
          obtain ⟨a, middle, others, first, _⟩ := readAll_succ_eq_ok.mp all
          rw [read] at first
          cases first
      | ok result =>
          rw [exec_sections_of_read read, Stateful.bind_eq_ok]
          constructor
          · rintro ⟨_, middle, applied, others⟩
            obtain ⟨items, all, appliedAll⟩ := inductionHypothesis.mp others
            refine ⟨result.1 :: items, readAll_succ_eq_ok.mpr ⟨_, _, _, read, all, rfl⟩, ?_⟩
            rw [applyAll, Stateful.exec_bind_of_ok applied]
            exact appliedAll
          · rintro ⟨items, all, appliedAll⟩
            obtain ⟨a, middle, others, first, later, rfl⟩ := readAll_succ_eq_ok.mp all
            rw [read] at first
            obtain rfl := Except.ok.inj first
            obtain ⟨_, next, applied, rest⟩ := Stateful.bind_eq_ok.mp appliedAll
            exact ⟨_, next, applied, inductionHypothesis.mpr ⟨others, later, rest⟩⟩

variable (reader) in
/-- Where a refused record changes nothing, a section leaves behind what applying
some of its first records makes of the state. -/
theorem exists_prefix_of_sections
    (frugal : ∀ a s e s', (apply a).exec s = (.error e, s') → s' = s) (count : Nat)
    (bytes : List UInt8) (s : S) :
    ∃ k ≤ count, ∃ items middle, (readAll reader k).run bytes = .ok (items, middle) ∧
      (applyAll apply items).exec s =
        (.ok (), ((sections reader apply count bytes).exec s).2) := by
  induction count generalizing bytes s with
  | zero => exact ⟨0, le_refl 0, [], bytes, rfl, rfl⟩
  | succ count inductionHypothesis =>
      have stopped : ((sections reader apply (count + 1) bytes).exec s).2 = s →
          ∃ k ≤ count + 1, ∃ items middle,
            (readAll reader k).run bytes = .ok (items, middle) ∧ (applyAll apply items).exec s =
              (.ok (), ((sections reader apply (count + 1) bytes).exec s).2) := by
        intro same
        rw [same]
        exact ⟨0, Nat.zero_le _, [], bytes, rfl, rfl⟩
      cases read : reader.run bytes with
      | error e =>
          apply stopped
          rw [exec_sections_of_unread read]
      | ok result =>
          rw [exec_sections_of_read read] at stopped ⊢
          cases applied : (apply result.1).exec s with
          | mk outcome next =>
              cases outcome with
              | error e =>
                  apply stopped
                  rw [Stateful.exec_bind_of_error applied]
                  exact frugal _ _ _ _ applied
              | ok _ =>
                  rw [Stateful.exec_bind_of_ok applied]
                  obtain ⟨k, below, items, middle, all, appliedAll⟩ :=
                    inductionHypothesis result.2 next
                  refine ⟨k + 1, Nat.succ_le_succ below, result.1 :: items, middle,
                    readAll_succ_eq_ok.mpr ⟨_, _, _, read, all, rfl⟩, ?_⟩
                  rw [applyAll, Stateful.exec_bind_of_ok applied]
                  exact appliedAll

/-- The first records of a section that can be read and applied are, whatever
comes after them. -/
theorem exec_sections_of_prefix {k count : Nat} (below : k ≤ count) {bytes middle : List UInt8}
    {items : List α} {s s' : S} (all : (readAll reader k).run bytes = .ok (items, middle))
    (applied : (applyAll apply items).exec s = (.ok (), s')) :
    (sections reader apply count bytes).exec s =
      (sections reader apply (count - k) middle).exec s' := by
  induction k generalizing count bytes items s with
  | zero =>
      obtain ⟨rfl, rfl⟩ := Prod.mk.inj (Except.ok.inj all)
      cases applied
      rfl
  | succ k inductionHypothesis =>
      obtain ⟨more, rfl⟩ := Nat.exists_eq_add_of_le below
      obtain ⟨a, rest, others, first, later, rfl⟩ := readAll_succ_eq_ok.mp all
      obtain ⟨_, next, appliedFirst, appliedOthers⟩ := Stateful.bind_eq_ok.mp applied
      have counts : k + 1 + more = k + more + 1 := by omega
      have left : k + more + 1 - (k + 1) = k + more - k := by omega
      rw [counts, exec_sections_of_read first, Stateful.exec_bind_of_ok appliedFirst, left]
      exact inductionHypothesis (Nat.le_add_right k more) later appliedOthers

/-- A section fails at the first record that cannot be read or applied, after the
ones before it were. -/
theorem sections_eq_error {count : Nat} {bytes : List UInt8} {s : S} {e : ε} :
    ((sections reader apply count bytes).exec s).1 = .error e ↔
      ∃ k < count, ∃ items middle s', (readAll reader k).run bytes = .ok (items, middle) ∧
        (applyAll apply items).exec s = (.ok (), s') ∧
        (reader.run middle = .error e ∨
          ∃ a rest, reader.run middle = .ok (a, rest) ∧ ((apply a).exec s').1 = .error e) := by
  induction count generalizing bytes s with
  | zero =>
      refine ⟨nofun, ?_⟩
      rintro ⟨k, below, _⟩
      omega
  | succ count inductionHypothesis =>
      constructor
      · intro failed
        cases read : reader.run bytes with
        | error other =>
            rw [exec_sections_of_unread read] at failed
            obtain rfl := Except.error.inj failed
            exact ⟨0, Nat.succ_pos _, [], bytes, s, rfl, rfl, .inl read⟩
        | ok result =>
            rw [exec_sections_of_read read, Stateful.exec_bind] at failed
            cases ended : (apply result.1).exec s with
            | mk outcome next =>
                rw [ended] at failed
                cases outcome with
                | error other =>
                    obtain rfl := Except.error.inj failed
                    refine ⟨0, Nat.succ_pos _, [], bytes, s, rfl, rfl, .inr ⟨_, _, read, ?_⟩⟩
                    rw [ended]
                | ok _ =>
                    obtain ⟨k, below, items, middle, s', all, applied, stops⟩ :=
                      inductionHypothesis.mp failed
                    refine ⟨k + 1, Nat.succ_lt_succ below, result.1 :: items, middle, s',
                      readAll_succ_eq_ok.mpr ⟨_, _, _, read, all, rfl⟩, ?_, stops⟩
                    rw [applyAll, Stateful.exec_bind_of_ok ended]
                    exact applied
      · rintro ⟨k, below, items, middle, s', all, applied, stops⟩
        cases k with
        | zero =>
            obtain ⟨rfl, rfl⟩ := Prod.mk.inj (Except.ok.inj all)
            cases applied
            rcases stops with unread | ⟨a, rest, read, refused⟩
            · rw [exec_sections_of_unread unread]
            · rw [exec_sections_of_read read, Stateful.exec_bind]
              generalize (apply a).exec s = ended at refused
              obtain ⟨outcome, next⟩ := ended
              cases refused
              rfl
        | succ k =>
            obtain ⟨a, rest, others, first, later, rfl⟩ := readAll_succ_eq_ok.mp all
            obtain ⟨_, next, appliedFirst, appliedOthers⟩ := Stateful.bind_eq_ok.mp applied
            rw [exec_sections_of_read first, Stateful.exec_bind_of_ok appliedFirst]
            exact inductionHypothesis.mpr ⟨k, Nat.lt_of_succ_lt_succ below, others, middle, s',
              later, appliedOthers, stops⟩

end ByteReader
