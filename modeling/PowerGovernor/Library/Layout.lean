import Mathlib.Algebra.Order.BigOperators.Group.List
import Mathlib.Computability.Language
import Mathlib.Order.CompletePartialOrder
import PowerGovernor.Library.Codec

/-!
Layouts of byte strings.

Owns readers that accept exactly the byte strings of a layout: the relation between
a reader, the values it can return and the strings that spell them, with a rule for
each way to compose readers field by field. A layout is the product of the languages
of its fields.
-/

set_option autoImplicit false

namespace Layout

variable {ε φ α β : Type}

/-- The reader returns `a` where `Q` holds, from the strings of the language and from
no other. -/
def Takes (reader : ByteReader ε α) (a : α) (Q : Prop) (language : Language UInt8) : Prop :=
  ∀ bytes rest, reader.run bytes = .ok (a, rest) ↔ Q ∧ bytes ∈ language * {rest}

/-- What an encoder that may fail emits. -/
def emitted (chunk : Except φ (List UInt8)) : Language UInt8 := {bytes | chunk = .ok bytes}

theorem mem_emitted {chunk : Except φ (List UInt8)} {bytes : List UInt8} :
    bytes ∈ emitted chunk ↔ chunk = .ok bytes := Iff.rfl

theorem emitted_ok (chunk : List UInt8) : emitted (.ok chunk : Except φ _) = {chunk} := by
  apply Language.ext
  intro bytes
  constructor
  · intro written
    exact (Except.ok.inj written).symm
  · rintro rfl
    rfl

theorem mem_mul_singleton {language : Language UInt8} {bytes rest : List UInt8} :
    bytes ∈ language * {rest} ↔ ∃ chunk ∈ language, chunk ++ rest = bytes := by
  rw [Language.mem_mul]
  constructor
  · rintro ⟨chunk, spelled, other, rfl, same⟩
    exact ⟨chunk, spelled, same⟩
  · rintro ⟨chunk, spelled, same⟩
    exact ⟨chunk, spelled, rest, rfl, same⟩

/-- A string of two languages ends in a string of the second. -/
theorem mem_mul_iff {first second : Language UInt8} {bytes : List UInt8} :
    bytes ∈ first * second ↔ ∃ rest ∈ second, bytes ∈ first * {rest} := by
  rw [Language.mem_mul]
  constructor
  · rintro ⟨chunk, spelled, rest, spelledRest, same⟩
    exact ⟨rest, spelledRest, mem_mul_singleton.mpr ⟨chunk, spelled, same⟩⟩
  · rintro ⟨rest, spelledRest, split⟩
    obtain ⟨chunk, spelled, same⟩ := mem_mul_singleton.mp split
    exact ⟨chunk, spelled, rest, spelledRest, same⟩

theorem singleton_mul_singleton (left right : List UInt8) :
    ({left} : Language UInt8) * {right} = {left ++ right} := by
  apply Language.ext
  intro bytes
  rw [mem_mul_singleton]
  constructor
  · rintro ⟨_, rfl, same⟩
    exact same.symm
  · rintro same
    exact ⟨left, rfl, same.symm⟩

/-- What concatenated chunks emit is the product of what each emits. -/
theorem mem_prod_map_emitted {chunks : List (Except φ (List UInt8))} {bytes : List UInt8} :
    bytes ∈ (chunks.map emitted).prod ↔ concat chunks = .ok bytes := by
  induction chunks generalizing bytes with
  | nil =>
      rw [List.map_nil, List.prod_nil, Language.mem_one]
      constructor
      · rintro rfl
        rfl
      · intro encoded
        exact (Except.ok.inj encoded).symm
  | cons chunk chunks inductionHypothesis =>
      rw [List.map_cons, List.prod_cons, Language.mem_mul, concat_cons_eq_ok]
      constructor
      · rintro ⟨first, firstOk, rest, restOk, rfl⟩
        exact ⟨first, rest, firstOk, inductionHypothesis.mp restOk, rfl⟩
      · rintro ⟨first, rest, firstOk, restOk, rfl⟩
        exact ⟨first, firstOk, rest, inductionHypothesis.mpr restOk, rfl⟩

namespace Takes

variable {reader : ByteReader ε α} {P : α → Prop} {S : α → Language UInt8}

/-- A field that the reader checks, followed by a reader that remembers it. -/
theorem checked (head : ∀ a, Takes reader a (P a) (S a)) {next : α → ByteReader ε β} {b : β}
    {Q : Prop} {fields : List (Language UInt8)} {v : α} (within : Q → P v)
    (tail : ∀ a, P a → Takes (next a) b (v = a ∧ Q) fields.prod) :
    Takes (reader >>= next) b Q (S v :: fields).prod := by
  intro bytes rest
  rw [ByteReader.run_bind_eq_ok, List.prod_cons, mul_assoc, mem_mul_iff]
  constructor
  · rintro ⟨a, middle, read, readRest⟩
    obtain ⟨holds, spelled⟩ := (head a bytes middle).mp read
    obtain ⟨⟨rfl, admitted⟩, spelledRest⟩ := (tail a holds middle rest).mp readRest
    exact ⟨admitted, middle, spelledRest, spelled⟩
  · rintro ⟨admitted, middle, spelledRest, spelled⟩
    have holds := within admitted
    exact ⟨v, middle, (head v bytes middle).mpr ⟨holds, spelled⟩,
      (tail v holds middle rest).mpr ⟨⟨rfl, admitted⟩, spelledRest⟩⟩

/-- A field that the reader takes as it is. -/
theorem field (head : ∀ a, Takes reader a True (S a)) {next : α → ByteReader ε β} {b : β}
    {Q : Prop} {fields : List (Language UInt8)} {v : α}
    (tail : ∀ a, Takes (next a) b (v = a ∧ Q) fields.prod) :
    Takes (reader >>= next) b Q (S v :: fields).prod :=
  checked head (fun _ => trivial) fun a _ => tail a

/-- After the last field the value is determined. -/
theorem done {Q : Prop} {b other : β} (determined : Q ↔ other = b) :
    Takes (pure other : ByteReader ε β) b Q ([] : List (Language UInt8)).prod := by
  intro bytes rest
  rw [determined, List.prod_nil, one_mul]
  constructor
  · rintro ⟨⟩
    exact ⟨rfl, rfl⟩
  · rintro ⟨rfl, rfl⟩
    rfl

/-- A function of what is read that loses nothing. -/
theorem map (head : ∀ a, Takes reader a (P a) (S a)) {f : α → β} {g : β → α}
    (back : ∀ a, P a → g (f a) = a) (forth : ∀ b, P (g b) ∧ f (g b) = b) (b : β) :
    Takes (reader >>= fun a => pure (f a)) b True (S (g b)) := by
  intro bytes rest
  rw [ByteReader.run_bind_eq_ok]
  constructor
  · rintro ⟨a, middle, read, returned⟩
    obtain ⟨rfl, rfl⟩ := Prod.mk.inj (Except.ok.inj returned)
    obtain ⟨holds, spelled⟩ := (head a bytes middle).mp read
    rw [back a holds]
    exact ⟨trivial, spelled⟩
  · rintro ⟨_, spelled⟩
    obtain ⟨holds, same⟩ := forth b
    refine ⟨g b, rest, (head _ bytes rest).mpr ⟨holds, spelled⟩, ?_⟩
    rw [same]
    rfl

/-- A check of what is read. -/
theorem filter (head : ∀ a, Takes reader a True (S a)) {Q : α → Prop} [DecidablePred Q]
    (failed : ε) (a : α) :
    Takes (reader >>= fun a => if Q a then pure a else throw failed) a (Q a) (S a) := by
  intro bytes rest
  rw [ByteReader.run_bind_eq_ok]
  constructor
  · rintro ⟨a', middle, read, returned⟩
    by_cases passes : Q a'
    · rw [if_pos passes] at returned
      obtain ⟨rfl, rfl⟩ := Prod.mk.inj (Except.ok.inj returned)
      exact ⟨passes, ((head _ bytes _).mp read).2⟩
    · rw [if_neg passes] at returned
      cases returned
  · rintro ⟨passes, spelled⟩
    refine ⟨a, rest, (head a bytes rest).mpr ⟨trivial, spelled⟩, ?_⟩
    rw [if_pos passes]
    rfl

/-- A reader that has to come to the end of its bytes. -/
theorem run_nil {a : α} {Q : Prop} {language : Language UInt8} (takes : Takes reader a Q language)
    {bytes : List UInt8} : reader.run bytes = .ok (a, []) ↔ Q ∧ bytes ∈ language := by
  rw [takes]
  exact and_congr_right fun _ => by rw [show ({[]} : Language UInt8) = 1 from rfl, mul_one]

end Takes

/-- A larger language for each field makes a larger layout. -/
theorem prod_mono {left right : List (Language UInt8)} (each : List.Forall₂ (· ≤ ·) left right) :
    left.prod ≤ right.prod := each.prod_le_prod'

/-! ## Words and bytes -/

/-- A word is read from the bytes that write it. -/
theorem takes_word (failed : ε) (width v : Nat) :
    Takes (ByteReader.word failed width) v (v < 256 ^ width) {LittleEndian.encode width v} := by
  intro bytes rest
  rw [mem_mul_singleton]
  constructor
  · intro read
    change (if _ then _ else _) = _ at read
    by_cases short : bytes.length < width
    · rw [if_pos short] at read
      cases read
    · rw [if_neg short] at read
      obtain ⟨rfl, rfl⟩ := Prod.mk.inj (Except.ok.inj read)
      have length : (bytes.take width).length = width := by
        rw [List.length_take]
        omega
      have below := LittleEndian.decode_lt (bytes.take width)
      have written := LittleEndian.encode_decode (bytes.take width)
      rw [length] at below written
      exact ⟨below, _, written.symm, List.take_append_drop width bytes⟩
  · rintro ⟨below, _, rfl, rfl⟩
    exact ByteReader.carries_word failed width below rest

theorem takes_uint8 (failed : ε) (v : UInt8) :
    Takes (ByteReader.word failed 1 >>= fun v => pure (UInt8.ofNat v)) v True
      {LittleEndian.encode 1 v.toNat} :=
  Takes.map (takes_word failed 1) (fun _ below => UInt8.toNat_ofNat_of_lt' below)
    (fun v => ⟨v.toNat_lt, UInt8.ofNat_toNat⟩) v

theorem takes_uint16 (failed : ε) (v : UInt16) :
    Takes (ByteReader.word failed 2 >>= fun v => pure (UInt16.ofNat v)) v True
      {LittleEndian.encode 2 v.toNat} :=
  Takes.map (takes_word failed 2) (fun _ below => UInt16.toNat_ofNat_of_lt' below)
    (fun v => ⟨v.toNat_lt, UInt16.ofNat_toNat⟩) v

theorem takes_uint32 (failed : ε) (v : UInt32) :
    Takes (ByteReader.word failed 4 >>= fun v => pure (UInt32.ofNat v)) v True
      {LittleEndian.encode 4 v.toNat} :=
  Takes.map (takes_word failed 4) (fun _ below => UInt32.toNat_ofNat_of_lt' below)
    (fun v => ⟨v.toNat_lt, UInt32.ofNat_toNat⟩) v

theorem takes_uint64 (failed : ε) (v : UInt64) :
    Takes (ByteReader.word failed 8 >>= fun v => pure (UInt64.ofNat v)) v True
      {LittleEndian.encode 8 v.toNat} :=
  Takes.map (takes_word failed 8) (fun _ below => UInt64.toNat_ofNat_of_lt' below)
    (fun v => ⟨v.toNat_lt, UInt64.ofNat_toNat⟩) v

/-- A fixed number of bytes is read as it is. -/
theorem takes_raw (failed : ε) (count : Nat) (v : List UInt8) :
    Takes (ByteReader.raw failed count) v (v.length = count) {v} := by
  intro bytes rest
  rw [mem_mul_singleton]
  constructor
  · intro read
    change (if _ then _ else _) = _ at read
    by_cases short : bytes.length < count
    · rw [if_pos short] at read
      cases read
    · rw [if_neg short] at read
      obtain ⟨rfl, rfl⟩ := Prod.mk.inj (Except.ok.inj read)
      refine ⟨?_, _, rfl, List.take_append_drop count bytes⟩
      rw [List.length_take]
      omega
  · rintro ⟨rfl, _, rfl, rfl⟩
    exact ByteReader.carries_raw failed _ rest

end Layout
