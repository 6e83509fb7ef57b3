import Mathlib.Data.UInt
import PowerGovernor.Library.Codec

/-!
Reading a buffer through a position.

Owns buffers in memory, readers that keep a 64-bit position and load single bytes at it, a
record of every index they load from, and the relation of such a reader to one that consumes
a byte list. A related reader never leaves its buffer, however it ends.

A load outside the buffer would return an arbitrary byte, here zero; the record shows it.
-/

set_option autoImplicit false

/-- Bytes in memory. The address after the last one exists, so a 64-bit size is not the
greatest one. -/
structure Buffer where
  bytes : List UInt8
  fits : bytes.length + 1 < 18446744073709551616

namespace Buffer

/-- The size as the reader is given it. -/
def size (b : Buffer) : UInt64 := UInt64.ofNat b.bytes.length

@[simp] theorem toNat_size (b : Buffer) : b.size.toNat = b.bytes.length := by
  have fits := b.fits
  apply UInt64.toNat_ofNat_of_lt'
  show b.bytes.length < 18446744073709551616
  omega

/-- The byte a pointer to the buffer and an offset load. -/
def load (b : Buffer) (i : Nat) : UInt8 := b.bytes.getD i 0

end Buffer

/-- A position, and the indices that were loaded from so far. -/
structure Cursor where
  pos : UInt64
  touched : List Nat

namespace Cursor

def start : Cursor := ⟨0, []⟩

/-- The position is at most the length and every index loaded from is below it. -/
def Within (b : Buffer) (c : Cursor) : Prop :=
  c.pos.toNat ≤ b.bytes.length ∧ ∀ i ∈ c.touched, i < b.bytes.length

theorem within_start (b : Buffer) : start.Within b := ⟨Nat.zero_le _, nofun⟩

/-- The bytes from the position on. -/
def rest (b : Buffer) (c : Cursor) : List UInt8 := b.bytes.drop c.pos.toNat

end Cursor

/-- A reader that may fail and keeps its position when it does. -/
abbrev Reading := Stateful Unit Cursor

namespace Reading

variable (b : Buffer)

/-- Load the byte at the position and step over it, if there is room for one more. -/
def byte : Reading UInt8 := do
  let c ← get
  if c.pos + 1 ≤ b.size then
    set (⟨c.pos + 1, c.pos.toNat :: c.touched⟩ : Cursor)
    return b.load c.pos.toNat
  else throw ()

/-- The loop over the bytes of a word, the least significant first. -/
def wordLoop : Nat → Nat → Nat → Reading Nat
  | 0, _, r => pure r
  | left + 1, i, r => do
    let v ← byte b
    wordLoop left (i + 1) (r ||| v.toNat <<< (8 * i))

/-- A little-endian word. -/
def word (width : Nat) : Reading Nat := wordLoop b width 0 0

/-- Copy a number of bytes from the position, if so many remain, and step over them. -/
def block (len : UInt64) : Reading (List UInt8) := do
  let c ← get
  if b.size - c.pos < len then throw ()
  else
    set (⟨c.pos + len, List.range' c.pos.toNat len.toNat ++ c.touched⟩ : Cursor)
    return (List.range' c.pos.toNat len.toNat).map b.load

/-! ## Within the buffer -/

variable {b} {ε α β : Type}

/-- From a position within the buffer the reader returns what the list reader takes from the
rest, or fails with it, and ends within the buffer in both cases. -/
def Follows (b : Buffer) (x : Reading α) (reader : ByteReader ε α) : Prop :=
  ∀ c, c.Within b →
    (∃ a c', x.exec c = (.ok a, c') ∧ c'.Within b ∧ reader.run (c.rest b) = .ok (a, c'.rest b)) ∨
      ∃ c' e, x.exec c = (.error (), c') ∧ c'.Within b ∧ reader.run (c.rest b) = .error e

/-- A reader that follows a list reader stays within its buffer, successful or not. -/
theorem Follows.preserves {x : Reading α} {reader : ByteReader ε α} (follows : Follows b x reader) :
    x.Preserves (Cursor.Within b) := by
  intro c within
  rcases follows c within with ⟨a, c', ended, kept, _⟩ | ⟨c', e, ended, kept, _⟩
  · rw [ended]
    exact kept
  · rw [ended]
    exact kept

theorem follows_pure (a : α) : Follows b (pure a) (pure a : ByteReader ε α) :=
  fun c within => .inl ⟨a, c, rfl, within, rfl⟩

theorem Follows.bind {x : Reading α} {reader : ByteReader ε α} {next : α → Reading β}
    {others : α → ByteReader ε β} (first : Follows b x reader)
    (second : ∀ a, Follows b (next a) (others a)) : Follows b (x >>= next) (reader >>= others) := by
  intro c within
  rcases first c within with ⟨a, c', ended, kept, read⟩ | ⟨c', e, ended, kept, failed⟩
  · rw [Stateful.exec_bind_of_ok ended, StateT.run_bind, read]
    exact second a c' kept
  · refine .inr ⟨c', e, Stateful.exec_bind_of_error ended next, kept, ?_⟩
    rw [StateT.run_bind, failed]
    rfl

/-- A function of what is read. -/
theorem Follows.map {x : Reading α} {reader : ByteReader ε α} (follows : Follows b x reader)
    (f : α → β) : Follows b (x >>= fun a => pure (f a)) (reader >>= fun a => pure (f a)) :=
  follows.bind fun a => follows_pure (f a)

/-! ## Words and blocks -/

theorem exec_byte {c : Cursor} (within : c.Within b) :
    (∃ v rest c', (byte b).exec c = (.ok v, c') ∧ c'.Within b ∧ c.rest b = v :: rest ∧
        c'.rest b = rest) ∨
      (byte b).exec c = (.error (), c) ∧ c.rest b = [] := by
  obtain ⟨low, inside⟩ := within
  have fits := b.fits
  have step : (c.pos + 1).toNat = c.pos.toNat + 1 := by
    rw [UInt64.toNat_add]
    exact Nat.mod_eq_of_lt (show c.pos.toNat + 1 < 18446744073709551616 by omega)
  have room : c.pos + 1 ≤ b.size ↔ c.pos.toNat < b.bytes.length := by
    rw [UInt64.le_iff_toNat_le, step, b.toNat_size]
    exact Iff.rfl
  by_cases more : c.pos.toNat < b.bytes.length
  · have ended : (byte b).exec c =
        (.ok (b.load c.pos.toNat), ⟨c.pos + 1, c.pos.toNat :: c.touched⟩) := by
      unfold byte
      rw [Stateful.exec_bind_of_ok (Stateful.exec_get c), if_pos (room.mpr more)]
      rfl
    have split : c.rest b = b.load c.pos.toNat :: b.bytes.drop (c.pos.toNat + 1) := by
      unfold Cursor.rest
      rw [List.drop_eq_getElem_cons more]
      simp [Buffer.load, more]
    refine .inl ⟨_, _, _, ended, ⟨?_, ?_⟩, split, ?_⟩
    · show (c.pos + 1).toNat ≤ _
      rw [step]
      exact more
    · exact List.forall_mem_cons.mpr ⟨more, inside⟩
    · unfold Cursor.rest
      rw [step]
  · refine .inr ⟨?_, List.drop_eq_nil_of_le (not_lt.mp more)⟩
    unfold byte
    rw [Stateful.exec_bind_of_ok (Stateful.exec_get c), if_neg (mt room.mp more)]
    rfl

/-- A single byte is a word of width one. -/
theorem follows_byte (failed : ε) :
    Follows b (byte b) (do return UInt8.ofNat (← ByteReader.word failed 1)) := by
  intro c within
  rcases exec_byte within with ⟨v, rest, c', loaded, kept, split, others⟩ | ⟨ended, empty⟩
  · refine .inl ⟨v, c', loaded, kept, ?_⟩
    rw [split, others, StateT.run_bind]
    show Except.ok (UInt8.ofNat (LittleEndian.decode [v]), rest) = _
    simp [LittleEndian.decode]
  · refine .inr ⟨c, failed, ended, within, ?_⟩
    rw [empty]
    rfl

/-- The loop puts together the number that the next bytes stand for, above what it has. -/
theorem exec_wordLoop (left i r : Nat) (below : r < 256 ^ i) {c : Cursor} (within : c.Within b) :
    (∃ c', (wordLoop b left i r).exec c =
        (.ok (r + 256 ^ i * LittleEndian.decode ((c.rest b).take left)), c') ∧ c'.Within b ∧
        left ≤ (c.rest b).length ∧ c'.rest b = (c.rest b).drop left) ∨
      ∃ c', (wordLoop b left i r).exec c = (.error (), c') ∧ c'.Within b ∧
        (c.rest b).length < left := by
  induction left generalizing i r c with
  | zero => exact .inl ⟨c, by simp [wordLoop, LittleEndian.decode], within, Nat.zero_le _, rfl⟩
  | succ left inductionHypothesis =>
      rcases exec_byte within with ⟨v, rest, c', loaded, kept, split, others⟩ | ⟨failed, empty⟩
      · have joined : r ||| v.toNat <<< (8 * i) = r + 256 ^ i * v.toNat := by
          have power : 2 ^ (8 * i) = 256 ^ i := by
            rw [Nat.pow_mul]
          rw [Nat.or_comm, ← Nat.shiftLeft_add_eq_or_of_lt (by rwa [power]), Nat.shiftLeft_eq,
            power, Nat.mul_comm, Nat.add_comm]
        have bounded : r + 256 ^ i * v.toNat < 256 ^ (i + 1) := by
          have byte := v.toNat_lt
          have scaled : 256 ^ i * v.toNat ≤ 256 ^ i * 255 := Nat.mul_le_mul_left _ (by omega)
          rw [Nat.pow_succ]
          omega
        have looped : (wordLoop b (left + 1) i r).exec c =
            (wordLoop b left (i + 1) (r + 256 ^ i * v.toNat)).exec c' := by
          rw [wordLoop, Stateful.exec_bind_of_ok loaded, joined]
        rw [looped, split]
        rcases inductionHypothesis (i + 1) _ bounded kept with
          ⟨c'', read, kept', long, after⟩ | ⟨c'', stopped, kept', short⟩
        · refine .inl ⟨c'', ?_, kept', ?_, ?_⟩
          · rw [read, others, List.take_succ_cons, LittleEndian.decode, Nat.pow_succ]
            congr 2
            ring
          · rw [others] at long
            rw [List.length_cons]
            omega
          · rw [after, others, List.drop_succ_cons]
        · refine .inr ⟨c'', stopped, kept', ?_⟩
          rw [others] at short
          rw [List.length_cons]
          omega
      · refine .inr ⟨c, ?_, within, by rw [empty]; exact Nat.succ_pos left⟩
        rw [wordLoop, Stateful.exec_bind_of_error failed]

theorem follows_word (failed : ε) (width : Nat) :
    Follows b (word b width) (ByteReader.word failed width) := by
  intro c within
  rcases exec_wordLoop width 0 0 Nat.one_pos within with
    ⟨c', read, kept, long, after⟩ | ⟨c', stopped, kept, short⟩
  · refine .inl ⟨_, c', read, kept, ?_⟩
    show (if (c.rest b).length < width then _ else _) = _
    rw [if_neg (not_lt.mpr long), after]
    simp
  · refine .inr ⟨c', failed, stopped, kept, ?_⟩
    show (if (c.rest b).length < width then _ else _) = _
    rw [if_pos short]

/-- The bytes loaded from a range that is within the buffer. -/
theorem map_load_range' {start count : Nat} (inside : start + count ≤ b.bytes.length) :
    (List.range' start count).map b.load = (b.bytes.drop start).take count := by
  apply List.ext_getElem
  · simp
    omega
  · intro i left right
    simp only [List.length_map, List.length_range'] at left
    have below : start + i < b.bytes.length := by omega
    simp [Buffer.load, below]

theorem follows_block (failed : ε) (len : UInt64) :
    Follows b (block b len) (ByteReader.raw failed len.toNat) := by
  intro c within
  obtain ⟨low, inside⟩ := within
  have remains : (b.size - c.pos).toNat = (c.rest b).length := by
    have le : c.pos ≤ b.size := by
      rw [UInt64.le_iff_toNat_le, b.toNat_size]
      exact low
    rw [UInt64.toNat_sub_of_le _ _ le, b.toNat_size]
    exact List.length_drop.symm
  have short : b.size - c.pos < len ↔ (c.rest b).length < len.toNat := by
    rw [UInt64.lt_iff_toNat_lt, remains]
  by_cases fails : (c.rest b).length < len.toNat
  · refine .inr ⟨c, failed, ?_, ⟨low, inside⟩, if_pos fails⟩
    unfold block
    rw [Stateful.exec_bind_of_ok (Stateful.exec_get c), if_pos (short.mpr fails)]
    rfl
  · have room : c.pos.toNat + len.toNat ≤ b.bytes.length := by
      have length : (c.rest b).length = b.bytes.length - c.pos.toNat := List.length_drop
      omega
    have step : (c.pos + len).toNat = c.pos.toNat + len.toNat := by
      have fits := b.fits
      rw [UInt64.toNat_add]
      exact Nat.mod_eq_of_lt (show c.pos.toNat + len.toNat < 18446744073709551616 by omega)
    refine .inl ⟨(c.rest b).take len.toNat,
      ⟨c.pos + len, List.range' c.pos.toNat len.toNat ++ c.touched⟩, ?_, ⟨?_, ?_⟩, ?_⟩
    · unfold block
      rw [Stateful.exec_bind_of_ok (Stateful.exec_get c), if_neg (mt short.mp fails),
        map_load_range' room]
      rfl
    · show (c.pos + len).toNat ≤ _
      rw [step]
      exact room
    · rw [List.forall_mem_append]
      refine ⟨fun i member => ?_, inside⟩
      have bounds := List.mem_range'_1.mp member
      omega
    · show (if (c.rest b).length < len.toNat then _ else _) = _
      rw [if_neg fails]
      unfold Cursor.rest
      rw [step, List.drop_drop]

end Reading
