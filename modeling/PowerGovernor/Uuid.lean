import PowerGovernor.Json

/-!
The text of a UUID.

Owns the 128-bit identifier of a device, its two hexadecimal codecs, the texts that are read
as one, and the round trip.
-/

set_option autoImplicit false

namespace PowerGovernor

structure Uuid where
  bytes : Bytes
  sized : bytes.length = 16
deriving DecidableEq

namespace Uuid

@[ext] theorem ext {left right : Uuid} (same : left.bytes = right.bytes) : left = right := by
  cases left
  cases right
  simp_all

def zero : Uuid := ⟨List.replicate 16 0, by decide⟩

/-! ## Codec -/

/-- The value of a hexadecimal digit, the first three branches of the loop. -/
def hexNibble? (c : UInt8) : Option Nat :=
  if 48 ≤ c ∧ c ≤ 57 then some (c.toNat - 48)
  else if 97 ≤ c ∧ c ≤ 102 then some (c.toNat - 97 + 10)
  else if 65 ≤ c ∧ c ≤ 70 then some (c.toNat - 65 + 10)
  else none

/-- A dash or a colon. -/
def isSeparator (c : UInt8) : Bool := c == 45 || c == 58

/-- `u.bytes_[byte] = static_cast<std::uint8_t>(u.bytes_[byte] | (v << shift))`. -/
def orNibble (u : Uuid) (nibbles v : Nat) : Uuid where
  bytes := u.bytes.modify (nibbles / 2)
    fun byte => byte ||| UInt8.ofNat (v <<< if nibbles % 2 = 0 then 4 else 0)
  sized := by rw [List.length_modify, u.sized]

/-- The loop of `from_hex`. -/
def fromHexLoop : Bytes → Uuid → Nat → Except Fault (Uuid × Nat)
  | [], u, nibbles => .ok (u, nibbles)
  | c :: s, u, nibbles =>
    match hexNibble? c with
    | none =>
      if isSeparator c then fromHexLoop s u nibbles
      else .error (.invalidArgument "pg::Uuid::from_hex: invalid character")
    | some v =>
      if 32 ≤ nibbles then .error (.invalidArgument "pg::Uuid::from_hex: too many hex digits")
      else fromHexLoop s (u.orNibble nibbles v) (nibbles + 1)

def fromHex (s : Bytes) : Except Fault Uuid := do
  let (u, nibbles) ← fromHexLoop s zero 0
  if nibbles ≠ 32 then throw (.invalidArgument "pg::Uuid::from_hex: expected 32 hex digits")
  return u

/-- The loop of `to_hex` from the byte at an index on. -/
def toHexLoop : Nat → Bytes → Bytes
  | _, [] => []
  | i, byte :: bytes =>
    let digits := hexDigit (byte >>> 4).toNat :: hexDigit (byte &&& 0x0F).toNat ::
      toHexLoop (i + 1) bytes
    if i = 4 ∨ i = 6 ∨ i = 8 ∨ i = 10 then 45 :: digits else digits

def toHex (u : Uuid) : Bytes := toHexLoop 0 u.bytes

/-! ## What the texts say -/

/-- A hexadecimal digit. -/
def IsHexDigit (c : UInt8) : Prop :=
  48 ≤ c ∧ c ≤ 57 ∨ 97 ≤ c ∧ c ≤ 102 ∨ 65 ≤ c ∧ c ≤ 70

instance (c : UInt8) : Decidable (IsHexDigit c) := by
  unfold IsHexDigit
  infer_instance

def lowerCase (c : UInt8) : UInt8 := if 65 ≤ c ∧ c ≤ 90 then c + 32 else c

/-- A text without its separators. -/
def stripped (s : Bytes) : Bytes := s.filter fun c => !isSeparator c

/-- Digits with a dash before the ninth, the thirteenth, the seventeenth and the
twenty-first, from an index on. -/
def dashed : Nat → Bytes → Bytes
  | _, [] => []
  | i, c :: s =>
    let digits := c :: dashed (i + 1) s
    if i = 8 ∨ i = 12 ∨ i = 16 ∨ i = 20 then 45 :: digits else digits

/-- The bytes that nibbles are packed into, the high one first. -/
def packed : List Nat → Bytes
  | high :: low :: nibbles => UInt8.ofNat (16 * high + low) :: packed nibbles
  | _ => []

/-- The nibbles of bytes. -/
def nibblesOf (bytes : Bytes) : List Nat :=
  bytes.flatMap fun byte : UInt8 => [(byte >>> 4).toNat, (byte &&& 0x0F).toNat]

/-- The nibbles that a text spells. -/
def Spells (s : Bytes) (nibbles : List Nat) : Prop :=
  (stripped s).map hexNibble? = nibbles.map some

/-! ## Digits -/

/-- A fact about bytes from its 256 cases. -/
private theorem forall_byte {p : UInt8 → Prop} (all : ∀ n < 256, p (UInt8.ofNat n)) (c : UInt8) :
    p c := by
  have holds := all c.toNat c.toNat_lt
  rwa [UInt8.ofNat_toNat] at holds

/-- A digit has a value below sixteen, of which its lower case is the digit, and is no
separator. -/
theorem hexNibble?_spec {c : UInt8} {v : Nat} (digit : hexNibble? c = some v) :
    v < 16 ∧ hexDigit v = lowerCase c ∧ isSeparator c = false := by
  have all : ∀ c : UInt8, (hexNibble? c).all fun v =>
      decide (v < 16 ∧ hexDigit v = lowerCase c ∧ isSeparator c = false) :=
    forall_byte (by decide +kernel)
  have holds := all c
  rw [digit] at holds
  exact of_decide_eq_true holds

theorem hexNibble?_hexDigit {v : Nat} (small : v < 16) : hexNibble? (hexDigit v) = some v := by
  have all : ∀ v < 16, hexNibble? (hexDigit v) = some v := by decide
  exact all v small

theorem isHexDigit_iff {c : UInt8} : IsHexDigit c ↔ ∃ v, hexNibble? c = some v := by
  unfold IsHexDigit hexNibble?
  by_cases decimal : 48 ≤ c ∧ c ≤ 57
  · simp [decimal]
  by_cases lower : 97 ≤ c ∧ c ≤ 102
  · simp [decimal, lower]
  by_cases upper : 65 ≤ c ∧ c ≤ 70
  · simp [decimal, lower, upper]
  · simp [decimal, lower, upper]

/-- A byte with a zero half, and the other half filled in. -/
theorem or_nibble {high low : Nat} (highSmall : high < 16) (lowSmall : low < 16) :
    UInt8.ofNat (16 * 0 + 0) ||| UInt8.ofNat (high <<< 4) = UInt8.ofNat (16 * high + 0) ∧
      UInt8.ofNat (16 * high + 0) ||| UInt8.ofNat (low <<< 0) =
        UInt8.ofNat (16 * high + low) := by
  have all : ∀ high < 16, ∀ low < 16,
      UInt8.ofNat (16 * 0 + 0) ||| UInt8.ofNat (high <<< 4) = UInt8.ofNat (16 * high + 0) ∧
        UInt8.ofNat (16 * high + 0) ||| UInt8.ofNat (low <<< 0) =
          UInt8.ofNat (16 * high + low) := by
    decide +kernel
  exact all high highSmall low lowSmall

theorem nibbles_of_byte (byte : UInt8) :
    (byte >>> 4).toNat < 16 ∧ (byte &&& 0x0F).toNat < 16 ∧
      UInt8.ofNat (16 * (byte >>> 4).toNat + (byte &&& 0x0F).toNat) = byte := by
  revert byte
  exact forall_byte (by decide +kernel)

/-! ## Packing -/

theorem length_nibblesOf (bytes : Bytes) : (nibblesOf bytes).length = 2 * bytes.length := by
  induction bytes with
  | nil => rfl
  | cons byte bytes inductionHypothesis =>
      show (nibblesOf bytes).length + 2 = _
      rw [inductionHypothesis, List.length_cons]
      omega

theorem nibblesOf_lt {bytes : Bytes} {v : Nat} (member : v ∈ nibblesOf bytes) : v < 16 := by
  obtain ⟨byte, _, part⟩ := List.mem_flatMap.mp member
  obtain ⟨high, low, _⟩ := nibbles_of_byte byte
  rcases List.mem_cons.mp part with rfl | part
  · exact high
  · rw [List.mem_singleton.mp part]
    exact low

theorem packed_nibblesOf (bytes : Bytes) : packed (nibblesOf bytes) = bytes := by
  induction bytes with
  | nil => rfl
  | cons byte bytes inductionHypothesis =>
      show UInt8.ofNat _ :: packed (nibblesOf bytes) = _
      rw [(nibbles_of_byte byte).2.2, inductionHypothesis]

theorem nibblesOf_packed {nibbles : List Nat} (even : nibbles.length % 2 = 0)
    (small : ∀ v ∈ nibbles, v < 16) : nibblesOf (packed nibbles) = nibbles := by
  have split : ∀ high < 16, ∀ low < 16, (UInt8.ofNat (16 * high + low) >>> 4).toNat = high ∧
      (UInt8.ofNat (16 * high + low) &&& 0x0F).toNat = low := by decide +kernel
  fun_induction packed nibbles with
  | case1 high low nibbles inductionHypothesis =>
      obtain ⟨highSmall, small⟩ := List.forall_mem_cons.mp small
      obtain ⟨lowSmall, small⟩ := List.forall_mem_cons.mp small
      obtain ⟨first, second⟩ := split high highSmall low lowSmall
      rw [List.length_cons, List.length_cons] at even
      show _ :: _ :: nibblesOf (packed nibbles) = _
      rw [first, second, inductionHypothesis (by omega) small]
  | case2 nibbles short =>
      cases nibbles with
      | nil => rfl
      | cons high rest =>
          cases rest with
          | nil => cases even
          | cons low rest => exact absurd rfl (short high low rest)

/-- A nibble is put where the next zero is. -/
theorem modify_packed {nibbles : List Nat} {v zeros : Nat} (small : ∀ w ∈ nibbles, w < 16)
    (vSmall : v < 16) (room : (nibbles.length + zeros) % 2 = 1) :
    (packed (nibbles ++ List.replicate (zeros + 1) 0)).modify (nibbles.length / 2)
        (fun byte => byte ||| UInt8.ofNat (v <<< if nibbles.length % 2 = 0 then 4 else 0)) =
      packed (nibbles ++ v :: List.replicate zeros 0) := by
  fun_induction packed nibbles with
  | case1 high low nibbles inductionHypothesis =>
      obtain ⟨_, small⟩ := List.forall_mem_cons.mp small
      obtain ⟨_, small⟩ := List.forall_mem_cons.mp small
      rw [List.length_cons, List.length_cons] at room ⊢
      have index : (nibbles.length + 1 + 1) / 2 = nibbles.length / 2 + 1 := by omega
      have parity : (nibbles.length + 1 + 1) % 2 = nibbles.length % 2 := by omega
      rw [index, parity, List.cons_append, List.cons_append, List.cons_append, List.cons_append,
        packed, packed, List.modify_succ_cons, inductionHypothesis small (by omega)]
  | case2 nibbles short =>
      cases nibbles with
      | nil =>
          obtain ⟨zeros, rfl⟩ : ∃ n, zeros = n + 1 := ⟨zeros - 1, by simp at room; omega⟩
          have filled := (or_nibble vSmall vSmall).1
          exact congrArg (· :: packed (List.replicate zeros 0)) filled
      | cons high rest =>
          cases rest with
          | nil =>
              have filled := (or_nibble (small high List.mem_cons_self) vSmall).2
              rw [List.length_singleton, show 1 / 2 = 0 from rfl, if_neg (by decide)]
              exact congrArg (· :: packed (List.replicate zeros 0)) filled
          | cons low rest => exact absurd rfl (short high low rest)

/-! ## What is read -/

/-- An identifier that holds the nibbles read so far and zeros. -/
def Holds (u : Uuid) (nibbles : List Nat) : Prop :=
  nibbles.length ≤ 32 ∧ (∀ v ∈ nibbles, v < 16) ∧
    u.bytes = packed (nibbles ++ List.replicate (32 - nibbles.length) 0)

theorem holds_zero : zero.Holds [] := ⟨by decide, nofun, by decide⟩

theorem Holds.orNibble {u : Uuid} {nibbles : List Nat} {v : Nat} (holds : u.Holds nibbles)
    (room : nibbles.length < 32) (small : v < 16) :
    (u.orNibble nibbles.length v).Holds (nibbles ++ [v]) := by
  obtain ⟨_, smalls, bytes⟩ := holds
  obtain ⟨zeros, left⟩ : ∃ zeros, 32 - nibbles.length = zeros + 1 :=
    ⟨31 - nibbles.length, by omega⟩
  have length : (nibbles ++ [v]).length = nibbles.length + 1 := List.length_append
  refine ⟨by omega, ?_, ?_⟩
  · rw [List.forall_mem_append]
    exact ⟨smalls, List.forall_mem_singleton.mpr small⟩
  · have rest : 32 - (nibbles ++ [v]).length = zeros := by omega
    rw [rest, List.append_assoc]
    show u.bytes.modify _ _ = packed (nibbles ++ v :: List.replicate zeros 0)
    rw [bytes, left]
    exact modify_packed smalls small (by omega)

theorem stripped_cons_of_separator {c : UInt8} (separator : isSeparator c = true) (s : Bytes) :
    stripped (c :: s) = stripped s := List.filter_cons_of_neg (by simp [separator])

theorem stripped_cons {c : UInt8} (kept : isSeparator c = false) (s : Bytes) :
    stripped (c :: s) = c :: stripped s := List.filter_cons_of_pos (by simp [kept])

/-- A digit in front. -/
theorem spells_cons {c : UInt8} {v : Nat} (digit : hexNibble? c = some v) {s : Bytes}
    {nibbles : List Nat} :
    Spells (c :: s) nibbles ↔ ∃ others, nibbles = v :: others ∧ Spells s others := by
  unfold Spells
  rw [stripped_cons (hexNibble?_spec digit).2.2, List.map_cons, digit]
  constructor
  · intro same
    obtain ⟨w, others, rfl, head, tail⟩ := List.map_eq_cons_iff.mp same.symm
    obtain rfl := Option.some.inj head
    exact ⟨others, rfl, tail.symm⟩
  · rintro ⟨others, rfl, same⟩
    rw [same, List.map_cons]

/-- The loop reads on exactly when the rest spells nibbles that fit. -/
theorem fromHexLoop_eq_ok {s : Bytes} {u u' : Uuid} {nibbles : List Nat} {n : Nat}
    (holds : u.Holds nibbles) : fromHexLoop s u nibbles.length = .ok (u', n) ↔
      ∃ more, Spells s more ∧ n = (nibbles ++ more).length ∧ u'.Holds (nibbles ++ more) := by
  induction s generalizing u nibbles with
  | nil =>
      constructor
      · intro ended
        obtain ⟨rfl, rfl⟩ := Prod.mk.inj (Except.ok.inj ended)
        exact ⟨[], rfl, by rw [List.append_nil], by rwa [List.append_nil]⟩
      · rintro ⟨more, spells, rfl, held⟩
        obtain rfl := List.map_eq_nil_iff.mp spells.symm
        rw [List.append_nil] at held ⊢
        have same : u = u' := Uuid.ext (holds.2.2.trans held.2.2.symm)
        rw [same]
        rfl
  | cons c s inductionHypothesis =>
      rw [fromHexLoop]
      cases digit : hexNibble? c with
      | none =>
          dsimp only
          cases separator : isSeparator c with
          | true =>
              unfold Spells
              rw [stripped_cons_of_separator separator]
              exact inductionHypothesis holds
          | false =>
              refine ⟨nofun, ?_⟩
              rintro ⟨more, spells, _⟩
              unfold Spells at spells
              rw [stripped_cons separator, List.map_cons, digit] at spells
              obtain ⟨w, others, _, head, _⟩ := List.map_eq_cons_iff.mp spells.symm
              cases head
      | some v =>
          have small := (hexNibble?_spec digit).1
          dsimp only
          split
          · rename_i full
            refine ⟨nofun, ?_⟩
            rintro ⟨more, spells, _, held⟩
            obtain ⟨others, rfl, _⟩ := (spells_cons digit).mp spells
            have fits := held.1
            rw [List.length_append, List.length_cons] at fits
            omega
          · rename_i room
            have read := inductionHypothesis (holds.orNibble (not_le.mp room) small)
            rw [List.length_append, List.length_singleton] at read
            rw [read]
            constructor
            · rintro ⟨others, spells, length, held⟩
              rw [List.append_assoc] at length held
              exact ⟨v :: others, (spells_cons digit).mpr ⟨others, rfl, spells⟩, length, held⟩
            · rintro ⟨more, spells, length, held⟩
              obtain ⟨others, rfl, spelled⟩ := (spells_cons digit).mp spells
              refine ⟨others, spelled, ?_, ?_⟩
              · rw [List.append_assoc]
                exact length
              · rw [List.append_assoc]
                exact held

theorem spells_small {s : Bytes} {nibbles : List Nat} (spells : Spells s nibbles) :
    ∀ v ∈ nibbles, v < 16 := by
  intro v member
  have listed : some v ∈ (stripped s).map hexNibble? := by
    rw [spells]
    exact List.mem_map_of_mem member
  obtain ⟨c, _, digit⟩ := List.mem_map.mp listed
  exact (hexNibble?_spec digit).1

/-- A text is read as the nibbles it spells, of which there are thirty-two. -/
theorem fromHex_eq_ok {s : Bytes} {u : Uuid} :
    fromHex s = .ok u ↔ ∃ nibbles, Spells s nibbles ∧ nibbles.length = 32 ∧
      u.bytes = packed nibbles := by
  have read : ∀ {u' : Uuid} {n : Nat}, fromHexLoop s zero 0 = .ok (u', n) ↔
      ∃ more, Spells s more ∧ n = more.length ∧ u'.Holds more := fun {u' n} =>
    fromHexLoop_eq_ok holds_zero
  unfold fromHex
  rw [bind_eq_ok]
  constructor
  · rintro ⟨⟨u', n⟩, looped, returned⟩
    obtain ⟨nibbles, spells, rfl, held⟩ := read.mp looped
    by_cases length : nibbles.length = 32
    · simp only [length] at returned
      obtain rfl := Except.ok.inj returned
      obtain ⟨_, _, bytes⟩ := held
      refine ⟨nibbles, spells, length, ?_⟩
      rw [bytes, length]
      exact congrArg packed (List.append_nil nibbles)
    · simp only [length, ne_eq, not_false_eq_true, if_true] at returned
      cases returned
  · rintro ⟨nibbles, spells, length, bytes⟩
    have held : u.Holds nibbles := by
      refine ⟨length.le, spells_small spells, ?_⟩
      rw [bytes, length]
      exact (congrArg packed (List.append_nil nibbles)).symm
    exact ⟨(u, 32), read.mpr ⟨nibbles, spells, length.symm, held⟩, rfl⟩

/-- A text spells nibbles exactly when only hexadecimal digits are left of it. -/
theorem spells_iff {s : Bytes} :
    (∃ nibbles, Spells s nibbles ∧ nibbles.length = 32) ↔
      (stripped s).length = 32 ∧ ∀ c ∈ stripped s, IsHexDigit c := by
  constructor
  · rintro ⟨nibbles, spells, length⟩
    have sameLength := congrArg List.length spells
    rw [List.length_map, List.length_map, length] at sameLength
    refine ⟨sameLength, fun c member => isHexDigit_iff.mpr ?_⟩
    have listed : hexNibble? c ∈ nibbles.map some := by
      rw [← spells]
      exact List.mem_map_of_mem member
    obtain ⟨v, _, digit⟩ := List.mem_map.mp listed
    exact ⟨v, digit.symm⟩
  · rintro ⟨length, digits⟩
    let nibbles := (stripped s).map fun c => (hexNibble? c).getD 0
    refine ⟨nibbles, ?_, (List.length_map _).trans length⟩
    show _ = ((stripped s).map _).map some
    rw [List.map_map]
    refine List.map_congr_left fun c member => ?_
    obtain ⟨v, digit⟩ := isHexDigit_iff.mp (digits c member)
    show hexNibble? c = some ((hexNibble? c).getD 0)
    rw [digit]
    rfl

/-! ## What is written -/

/-- The digits of a text's nibbles are its digits in lower case. -/
theorem map_hexDigit_of_spells {s : Bytes} {nibbles : List Nat} (spells : Spells s nibbles) :
    nibbles.map hexDigit = (stripped s).map lowerCase := by
  have written := congrArg (List.map (Option.elim · 0 hexDigit)) spells
  rw [List.map_map, List.map_map] at written
  refine written.symm.trans (List.map_congr_left fun c member => ?_)
  have listed : hexNibble? c ∈ nibbles.map some := by
    rw [← spells]
    exact List.mem_map_of_mem member
  obtain ⟨v, _, digit⟩ := List.mem_map.mp listed
  show (hexNibble? c).elim 0 hexDigit = lowerCase c
  rw [← digit]
  exact (hexNibble?_spec digit.symm).2.1

/-- A byte is two digits, so the dashes come before twice the index of theirs. -/
theorem toHexLoop_eq (i : Nat) (bytes : Bytes) :
    toHexLoop i bytes = dashed (2 * i) ((nibblesOf bytes).map hexDigit) := by
  induction bytes generalizing i with
  | nil => rfl
  | cons byte bytes inductionHypothesis =>
      have places : (i = 4 ∨ i = 6 ∨ i = 8 ∨ i = 10) ↔
          (2 * i = 8 ∨ 2 * i = 12 ∨ 2 * i = 16 ∨ 2 * i = 20) := by omega
      have between : ¬ (2 * i + 1 = 8 ∨ 2 * i + 1 = 12 ∨ 2 * i + 1 = 16 ∨ 2 * i + 1 = 20) := by
        omega
      show toHexLoop i (byte :: bytes) = dashed (2 * i) (_ :: _ :: (nibblesOf bytes).map hexDigit)
      unfold toHexLoop dashed dashed
      rw [inductionHypothesis, if_neg between]
      simp only [places]
      rfl

theorem toHex_eq (u : Uuid) : u.toHex = dashed 0 ((nibblesOf u.bytes).map hexDigit) :=
  toHexLoop_eq 0 u.bytes

/-- The digits of a text are left of it without the dashes. -/
theorem stripped_dashed (i : Nat) {nibbles : List Nat} (small : ∀ v ∈ nibbles, v < 16) :
    stripped (dashed i (nibbles.map hexDigit)) = nibbles.map hexDigit := by
  induction nibbles generalizing i with
  | nil => rfl
  | cons v nibbles inductionHypothesis =>
      obtain ⟨vSmall, small⟩ := List.forall_mem_cons.mp small
      have kept := (hexNibble?_spec (hexNibble?_hexDigit vSmall)).2.2
      rw [List.map_cons, dashed]
      split
      · rw [stripped_cons_of_separator (by decide), stripped_cons kept, inductionHypothesis _ small]
      · rw [stripped_cons kept, inductionHypothesis _ small]

theorem spells_toHex (u : Uuid) : Spells u.toHex (nibblesOf u.bytes) := by
  have small : ∀ v ∈ nibblesOf u.bytes, v < 16 := fun v => nibblesOf_lt
  unfold Spells
  rw [toHex_eq, stripped_dashed 0 small, List.map_map]
  exact List.map_congr_left fun v member => hexNibble?_hexDigit (small v member)

/-- The text codec of a UUID: what is written is read back, exactly the texts whose
characters apart from dashes and colons are thirty-two hexadecimal digits are read, and what
is read is written as these digits in lower case with the dashes at their places. -/
theorem uuid_text_codec :
    (∀ u : Uuid, fromHex u.toHex = .ok u) ∧
    ∀ s : Bytes, ((∃ u, fromHex s = .ok u) ↔
        (stripped s).length = 32 ∧ ∀ c ∈ stripped s, IsHexDigit c) ∧
      ∀ u, fromHex s = .ok u → u.toHex = dashed 0 ((stripped s).map lowerCase) := by
  refine ⟨fun u => ?_, fun s => ⟨?_, fun u read => ?_⟩⟩
  · refine fromHex_eq_ok.mpr ⟨nibblesOf u.bytes, spells_toHex u, ?_, (packed_nibblesOf _).symm⟩
    rw [length_nibblesOf, u.sized]
  · rw [← spells_iff]
    constructor
    · rintro ⟨u, read⟩
      obtain ⟨nibbles, spells, length, _⟩ := fromHex_eq_ok.mp read
      exact ⟨nibbles, spells, length⟩
    · rintro ⟨nibbles, spells, length⟩
      have sized : (packed nibbles).length = 16 := by
        have unpacked := congrArg List.length
          (nibblesOf_packed (by rw [length]) (spells_small spells))
        rw [length_nibblesOf] at unpacked
        omega
      exact ⟨⟨packed nibbles, sized⟩, fromHex_eq_ok.mpr ⟨nibbles, spells, length, rfl⟩⟩
  · obtain ⟨nibbles, spells, length, bytes⟩ := fromHex_eq_ok.mp read
    rw [toHex_eq, bytes, nibblesOf_packed (by rw [length]) (spells_small spells),
      map_hexDigit_of_spells spells]

end Uuid

end PowerGovernor
