import Mathlib.Data.List.Basic

/-!
A reader of JSON string literals.

Owns the reader of a literal over byte texts, with every escape of the grammar, what one
escape consumes and stands for, and the rule that plain bytes between quotes are one
literal. Bytes from 128 on stand for themselves; whether they form UTF-8 is left to the
caller.
-/

set_option autoImplicit false

namespace JsonText

/-! ## String literals -/

/-- The value of a hexadecimal digit in either case. -/
def hexValue? (c : UInt8) : Option Nat :=
  if 48 ≤ c ∧ c ≤ 57 then some (c.toNat - 48)
  else if 65 ≤ c ∧ c ≤ 70 then some (c.toNat - 55)
  else if 97 ≤ c ∧ c ≤ 102 then some (c.toNat - 87)
  else none

/-- Four hexadecimal digits. -/
def readHex4 : List UInt8 → Option (Nat × List UInt8)
  | a :: b :: c :: d :: text => do
      let x ← hexValue? a
      let y ← hexValue? b
      let z ← hexValue? c
      let t ← hexValue? d
      some (((x * 16 + y) * 16 + z) * 16 + t, text)
  | _ => none

/-- The UTF-8 bytes of a code point. -/
def utf8 (u : Nat) : List UInt8 :=
  if u < 128 then [UInt8.ofNat u]
  else if u < 2048 then [UInt8.ofNat (192 + u / 64), UInt8.ofNat (128 + u % 64)]
  else if u < 65536 then
    [UInt8.ofNat (224 + u / 4096), UInt8.ofNat (128 + u / 64 % 64), UInt8.ofNat (128 + u % 64)]
  else
    [UInt8.ofNat (240 + u / 262144 % 8), UInt8.ofNat (128 + u / 4096 % 64),
      UInt8.ofNat (128 + u / 64 % 64), UInt8.ofNat (128 + u % 64)]

/-- The part of a code point above the basic plane that follows a high surrogate: a second
escape with a low surrogate. -/
def readLowSurrogate : List UInt8 → Option (Nat × List UInt8)
  | slash :: letter :: text => do
      let (low, text) ← readHex4 text
      if slash = 92 ∧ letter = 117 ∧ 56320 ≤ low ∧ low < 57344 then some (low - 56320, text)
      else none
  | _ => none

/-- What stands after a backslash and a `u`. A surrogate alone is no character. -/
def readUnicode (text : List UInt8) : Option (List UInt8 × List UInt8) := do
  let (u, text) ← readHex4 text
  if u < 55296 ∨ 57344 ≤ u then some (utf8 u, text)
  else if 56320 ≤ u then none
  else
    let (low, text) ← readLowSurrogate text
    some (utf8 (65536 + (u - 55296) * 1024 + low), text)

/-- The byte that a two-byte escape stands for. -/
def simpleEscape? (c : UInt8) : Option UInt8 :=
  if c = 34 then some 34
  else if c = 92 then some 92
  else if c = 47 then some 47
  else if c = 98 then some 8
  else if c = 102 then some 12
  else if c = 110 then some 10
  else if c = 114 then some 13
  else if c = 116 then some 9
  else none

/-- What stands after a backslash. -/
def readEscape : List UInt8 → Option (List UInt8 × List UInt8)
  | [] => none
  | c :: text =>
      if c = 117 then readUnicode text
      else (simpleEscape? c).map fun b => ([b], text)

/-- One character of a literal, escaped or not: its bytes and the text behind it. -/
def readCharacter : List UInt8 → Option (List UInt8 × List UInt8)
  | [] => none
  | c :: text =>
      if c = 92 then readEscape text
      else if c = 34 ∨ c < 32 then none
      else some ([c], text)

/-- The characters up to the closing quote. Every character consumes a byte, so the length
of the text is fuel enough. -/
def readCharacters : Nat → List UInt8 → Option (List UInt8 × List UInt8)
  | 0, _ => none
  | _, [] => none
  | fuel + 1, c :: text =>
      if c = 34 then some ([], text)
      else do
        let (character, text) ← readCharacter (c :: text)
        let (characters, text) ← readCharacters fuel text
        some (character ++ characters, text)

/-- What stands behind an opening quote: the content and the text behind the closing quote. -/
def readString (text : List UInt8) : Option (List UInt8 × List UInt8) :=
  readCharacters text.length text

/-- A string literal. -/
def readLiteral : List UInt8 → Option (List UInt8 × List UInt8)
  | [] => none
  | c :: text => if c = 34 then readString text else none

/-- A byte that stands for itself in a literal. -/
def Plain (c : UInt8) : Prop := c ≠ 34 ∧ c ≠ 92 ∧ 32 ≤ c

instance (c : UInt8) : Decidable (Plain c) := inferInstanceAs (Decidable (_ ∧ _ ∧ _))

theorem readCharacter_plain {c : UInt8} (plain : Plain c) (text : List UInt8) :
    readCharacter (c :: text) = some ([c], text) := by
  obtain ⟨quote, slash, control⟩ := plain
  have : ¬ (c = 34 ∨ c < 32) := by
    rintro (same | low)
    · exact quote same
    · exact absurd low (UInt8.not_lt.mpr control)
  rw [readCharacter, if_neg slash, if_neg this]

theorem readCharacters_nil (fuel : Nat) : readCharacters fuel [] = none := by
  cases fuel <;> rfl

theorem readCharacters_quote (fuel : Nat) (text : List UInt8) :
    readCharacters (fuel + 1) (34 :: text) = some ([], text) := by
  rw [readCharacters, if_pos rfl]

/-- A character that starts with no quote is read off the front. -/
theorem readCharacters_character {fuel : Nat} {c : UInt8} {text character rest : List UInt8}
    (noQuote : c ≠ 34) (read : readCharacter (c :: text) = some (character, rest)) :
    readCharacters (fuel + 1) (c :: text) =
      (readCharacters fuel rest).map fun p => (character ++ p.1, p.2) := by
  rw [readCharacters, if_neg noQuote, read]
  show ((readCharacters fuel rest).bind fun p => some (character ++ p.1, p.2)) = _
  rw [Option.map_eq_bind]
  rfl

/-- Plain bytes before a quote are read as they are, whatever follows. -/
theorem readCharacters_plain {s : List UInt8} (plain : ∀ c ∈ s, Plain c) (rest : List UInt8)
    {fuel : Nat} (enough : s.length < fuel) :
    readCharacters fuel (s ++ 34 :: rest) = some (s, rest) := by
  induction s generalizing fuel with
  | nil =>
      obtain ⟨n, rfl⟩ := Nat.exists_eq_add_one.mpr enough
      exact readCharacters_quote n rest
  | cons c s inductionHypothesis =>
      obtain ⟨n, rfl⟩ := Nat.exists_eq_add_one.mpr (Nat.zero_lt_of_lt enough)
      have head := plain c List.mem_cons_self
      rw [List.cons_append, readCharacters_character head.1 (readCharacter_plain head _),
        inductionHypothesis (fun b member => plain b (List.mem_cons_of_mem c member))
          (by simpa using enough)]
      rfl

theorem readString_plain {s : List UInt8} (plain : ∀ c ∈ s, Plain c) (rest : List UInt8) :
    readString (s ++ 34 :: rest) = some (s, rest) :=
  readCharacters_plain plain rest (by simp)

/-! What an escape consumes and stands for. -/

theorem readHex4_suffix {text rest : List UInt8} {u : Nat}
    (read : readHex4 text = some (u, rest)) : rest <:+ text := by
  unfold readHex4 at read
  split at read
  · next a b c d behind =>
      simp only [Option.bind_eq_bind, Option.bind_eq_some_iff] at read
      obtain ⟨_, _, _, _, _, _, _, _, same⟩ := read
      obtain ⟨-, rfl⟩ := Prod.mk.inj (Option.some.inj same)
      exact ⟨[a, b, c, d], rfl⟩
  · exact absurd read (by simp)

theorem readLowSurrogate_suffix {text rest : List UInt8} {low : Nat}
    (read : readLowSurrogate text = some (low, rest)) : rest <:+ text := by
  unfold readLowSurrogate at read
  split at read
  · next slash letter behind =>
      obtain ⟨⟨u, after⟩, digits, same⟩ := Option.bind_eq_some_iff.mp read
      dsimp only at same
      split at same
      · obtain ⟨-, rfl⟩ := Prod.mk.inj (Option.some.inj same)
        exact (readHex4_suffix digits).trans ⟨[slash, letter], rfl⟩
      · exact absurd same (by simp)
  · exact absurd read (by simp)

/-- One byte, or the UTF-8 bytes of a character outside ASCII. -/
def IsCharacter (s : List UInt8) : Prop :=
  (∃ c, s = [c]) ∨ s.length ≤ 4 ∧ ∀ c ∈ s, 128 ≤ c

theorem ofNat_high {n : Nat} (low : 128 ≤ n) (high : n < 256) : 128 ≤ UInt8.ofNat n := by
  rw [UInt8.le_iff_toNat_le, UInt8.toNat_ofNat_of_lt' high]
  exact low

theorem isCharacter_utf8 (u : Nat) : IsCharacter (utf8 u) := by
  unfold utf8
  split
  · exact .inl ⟨_, rfl⟩
  split
  · refine .inr ⟨by simp, ?_⟩
    simp only [List.forall_mem_cons, List.not_mem_nil, false_imp_iff, implies_true, and_true]
    exact ⟨ofNat_high (by omega) (by omega), ofNat_high (by omega) (by omega)⟩
  split
  · refine .inr ⟨by simp, ?_⟩
    simp only [List.forall_mem_cons, List.not_mem_nil, false_imp_iff, implies_true, and_true]
    exact ⟨ofNat_high (by omega) (by omega), ofNat_high (by omega) (by omega),
      ofNat_high (by omega) (by omega)⟩
  · refine .inr ⟨by simp, ?_⟩
    simp only [List.forall_mem_cons, List.not_mem_nil, false_imp_iff, implies_true, and_true]
    exact ⟨ofNat_high (by omega) (by omega), ofNat_high (by omega) (by omega),
      ofNat_high (by omega) (by omega), ofNat_high (by omega) (by omega)⟩

theorem readUnicode_spec {text character rest : List UInt8}
    (read : readUnicode text = some (character, rest)) :
    IsCharacter character ∧ rest <:+ text := by
  obtain ⟨⟨u, after⟩, digits, read⟩ := Option.bind_eq_some_iff.mp read
  have behind := readHex4_suffix digits
  dsimp only at read
  split at read
  · obtain ⟨rfl, rfl⟩ := Prod.mk.inj (Option.some.inj read)
    exact ⟨isCharacter_utf8 u, behind⟩
  split at read
  · exact absurd read (by simp)
  · obtain ⟨⟨low, last⟩, second, same⟩ := Option.bind_eq_some_iff.mp read
    obtain ⟨rfl, rfl⟩ := Prod.mk.inj (Option.some.inj same)
    exact ⟨isCharacter_utf8 _, (readLowSurrogate_suffix second).trans behind⟩

/-- An escape consumes at least the byte behind the backslash. -/
theorem readEscape_spec {text character rest : List UInt8}
    (read : readEscape text = some (character, rest)) :
    IsCharacter character ∧ ∃ c behind, text = c :: behind ∧ rest <:+ behind := by
  cases text with
  | nil => exact absurd read (by simp [readEscape])
  | cons c behind =>
      rw [readEscape] at read
      split at read
      · obtain ⟨shape, suffix⟩ := readUnicode_spec read
        exact ⟨shape, c, behind, rfl, suffix⟩
      · obtain ⟨b, -, same⟩ := Option.map_eq_some_iff.mp read
        obtain ⟨rfl, rfl⟩ := Prod.mk.inj same
        exact ⟨.inl ⟨b, rfl⟩, c, behind, rfl, List.suffix_rfl⟩

end JsonText
