import PowerGovernor.Json
import PowerGovernor.Library.JsonText

/-!
What a quoted `json_escape` text reads as.

Owns what a JSON reader makes of each escaped byte, the weight that an unescaped quote or
backslash makes a text lose when it is read back, and the texts that are read back as they
were written. `json_escape` gives both bytes back as they are, so these are the texts
without them.
-/

set_option autoImplicit false

namespace PowerGovernor

open JsonText

/-! ## One escaped byte -/

theorem hexValue?_hexDigit : ∀ digit < 16, hexValue? (hexDigit digit) = some digit := by
  decide

theorem plain_hexDigit : ∀ digit < 16, Plain (hexDigit digit) := by decide

theorem jsonEscapeByte_plain {c : UInt8} (plain : Plain c) : jsonEscapeByte c = [c] := by
  obtain ⟨quote, slash, control⟩ := plain
  have named : ∀ b : UInt8, b < 32 → c ≠ b := by
    rintro b low rfl
    exact absurd low (UInt8.not_lt.mpr control)
  rw [jsonEscapeByte, if_neg quote, if_neg slash, if_neg (named 10 (by decide)),
    if_neg (named 13 (by decide)), if_neg (named 9 (by decide)),
    if_neg (UInt8.not_lt.mpr control)]

/-- A backslash and plain bytes, which a reader takes for the byte. -/
structure EscapeOf (c : UInt8) (tail : Bytes) : Prop where
  plain : ∀ b ∈ tail, Plain b
  short : tail.length ≤ 5
  reads : ∀ text, readEscape (tail ++ text) = some ([c], text)

theorem escapeOf_letter {c letter : UInt8} (plain : Plain letter) (other : letter ≠ 117)
    (means : simpleEscape? letter = some c) : EscapeOf c [letter] where
  plain := by simpa using plain
  short := by simp
  reads := fun text => by
    rw [List.singleton_append, readEscape, if_neg other, means]
    rfl

theorem readHex4_two {x y : Nat} (first : x < 16) (second : y < 16) (text : Bytes) :
    readHex4 (48 :: 48 :: hexDigit x :: hexDigit y :: text) = some (x * 16 + y, text) := by
  rw [readHex4, show hexValue? 48 = some 0 by decide, hexValue?_hexDigit x first,
    hexValue?_hexDigit y second]
  simp

theorem escapeOf_unicode {c : UInt8} (control : c < 32) :
    EscapeOf c [117, 48, 48, hexDigit (c.toNat / 16), hexDigit (c.toNat % 16)] where
  plain := by
    have small : c.toNat < 32 := UInt8.lt_iff_toNat_lt.mp control
    have high : c.toNat / 16 < 16 := by omega
    have low : c.toNat % 16 < 16 := Nat.mod_lt _ (by decide)
    simp only [List.forall_mem_cons, List.not_mem_nil, false_imp_iff, implies_true, and_true]
    exact ⟨by decide, by decide, by decide, plain_hexDigit _ high, plain_hexDigit _ low⟩
  short := by simp
  reads := fun text => by
    have small : c.toNat < 32 := UInt8.lt_iff_toNat_lt.mp control
    have digits := readHex4_two (show c.toNat / 16 < 16 by omega)
      (show c.toNat % 16 < 16 by omega) text
    rw [show c.toNat / 16 * 16 + c.toNat % 16 = c.toNat by omega] at digits
    show readUnicode (48 :: 48 :: hexDigit (c.toNat / 16) :: hexDigit (c.toNat % 16) :: text) = _
    rw [readUnicode, digits]
    show (if c.toNat < 55296 ∨ 57344 ≤ c.toNat then some (utf8 c.toNat, text) else _) = _
    rw [if_pos (.inl (by omega)), utf8, if_pos (by omega), UInt8.ofNat_toNat]

/-- A control byte is written as an escape of it. -/
theorem jsonEscapeByte_control {c : UInt8} (control : c < 32) :
    ∃ tail, jsonEscapeByte c = 92 :: tail ∧ EscapeOf c tail := by
  have quote : c ≠ 34 := by
    rintro rfl
    exact absurd control (by decide)
  have slash : c ≠ 92 := by
    rintro rfl
    exact absurd control (by decide)
  rw [jsonEscapeByte, if_neg quote, if_neg slash]
  split
  · next same => exact ⟨_, rfl, escapeOf_letter (by decide) (by decide) (same ▸ by decide)⟩
  split
  · next same => exact ⟨_, rfl, escapeOf_letter (by decide) (by decide) (same ▸ by decide)⟩
  split
  · next same => exact ⟨_, rfl, escapeOf_letter (by decide) (by decide) (same ▸ by decide)⟩
  exact ⟨_, rfl, escapeOf_unicode control⟩

/-- The four kinds of bytes. -/
theorem byte_cases (c : UInt8) : c = 34 ∨ c = 92 ∨ c < 32 ∨ Plain c := by
  by_cases quote : c = 34
  · exact .inl quote
  by_cases slash : c = 92
  · exact .inr (.inl slash)
  by_cases control : c < 32
  · exact .inr (.inr (.inl control))
  · exact .inr (.inr (.inr ⟨quote, slash, UInt8.not_lt.mp control⟩))

/-- Every byte but the quote and the backslash is read back from its escape. -/
theorem readCharacters_jsonEscapeByte {c : UInt8} (quote : c ≠ 34) (slash : c ≠ 92)
    (fuel : Nat) (text : Bytes) :
    readCharacters (fuel + 1) (jsonEscapeByte c ++ text) =
      (readCharacters fuel text).map fun p => (c :: p.1, p.2) := by
  obtain same | same | control | plain := byte_cases c
  · exact absurd same quote
  · exact absurd same slash
  · obtain ⟨tail, escape, spec⟩ := jsonEscapeByte_control control
    have read : readCharacter (92 :: (tail ++ text)) = some ([c], text) := by
      rw [readCharacter, if_pos rfl, spec.reads]
    rw [escape]
    exact readCharacters_character (by decide) read
  · rw [jsonEscapeByte_plain plain]
    exact readCharacters_character quote (readCharacter_plain plain text)

theorem jsonEscape_cons (c : UInt8) (s : Bytes) :
    jsonEscape (c :: s) = jsonEscapeByte c ++ jsonEscape s := List.flatMap_cons

theorem jsonEscape_append (s t : Bytes) : jsonEscape (s ++ t) = jsonEscape s ++ jsonEscape t :=
  List.flatMap_append

/-- A text of plain bytes needs no escape. -/
theorem jsonEscape_plain {s : Bytes} (plain : ∀ c ∈ s, Plain c) : jsonEscape s = s := by
  induction s with
  | nil => rfl
  | cons c s inductionHypothesis =>
      rw [jsonEscape_cons, jsonEscapeByte_plain (plain c List.mem_cons_self),
        inductionHypothesis fun b member => plain b (List.mem_cons_of_mem c member)]
      rfl

/-! ## Texts without quotes and backslashes -/

theorem readCharacters_jsonEscape {s : Bytes} (noQuote : 34 ∉ s) (noSlash : 92 ∉ s)
    (rest : Bytes) {fuel : Nat} (enough : s.length < fuel) :
    readCharacters fuel (jsonEscape s ++ 34 :: rest) = some (s, rest) := by
  induction s generalizing fuel with
  | nil =>
      obtain ⟨n, rfl⟩ := Nat.exists_eq_add_one.mpr enough
      exact readCharacters_quote n rest
  | cons c s inductionHypothesis =>
      obtain ⟨n, rfl⟩ := Nat.exists_eq_add_one.mpr (Nat.zero_lt_of_lt enough)
      have quote : c ≠ 34 := fun same => noQuote (same ▸ List.mem_cons_self)
      have slash : c ≠ 92 := fun same => noSlash (same ▸ List.mem_cons_self)
      rw [jsonEscape_cons, List.append_assoc, readCharacters_jsonEscapeByte quote slash,
        inductionHypothesis (fun member => noQuote (List.mem_cons_of_mem c member))
          (fun member => noSlash (List.mem_cons_of_mem c member)) (by simpa using enough)]
      rfl

theorem length_le_jsonEscape (s : Bytes) : s.length ≤ (jsonEscape s).length := by
  induction s with
  | nil => exact Nat.zero_le 0
  | cons c s inductionHypothesis =>
      have head : 1 ≤ (jsonEscapeByte c).length := by
        unfold jsonEscapeByte
        split_ifs <;> simp
      rw [jsonEscape_cons, List.length_append, List.length_cons]
      omega

theorem readLiteral_quoted_jsonEscape {s : Bytes} (noQuote : 34 ∉ s) (noSlash : 92 ∉ s)
    (rest : Bytes) : readLiteral (quoted (jsonEscape s) ++ rest) = some (s, rest) := by
  have text : quoted (jsonEscape s) ++ rest = 34 :: (jsonEscape s ++ 34 :: rest) := by
    simp [quoted]
  rw [text, readLiteral, if_pos rfl, readString]
  refine readCharacters_jsonEscape noQuote noSlash rest ?_
  have := length_le_jsonEscape s
  rw [List.length_append, List.length_cons]
  omega

/-! ## The weight of a text

A byte counts as many times as its longest escape has bytes. No byte read from an escape is
heavier than the escape's first byte, so a raw backslash, which the reader takes for the
start of an escape, makes the text it is read as lighter. -/

def byteWeight (c : UInt8) : Nat := if c = 92 ∨ c < 32 then 6 else 1

def weight (s : Bytes) : Nat := (s.map byteWeight).sum

@[simp] theorem weight_nil : weight [] = 0 := rfl

@[simp] theorem weight_cons (c : UInt8) (s : Bytes) :
    weight (c :: s) = byteWeight c + weight s := rfl

@[simp] theorem weight_append (s t : Bytes) : weight (s ++ t) = weight s + weight t := by
  simp [weight]

theorem byteWeight_le (c : UInt8) : byteWeight c ≤ 6 := by
  unfold byteWeight
  split <;> omega

theorem byteWeight_pos (c : UInt8) : 0 < byteWeight c := by
  unfold byteWeight
  split <;> omega

theorem byteWeight_plain {c : UInt8} (plain : Plain c) : byteWeight c = 1 := by
  obtain ⟨-, slash, control⟩ := plain
  refine if_neg ?_
  rintro (same | low)
  · exact slash same
  · exact absurd low (UInt8.not_lt.mpr control)

theorem byteWeight_control {c : UInt8} (control : c < 32) : byteWeight c = 6 :=
  if_pos (.inr control)

theorem weight_eq_length {s : Bytes} (light : ∀ c ∈ s, byteWeight c = 1) :
    weight s = s.length := by
  induction s with
  | nil => rfl
  | cons c s inductionHypothesis =>
      rw [weight_cons, light c List.mem_cons_self,
        inductionHypothesis fun b member => light b (List.mem_cons_of_mem c member),
        List.length_cons, Nat.add_comm]

theorem weight_character {s : Bytes} (character : IsCharacter s) : weight s ≤ 6 := by
  obtain ⟨c, rfl⟩ | ⟨short, high⟩ := character
  · have := byteWeight_le c
    simpa using this
  · have light : ∀ c ∈ s, byteWeight c = 1 := by
      intro c member
      have bound := high c member
      refine byteWeight_plain ⟨?_, ?_, UInt8.le_trans (by decide) bound⟩
      · rintro rfl
        exact absurd bound (by decide)
      · rintro rfl
        exact absurd bound (by decide)
    rw [weight_eq_length light]
    omega

/-! ## What is left of an escaped text

Behind any byte of an escaped text and its quote stands nothing or an escaped text and its
quote again, of a lighter content. -/

theorem escaped_behind_byte {t text : Bytes} {b : UInt8}
    (same : jsonEscape t ++ [34] = b :: text) :
    text = [] ∨ ∃ t', text = jsonEscape t' ++ [34] ∧ weight t' < weight t := by
  cases t with
  | nil =>
      left
      exact ((List.cons.inj same).2).symm
  | cons c t =>
      right
      have whole : ∀ {first : UInt8}, jsonEscapeByte c = [first] →
          ∃ t', text = jsonEscape t' ++ [34] ∧ weight t' < weight (c :: t) := by
        intro first escape
        rw [jsonEscape_cons, escape] at same
        have positive := byteWeight_pos c
        exact ⟨t, (List.cons.inj same).2.symm, by rw [weight_cons]; omega⟩
      obtain rfl | rfl | control | plain := byte_cases c
      · exact whole (show jsonEscapeByte 34 = [34] by decide)
      · exact whole (show jsonEscapeByte 92 = [92] by decide)
      · obtain ⟨tail, escape, spec⟩ := jsonEscapeByte_control control
        -- the rest of the escape is plain text, shorter than the byte is heavy
        refine ⟨tail ++ t, ?_, ?_⟩
        · rw [jsonEscape_cons, escape] at same
          rw [jsonEscape_append, jsonEscape_plain spec.plain]
          exact (List.cons.inj same).2.symm
        · have light := weight_eq_length fun b member => byteWeight_plain (spec.plain b member)
          have short := spec.short
          rw [weight_append, weight_cons, light, byteWeight_control control]
          omega
      · exact whole (jsonEscapeByte_plain plain)

theorem escaped_suffix {t rest : Bytes} (suffix : rest <:+ jsonEscape t ++ [34]) :
    rest = [] ∨ ∃ t', rest = jsonEscape t' ++ [34] ∧ weight t' ≤ weight t := by
  obtain ⟨front, same⟩ := suffix
  induction front generalizing t with
  | nil => exact .inr ⟨t, same, Nat.le_refl _⟩
  | cons b front inductionHypothesis =>
      obtain empty | ⟨t', left, lighter⟩ := escaped_behind_byte same.symm
      · exact .inl (List.append_eq_nil_iff.mp empty).2
      · obtain empty | ⟨last, text, bound⟩ := inductionHypothesis left
        · exact .inl empty
        · exact .inr ⟨last, text, by omega⟩

/-! ## What is read -/

/-- A raw backslash takes at least a byte of the text behind it, and gives one character. -/
theorem readCharacters_rawSlash {fuel : Nat} {t out rest : Bytes}
    (read : readCharacters (fuel + 1) (92 :: (jsonEscape t ++ [34])) = some (out, rest)) :
    ∃ left characters, readCharacters fuel (jsonEscape left ++ [34]) = some (characters, rest) ∧
      weight out ≤ 6 + weight characters ∧ weight left < weight t := by
  rw [readCharacters, if_neg (by decide)] at read
  obtain ⟨⟨character, after⟩, escape, read⟩ := Option.bind_eq_some_iff.mp read
  obtain ⟨⟨characters, last⟩, loop, same⟩ := Option.bind_eq_some_iff.mp read
  obtain ⟨rfl, rfl⟩ := Prod.mk.inj (Option.some.inj same)
  obtain ⟨shape, b, behind, text, suffix⟩ := readEscape_spec escape
  have unfinished : after ≠ [] := by
    rintro rfl
    rw [readCharacters_nil] at loop
    exact absurd loop (by simp)
  obtain rfl | ⟨t', rfl, lighter⟩ := escaped_behind_byte text
  · exact absurd (List.suffix_nil.mp suffix) unfinished
  · obtain empty | ⟨left, rfl, bound⟩ := escaped_suffix suffix
    · exact absurd empty unfinished
    · refine ⟨left, characters, loop, ?_, by omega⟩
      have light := weight_character shape
      rw [weight_append]
      omega

/-- Whatever is read from an escaped text is lighter than the text, or is the text and the
text has neither quotes nor backslashes. -/
theorem lighter_or_same {fuel : Nat} {s out rest : Bytes}
    (read : readCharacters fuel (jsonEscape s ++ [34]) = some (out, rest)) :
    weight out < weight s ∨ out = s ∧ 34 ∉ s ∧ 92 ∉ s := by
  induction fuel generalizing s out rest with
  | zero => exact absurd read (by simp [readCharacters])
  | succ fuel inductionHypothesis =>
      cases s with
      | nil =>
          obtain ⟨rfl, -⟩ := Prod.mk.inj (Option.some.inj read)
          exact .inr ⟨rfl, List.not_mem_nil, List.not_mem_nil⟩
      | cons c t =>
          rw [jsonEscape_cons, List.append_assoc] at read
          by_cases quote : c = 34
          · -- the raw quote ends the literal
            subst quote
            rw [show jsonEscapeByte 34 = [34] by decide] at read
            obtain ⟨rfl, -⟩ := Prod.mk.inj (Option.some.inj read)
            left
            exact Nat.lt_of_lt_of_le (byteWeight_pos 34) (Nat.le_add_right _ _)
          by_cases slash : c = 92
          · -- the raw backslash starts an escape, which takes at least a byte of the text
            subst slash
            rw [show jsonEscapeByte 92 = [92] by decide] at read
            obtain ⟨left, characters, loop, light, lighter⟩ := readCharacters_rawSlash read
            have behind : weight characters ≤ weight left := by
              obtain less | ⟨same, -⟩ := inductionHypothesis loop
              · exact Nat.le_of_lt less
              · exact (congrArg weight same).le
            left
            rw [weight_cons, show byteWeight 92 = 6 by decide]
            omega
          · rw [readCharacters_jsonEscapeByte quote slash] at read
            obtain ⟨⟨characters, last⟩, loop, same⟩ := Option.map_eq_some_iff.mp read
            obtain ⟨rfl, rfl⟩ := Prod.mk.inj same
            obtain less | ⟨same, noQuote, noSlash⟩ := inductionHypothesis loop
            · left
              simpa using less
            · right
              exact ⟨congrArg (c :: ·) same, by simp [Ne.symm quote, noQuote],
                by simp [Ne.symm slash, noSlash]⟩

/-- A text that reads back at all has neither quotes nor backslashes. -/
theorem clean_of_reads_back {s : Bytes}
    (read : readLiteral (quoted (jsonEscape s)) = some (s, [])) : 34 ∉ s ∧ 92 ∉ s := by
  obtain lighter | ⟨-, clean⟩ := lighter_or_same (show readCharacters _ _ = _ from read)
  · exact absurd lighter (Nat.lt_irrefl _)
  · exact clean

theorem reads_back {s : Bytes} (clean : 34 ∉ s ∧ 92 ∉ s) :
    readLiteral (quoted (jsonEscape s)) = some (s, []) := by
  simpa using readLiteral_quoted_jsonEscape clean.1 clean.2 []

/-- A quoted `json_escape` text is one string literal that reads as the content exactly
when the content has neither quotes nor backslashes. Such a literal ends where it was ended
whatever follows it, and no other such content is escaped alike. -/
theorem escape_reversible_iff (s : Bytes) :
    (readLiteral (quoted (jsonEscape s)) = some (s, []) ↔ 34 ∉ s ∧ 92 ∉ s) ∧
      ((∀ rest, readLiteral (quoted (jsonEscape s) ++ rest) = some (s, rest)) ↔
        34 ∉ s ∧ 92 ∉ s) ∧
      (34 ∉ s ∧ 92 ∉ s → ∀ t : Bytes, 34 ∉ t ∧ 92 ∉ t → jsonEscape t = jsonEscape s →
        t = s) := by
  refine ⟨⟨clean_of_reads_back, reads_back⟩, ⟨fun read => ?_, fun clean rest => ?_⟩, ?_⟩
  · exact clean_of_reads_back (by simpa using read [])
  · exact readLiteral_quoted_jsonEscape clean.1 clean.2 rest
  · intro clean t cleanToo same
    have read := reads_back clean
    rw [← same, reads_back cleanToo] at read
    exact (Prod.mk.inj (Option.some.inj read)).1

/-- A quote ends its literal early, and a backslash and a letter are escaped as a line break
is. -/
theorem escape_not_reversible :
    ¬ (∀ s : Bytes, (∀ c ∈ s, c < 128) →
        readLiteral (quoted (jsonEscape s)) = some (s, [])) ∧
      readLiteral (quoted (jsonEscape [34])) = some ([], [34]) ∧
      jsonEscape [92, 110] = jsonEscape [10] := by
  refine ⟨fun reads => ?_, by decide, by decide⟩
  have ascii : ∀ c ∈ ([34] : Bytes), c < 128 := List.forall_mem_singleton.mpr (by decide)
  exact absurd (reads [34] ascii) (by decide)

end PowerGovernor
