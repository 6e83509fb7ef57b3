import Mathlib.Algebra.Field.Rat
import PowerGovernor.Library.JsonText

/-!
A reader of JSON values.

Owns the reader of a number and of a value, with any space the grammar allows, and the rules
a writer's proof needs: what the reader does with each first byte, that digits before a
delimiter are a number, and that a sequence written in pieces is read exactly when every
piece but the first stands behind a comma and every piece is read.
-/

set_option autoImplicit false

namespace JsonText

/-! ## Numbers -/

def isDigit (c : UInt8) : Bool := 48 ≤ c ∧ c ≤ 57

/-- The number that a run of digits stands for. -/
def digitsValue (digits : List UInt8) : Nat :=
  digits.foldl (fun n c => n * 10 + (c.toNat - 48)) 0

/-- At least one digit. -/
def readDigits (text : List UInt8) : Option (List UInt8 × List UInt8) :=
  if text.takeWhile isDigit = [] then none
  else some (text.takeWhile isDigit, text.dropWhile isDigit)

/-- The whole part: a zero, or digits that start with none. -/
def readWhole : List UInt8 → Option (Nat × List UInt8)
  | [] => none
  | c :: text =>
      if c = 48 then some (0, text)
      else (readDigits (c :: text)).map fun p => (digitsValue p.1, p.2)

/-- The digits behind a point, if there is one. -/
def readFraction : List UInt8 → Option (ℚ × List UInt8)
  | [] => some (0, [])
  | c :: text =>
      if c = 46 then
        (readDigits text).map fun p => (digitsValue p.1 / 10 ^ p.1.length, p.2)
      else some (0, c :: text)

/-- The digits of an exponent behind its sign. -/
def readExponentDigits : List UInt8 → Option (ℤ × List UInt8)
  | [] => none
  | c :: text =>
      if c = 45 then (readDigits text).map fun p => (-(digitsValue p.1 : ℤ), p.2)
      else if c = 43 then (readDigits text).map fun p => ((digitsValue p.1 : ℤ), p.2)
      else (readDigits (c :: text)).map fun p => ((digitsValue p.1 : ℤ), p.2)

/-- The exponent, if there is one. -/
def readExponent : List UInt8 → Option (ℤ × List UInt8)
  | [] => some (0, [])
  | c :: text =>
      if c = 101 ∨ c = 69 then readExponentDigits text else some (0, c :: text)

def readUnsigned (text : List UInt8) : Option (ℚ × List UInt8) := do
  let (whole, text) ← readWhole text
  let (fraction, text) ← readFraction text
  let (exponent, text) ← readExponent text
  some ((whole + fraction) * 10 ^ exponent, text)

def readNumber : List UInt8 → Option (ℚ × List UInt8)
  | [] => none
  | c :: text =>
      if c = 45 then (readUnsigned text).map fun p => (-p.1, p.2)
      else readUnsigned (c :: text)

/-- A text that a number before it does not run into. -/
def NumberEnds (text : List UInt8) : Prop :=
  ∀ c behind, text = c :: behind → isDigit c = false ∧ c ≠ 46 ∧ c ≠ 101 ∧ c ≠ 69

theorem numberEnds_nil : NumberEnds [] := fun _ _ same => absurd same (by simp)

theorem numberEnds_cons {c : UInt8}
    (ends : isDigit c = false ∧ c ≠ 46 ∧ c ≠ 101 ∧ c ≠ 69) (text : List UInt8) :
    NumberEnds (c :: text) := by
  intro b behind same
  obtain ⟨rfl, -⟩ := List.cons.inj same
  exact ends

theorem readDigits_stops {digits rest : List UInt8} (isDigits : ∀ c ∈ digits, isDigit c = true)
    (some_digit : digits ≠ [])
    (stops : ∀ c behind, rest = c :: behind → isDigit c = false) :
    readDigits (digits ++ rest) = some (digits, rest) := by
  have stop : rest.takeWhile isDigit = [] ∧ rest.dropWhile isDigit = rest := by
    cases rest with
    | nil => exact ⟨rfl, rfl⟩
    | cons c behind => simp [stops c behind rfl]
  rw [readDigits, List.takeWhile_append_of_pos isDigits, List.dropWhile_append_of_pos isDigits,
    stop.1, stop.2, List.append_nil, if_neg some_digit]

theorem readDigits_append {digits rest : List UInt8} (isDigits : ∀ c ∈ digits, isDigit c = true)
    (some_digit : digits ≠ []) (ends : NumberEnds rest) :
    readDigits (digits ++ rest) = some (digits, rest) :=
  readDigits_stops isDigits some_digit fun c behind same => (ends c behind same).1

/-- Digits without a leading zero are the whole part of a number. -/
theorem readWhole_digits {c : UInt8} {digits rest : List UInt8}
    (isDigits : ∀ b ∈ c :: digits, isDigit b = true) (noZero : c = 48 → digits = [])
    (stops : ∀ b behind, rest = b :: behind → isDigit b = false) :
    readWhole (c :: digits ++ rest) = some (digitsValue (c :: digits), rest) := by
  rw [List.cons_append, readWhole]
  split
  · next zero =>
      rw [noZero zero, zero]
      rfl
  · rw [← List.cons_append, readDigits_stops isDigits (by simp) stops]
    rfl

theorem readExponent_ends {rest : List UInt8} (ends : NumberEnds rest) :
    readExponent rest = some (0, rest) := by
  cases rest with
  | nil => rfl
  | cons b behind =>
      have noLetter : ¬ (b = 101 ∨ b = 69) := by
        rintro (same | same)
        · exact (ends b behind rfl).2.2.1 same
        · exact (ends b behind rfl).2.2.2 same
      rw [readExponent, if_neg noLetter]

/-- Digits without a leading zero, before a text that no number runs into, are read as a
whole number. -/
theorem readUnsigned_digits {c : UInt8} {digits rest : List UInt8}
    (isDigits : ∀ b ∈ c :: digits, isDigit b = true) (noZero : c = 48 → digits = [])
    (ends : NumberEnds rest) :
    readUnsigned (c :: digits ++ rest) = some ((digitsValue (c :: digits) : ℚ), rest) := by
  have whole := readWhole_digits isDigits noZero fun b behind same => (ends b behind same).1
  have fraction : readFraction rest = some (0, rest) := by
    cases rest with
    | nil => rfl
    | cons b behind => rw [readFraction, if_neg (ends b behind rfl).2.1]
  rw [readUnsigned, whole]
  show ((readFraction rest).bind fun p => _) = _
  rw [fraction]
  show ((readExponent rest).bind fun p => _) = _
  rw [readExponent_ends ends]
  simp

/-- The same with digits behind a point. -/
theorem readUnsigned_point {c : UInt8} {digits fraction rest : List UInt8}
    (isDigits : ∀ b ∈ c :: digits, isDigit b = true) (noZero : c = 48 → digits = [])
    (fractionDigits : ∀ b ∈ fraction, isDigit b = true) (some_digit : fraction ≠ [])
    (ends : NumberEnds rest) :
    readUnsigned (c :: digits ++ 46 :: (fraction ++ rest)) =
      some ((digitsValue (c :: digits) : ℚ) + digitsValue fraction / 10 ^ fraction.length,
        rest) := by
  have whole := readWhole_digits isDigits noZero
    fun b behind (same : 46 :: (fraction ++ rest) = b :: behind) => by
      obtain ⟨rfl, -⟩ := List.cons.inj same
      decide
  have behind : readFraction (46 :: (fraction ++ rest)) =
      some ((digitsValue fraction : ℚ) / 10 ^ fraction.length, rest) := by
    rw [readFraction, if_pos rfl, readDigits_append fractionDigits some_digit ends]
    rfl
  rw [readUnsigned, whole]
  show ((readFraction (46 :: (fraction ++ rest))).bind fun p => _) = _
  rw [behind]
  show ((readExponent rest).bind fun p => _) = _
  rw [readExponent_ends ends]
  simp

/-! ## Values -/

/-- A JSON value. The members of an object keep their order. -/
inductive JsonTree where
  | null
  | bool (b : Bool)
  | number (q : ℚ)
  | string (s : List UInt8)
  | array (items : List JsonTree)
  | object (members : List (List UInt8 × JsonTree))

def isSpace (c : UInt8) : Bool := c = 32 ∨ c = 9 ∨ c = 10 ∨ c = 13

/-- The first byte that is no space, and the text behind it. -/
def token : List UInt8 → Option (UInt8 × List UInt8)
  | [] => none
  | c :: text => if isSpace c then token text else some (c, text)

/-- Items with commas between them up to the closing byte. Every item consumes a byte, so
the length of the text is a bound on their number. -/
def readSeparated {α : Type} (close : UInt8)
    (readItem : List UInt8 → Option (α × List UInt8)) :
    Nat → List UInt8 → Option (List α × List UInt8)
  | 0, _ => none
  | bound + 1, text => do
      let (item, text) ← readItem text
      let (c, text) ← token text
      if c = 44 then
        (readSeparated close readItem bound text).map fun p => (item :: p.1, p.2)
      else if c = close then some ([item], text)
      else none

/-- What stands behind the opening byte of a container. -/
def readSequence {α : Type} (close : UInt8)
    (readItem : List UInt8 → Option (α × List UInt8)) (text : List UInt8) :
    Option (List α × List UInt8) := do
  let (c, behind) ← token text
  if c = close then some ([], behind) else readSeparated close readItem text.length text

/-- A key, a colon and a value. -/
def readMember {α : Type} (readItem : List UInt8 → Option (α × List UInt8))
    (text : List UInt8) : Option ((List UInt8 × α) × List UInt8) := do
  let (quote, text) ← token text
  if quote = 34 then
    let (key, text) ← readString text
    let (colon, text) ← token text
    if colon = 58 then (readItem text).map fun p => ((key, p.1), p.2) else none
  else none

def readWord (word : List UInt8) (value : JsonTree) (text : List UInt8) :
    Option (JsonTree × List UInt8) :=
  if word.isPrefixOf text then some (value, text.drop word.length) else none

/-- A value, nested at most `depth` deep. Every container consumes a byte, so the length of
the text is depth enough. -/
def readValue : Nat → List UInt8 → Option (JsonTree × List UInt8)
  | 0, _ => none
  | depth + 1, text => do
      let (c, behind) ← token text
      if c = 123 then
        (readSequence 125 (readMember (readValue depth)) behind).map fun p => (.object p.1, p.2)
      else if c = 91 then
        (readSequence 93 (readValue depth) behind).map fun p => (.array p.1, p.2)
      else if c = 34 then (readString behind).map fun p => (.string p.1, p.2)
      else if c = 116 then readWord [114, 117, 101] (.bool true) behind
      else if c = 102 then readWord [97, 108, 115, 101] (.bool false) behind
      else if c = 110 then readWord [117, 108, 108] .null behind
      else (readNumber (c :: behind)).map fun p => (.number p.1, p.2)

/-- A text that is one value, with space around it at most. -/
def parse (text : List UInt8) : Option JsonTree := do
  let (value, behind) ← readValue text.length text
  if behind.all isSpace then some value else none

/-! What each reader makes of a text whose first byte is known. -/

theorem token_cons {c : UInt8} (noSpace : isSpace c = false) (text : List UInt8) :
    token (c :: text) = some (c, text) := by
  simp [token, noSpace]

theorem readSequence_cons {α : Type} {close c : UInt8} (noSpace : isSpace c = false)
    (readItem : List UInt8 → Option (α × List UInt8)) (text : List UInt8) :
    readSequence close readItem (c :: text) =
      if c = close then some ([], text)
      else readSeparated close readItem (c :: text).length (c :: text) := by
  rw [readSequence, token_cons noSpace]
  rfl

/-- A plain key and its colon are read off the front of a member. -/
theorem readMember_plain {α : Type} (readItem : List UInt8 → Option (α × List UInt8))
    {key : List UInt8} (plain : ∀ c ∈ key, Plain c) (text : List UInt8) :
    readMember readItem (34 :: (key ++ 34 :: 58 :: text)) =
      (readItem text).map fun p => ((key, p.1), p.2) := by
  rw [readMember, token_cons (by decide)]
  show ((readString (key ++ 34 :: 58 :: text)).bind fun p => _) = _
  rw [readString_plain plain]
  show ((token (58 :: text)).bind fun p => _) = _
  rw [token_cons (by decide)]
  rfl

theorem readValue_object (depth : Nat) (text : List UInt8) :
    readValue (depth + 1) (123 :: text) =
      (readSequence 125 (readMember (readValue depth)) text).map
        fun p => (.object p.1, p.2) := by
  rw [readValue, token_cons (by decide)]
  rfl

theorem readValue_array (depth : Nat) (text : List UInt8) :
    readValue (depth + 1) (91 :: text) =
      (readSequence 93 (readValue depth) text).map fun p => (.array p.1, p.2) := by
  rw [readValue, token_cons (by decide)]
  rfl

theorem readValue_string (depth : Nat) (text : List UInt8) :
    readValue (depth + 1) (34 :: text) =
      (readString text).map fun p => (.string p.1, p.2) := by
  rw [readValue, token_cons (by decide)]
  rfl

theorem readValue_true (depth : Nat) (text : List UInt8) :
    readValue (depth + 1) ([116, 114, 117, 101] ++ text) = some (.bool true, text) := by
  rw [readValue, List.cons_append, token_cons (by decide)]
  rfl

theorem readValue_false (depth : Nat) (text : List UInt8) :
    readValue (depth + 1) ([102, 97, 108, 115, 101] ++ text) = some (.bool false, text) := by
  rw [readValue, List.cons_append, token_cons (by decide)]
  rfl

theorem readValue_null (depth : Nat) (text : List UInt8) :
    readValue (depth + 1) ([110, 117, 108, 108] ++ text) = some (.null, text) := by
  rw [readValue, List.cons_append, token_cons (by decide)]
  rfl

/-- A minus sign or a digit has no other meaning between values. -/
theorem number_byte {c : UInt8} (starts : c = 45 ∨ isDigit c = true) :
    isSpace c = false ∧ c ∉ [34, 44, 91, 93, 102, 110, 116, 123, 125] := by
  have other : ∀ b : UInt8, ¬ (b = 45 ∨ isDigit b = true) → c ≠ b := by
    rintro b noNumber rfl
    exact noNumber starts
  constructor
  · simp only [isSpace, decide_eq_false_iff_not]
    rintro (space | tab | line | carriage)
    · exact other 32 (by decide) space
    · exact other 9 (by decide) tab
    · exact other 10 (by decide) line
    · exact other 13 (by decide) carriage
  · simp only [List.mem_cons, List.not_mem_nil, or_false, not_or]
    exact ⟨other 34 (by decide), other 44 (by decide), other 91 (by decide),
      other 93 (by decide), other 102 (by decide), other 110 (by decide),
      other 116 (by decide), other 123 (by decide), other 125 (by decide)⟩

theorem readValue_number {c : UInt8} (starts : c = 45 ∨ isDigit c = true) (depth : Nat)
    (text : List UInt8) :
    readValue (depth + 1) (c :: text) =
      (readNumber (c :: text)).map fun p => (.number p.1, p.2) := by
  obtain ⟨noSpace, other⟩ := number_byte starts
  have differs : ∀ b ∈ [34, 44, 91, 93, 102, 110, 116, 123, 125], c ≠ b := by
    rintro b inList rfl
    exact other inList
  rw [readValue, token_cons noSpace]
  show (if c = 123 then _ else _) = _
  rw [if_neg (differs 123 (by decide)), if_neg (differs 91 (by decide)),
    if_neg (differs 34 (by decide)), if_neg (differs 116 (by decide)),
    if_neg (differs 102 (by decide)), if_neg (differs 110 (by decide))]

/-- No value starts with a comma. -/
theorem readValue_comma (depth : Nat) (text : List UInt8) :
    readValue depth (44 :: text) = none := by
  cases depth with
  | zero => rfl
  | succ depth =>
      rw [readValue, token_cons (by decide)]
      rfl

/-! ## Sequences in pieces

A writer that puts the commas itself writes a sequence in pieces, each with a comma before
it or without. A reader accepts the sequence exactly when every piece but the first has its
comma and every piece is read. -/

/-- One item as written: whether a comma stands before it, its text, whether a text behind
it could run into it, the value it stands for and whether a reader finds that value. -/
structure Piece (α : Type) where
  separated : Bool
  text : List UInt8
  runsOn : Bool
  value : α
  sound : Bool

namespace Piece

variable {α : Type}

def written (piece : Piece α) : List UInt8 :=
  if piece.separated then 44 :: piece.text else piece.text

/-- A byte an item starts with: no space, comma or closing byte. -/
def Starts (c : UInt8) : Prop := isSpace c = false ∧ c ≠ 44 ∧ c ≠ 93 ∧ c ≠ 125

/-- The text is an item's for the reader, and it is read exactly when the piece is sound. -/
structure Readable (readItem : List UInt8 → Option (α × List UInt8)) (piece : Piece α) :
    Prop where
  starts : ∃ c text, piece.text = c :: text ∧ Starts c
  reads : ∀ rest, (piece.runsOn = true → NumberEnds rest) →
    readItem (piece.text ++ rest) = if piece.sound then some (piece.value, rest) else none

/-- The second piece does not run into the first. -/
def Before (piece next : Piece α) : Prop :=
  piece.runsOn = true → next.separated = true ∨ NumberEnds next.text

theorem Readable.ne_close {readItem : List UInt8 → Option (α × List UInt8)} {piece : Piece α}
    (readable : piece.Readable readItem) {close : UInt8} (closes : close = 93 ∨ close = 125) :
    ∃ c text, piece.text = c :: text ∧ isSpace c = false ∧ c ≠ 44 ∧ c ≠ close := by
  obtain ⟨c, text, starts, noSpace, noComma, noBracket, noBrace⟩ := readable.starts
  refine ⟨c, text, starts, noSpace, noComma, ?_⟩
  obtain rfl | rfl := closes
  · exact noBracket
  · exact noBrace

theorem length_le_written {readItem : List UInt8 → Option (α × List UInt8)}
    {pieces : List (Piece α)} (readable : ∀ p ∈ pieces, p.Readable readItem) :
    pieces.length ≤ (pieces.flatMap written).length := by
  induction pieces with
  | nil => exact Nat.le_refl 0
  | cons piece pieces inductionHypothesis =>
      obtain ⟨c, text, starts, -⟩ := (readable piece List.mem_cons_self).starts
      have item : 1 ≤ piece.written.length := by
        rw [written, starts]
        split <;> simp
      have others := inductionHypothesis fun p member =>
        readable p (List.mem_cons_of_mem _ member)
      rw [List.flatMap_cons, List.length_append, List.length_cons]
      omega

/-- What stands behind a piece does not run into it. -/
theorem Before.numberEnds {readItem : List UInt8 → Option (α × List UInt8)}
    {piece next : Piece α} (before : piece.Before next) (readable : next.Readable readItem)
    (rest : List UInt8) : piece.runsOn = true → NumberEnds (next.written ++ rest) := by
  intro runsOn
  rw [written]
  cases separated : next.separated with
  | true => exact numberEnds_cons (by decide) _
  | false =>
      obtain ⟨c, text, starts, -⟩ := readable.starts
      have ends : NumberEnds next.text := by
        obtain comma | ends := before runsOn
        · exact absurd (separated.symm.trans comma) (by decide)
        · exact ends
      rw [starts] at ends
      simp only [Bool.false_eq_true, if_false]
      rw [starts]
      exact numberEnds_cons (ends c text rfl) _

end Piece

section Pieces

open Piece

variable {α : Type} {close : UInt8} {readItem : List UInt8 → Option (α × List UInt8)}
variable (closes : close = 93 ∨ close = 125)

include closes

theorem close_spec : isSpace close = false ∧ close ≠ 44 ∧ ∀ text, NumberEnds (close :: text) := by
  obtain rfl | rfl := closes
  · exact ⟨by decide, by decide, numberEnds_cons (by decide)⟩
  · exact ⟨by decide, by decide, numberEnds_cons (by decide)⟩

theorem readSeparated_pieces {piece : Piece α} {pieces : List (Piece α)}
    (readable : ∀ p ∈ piece :: pieces, p.Readable readItem)
    (chain : (piece :: pieces).IsChain Before)
    {bound : Nat} (enough : pieces.length < bound) (rest : List UInt8) :
    readSeparated close readItem bound
        (piece.text ++ (pieces.flatMap written ++ close :: rest)) =
      if (piece :: pieces).all (·.sound) ∧ pieces.all (·.separated) then
        some ((piece :: pieces).map (·.value), rest)
      else none := by
  obtain ⟨closeNoSpace, closeNoComma, closeEnds⟩ := close_spec closes
  induction pieces generalizing piece bound with
  | nil =>
      obtain ⟨n, rfl⟩ := Nat.exists_eq_add_one.mpr enough
      have read := (readable piece List.mem_cons_self).reads (close :: rest)
        fun _ => closeEnds rest
      rw [readSeparated, List.flatMap_nil, List.nil_append, read]
      cases sound : piece.sound with
      | false => simp [sound]
      | true =>
          show ((token (close :: rest)).bind fun p => _) = _
          rw [token_cons closeNoSpace]
          simp [sound, closeNoComma]
  | cons next pieces inductionHypothesis =>
      obtain ⟨n, rfl⟩ := Nat.exists_eq_add_one.mpr (Nat.zero_lt_of_lt enough)
      obtain ⟨before, chain⟩ := List.isChain_cons_cons.mp chain
      have nextReadable := readable next (by simp)
      have behind := before.numberEnds nextReadable (pieces.flatMap written ++ close :: rest)
      have read := (readable piece List.mem_cons_self).reads _ behind
      rw [readSeparated, List.flatMap_cons, List.append_assoc, read]
      cases sound : piece.sound with
      | false => simp [sound]
      | true =>
          show ((token (next.written ++ (pieces.flatMap written ++ close :: rest))).bind
            fun p => _) = _
          rw [written]
          cases separated : next.separated with
          | true =>
              simp only [if_true, List.cons_append]
              rw [token_cons (by decide)]
              simp only [Option.bind_some, if_true]
              rw [inductionHypothesis (fun p member => readable p (List.mem_cons_of_mem _ member))
                chain (by simpa using enough)]
              simp [sound, separated]
          | false =>
              -- the item behind stands without its comma
              obtain ⟨c, text, starts, noSpace, noComma, noClose⟩ := nextReadable.ne_close closes
              simp only [Bool.false_eq_true, if_false]
              rw [starts, List.cons_append, token_cons noSpace]
              simp [separated, noComma, noClose]

theorem readSequence_pieces {pieces : List (Piece α)}
    (readable : ∀ p ∈ pieces, p.Readable readItem)
    (first : ∀ p ∈ pieces.head?, p.separated = false)
    (chain : pieces.IsChain Before) (rest : List UInt8) :
    readSequence close readItem (pieces.flatMap written ++ close :: rest) =
      if pieces.all (·.sound) ∧ pieces.tail.all (·.separated) then
        some (pieces.map (·.value), rest)
      else none := by
  cases pieces with
  | nil =>
      rw [List.flatMap_nil, List.nil_append, readSequence_cons (close_spec closes).1]
      simp
  | cons piece pieces =>
      obtain ⟨c, text, starts, noSpace, -, noClose⟩ :=
        (readable piece List.mem_cons_self).ne_close closes
      have front : (piece :: pieces).flatMap written ++ close :: rest =
          piece.text ++ (pieces.flatMap written ++ close :: rest) := by
        rw [List.flatMap_cons, written, first piece rfl, List.append_assoc]
        rfl
      have enough : pieces.length <
          (piece.text ++ (pieces.flatMap written ++ close :: rest)).length := by
        have count := length_le_written fun p member => readable p (List.mem_cons_of_mem _ member)
        rw [List.length_append, List.length_append, List.length_cons]
        omega
      have read := readSeparated_pieces closes readable chain enough rest
      rw [starts, List.cons_append] at read
      rw [front, starts, List.cons_append, readSequence_cons noSpace, if_neg noClose, read]
      rfl

end Pieces

end JsonText
