import Mathlib.Tactic.Linarith
import Mathlib.Tactic.Positivity
import Mathlib.Algebra.Order.Floor.Ring
import Mathlib.Data.Rat.Floor
import PowerGovernor.Json.ReadBack
import PowerGovernor.Units

/-!
The six decimals of `std::to_string(double)` in a JSON text.

Owns the strings that need no escape, the millionths a double is rounded to, and what a JSON
reader finds where the text of a non-negative double stands: a number within half a millionth
of it.
-/

set_option autoImplicit false

namespace PowerGovernor

open JsonText

/-! ## Strings that need no escape -/

def PlainString (s : String) : Prop := ∀ c ∈ ascii s, Plain c

/-- ASCII characters but for the controls, the quote and the backslash. -/
def plainCharacters (l : List Char) : Bool :=
  l.all fun c => 32 ≤ c.toNat && c.toNat < 128 && c.toNat != 34 && c.toNat != 92

-- A literal is `String.ofList` of its characters, so for a literal the check is one `rfl`.
theorem plainString_ofList {l : List Char} (plain : plainCharacters l = true) :
    PlainString (String.ofList l) := by
  intro byte member
  rw [ascii, String.toList_ofList] at member
  obtain ⟨c, listed, rfl⟩ := List.mem_map.mp member
  have checked := List.all_eq_true.mp plain c listed
  simp only [Bool.and_eq_true, decide_eq_true_eq, bne_iff_ne] at checked
  obtain ⟨⟨⟨control, small⟩, quote⟩, slash⟩ := checked
  have same : c.toUInt8.toNat = c.toNat := Nat.mod_eq_of_lt (small.trans (by decide))
  refine ⟨fun isQuote => quote ?_, fun isSlash => slash ?_, ?_⟩
  · rw [← same, isQuote]
    rfl
  · rw [← same, isSlash]
    rfl
  · rw [UInt8.le_iff_toNat_le, same]
    exact control

theorem ascii_append (s t : String) : ascii (s ++ t) = ascii s ++ ascii t := by
  rw [ascii, String.toList_append, List.map_append]
  rfl

theorem plainString_append {s t : String} (left : PlainString s) (right : PlainString t) :
    PlainString (s ++ t) := by
  rw [PlainString, ascii_append]
  exact List.forall_mem_append.mpr ⟨left, right⟩

theorem plainString_intercalate {separator : String} (plain : PlainString separator)
    {texts : List String} (texts_plain : ∀ text ∈ texts, PlainString text) :
    PlainString (separator.intercalate texts) := by
  induction texts with
  | nil => exact fun c member => absurd member List.not_mem_nil
  | cons text texts inductionHypothesis =>
      obtain ⟨head, others⟩ := List.forall_mem_cons.mp texts_plain
      cases texts with
      | nil =>
          rw [String.intercalate_singleton]
          exact head
      | cons next texts =>
          rw [String.intercalate_cons_cons]
          exact plainString_append (plainString_append head plain) (inductionHypothesis others)

theorem plain_of_isDigit {c : UInt8} (digit : isDigit c = true) : Plain c := by
  have bounds : 48 ≤ c ∧ c ≤ 57 := of_decide_eq_true digit
  refine ⟨?_, ?_, UInt8.le_trans (by decide) bounds.1⟩
  · rintro rfl
    exact absurd bounds.1 (by decide)
  · rintro rfl
    exact absurd bounds.2 (by decide)

/-! ## Six decimals -/

/-- The number of millionths that the text of a double spells, its sign left out. -/
def millionths (v : ℚ) : ℤ :=
  let scaled := |v| * 1000000
  let below := scaled.floor
  let rest := scaled - below
  if rest < 1 / 2 then below else if 1 / 2 < rest then below + 1
    else if below % 2 = 0 then below else below + 1

/-- The digits behind the point. -/
def sixDigits (n : Nat) : Bytes := List.replicate (6 - (decimal n).length) 48 ++ decimal n

theorem ascii_pushn (n : Nat) : ascii ("".pushn '0' n) = List.replicate n 48 := by
  induction n with
  | zero => rfl
  | succ n inductionHypothesis =>
      rw [String.pushn_eq_repeat_push] at inductionHypothesis ⊢
      rw [Nat.repeat, ascii, String.toList_push, List.map_append, List.replicate_succ']
      exact congrArg (· ++ [48]) inductionHypothesis

theorem millionths_nonneg (v : ℚ) : 0 ≤ millionths v := by
  have scaled : 0 ≤ |v| * 1000000 := by positivity
  have below : 0 ≤ (|v| * 1000000).floor := Int.floor_nonneg.mpr scaled
  unfold millionths
  dsimp only
  split_ifs <;> omega

/-- The rounding is to a nearest millionth. -/
theorem abs_sub_millionths (v : ℚ) : |(|v| - millionths v / 1000000)| ≤ 1 / 2000000 := by
  have below : ((|v| * 1000000).floor : ℚ) ≤ |v| * 1000000 := Int.floor_le _
  have above : |v| * 1000000 < (|v| * 1000000).floor + 1 := Int.lt_floor_add_one _
  rw [abs_le]
  unfold millionths
  dsimp only
  split_ifs with down up even <;> push_cast <;> constructor <;> linarith

theorem length_ascii (s : String) : (ascii s).length = s.length := by
  rw [ascii, List.length_map, String.length_toList]

theorem ascii_toStringDouble (v : ℚ) :
    ascii (toStringDouble v) = (if v < 0 then [45] else []) ++
      (decimal ((millionths v).toNat / 1000000) ++
        46 :: sixDigits ((millionths v).toNat % 1000000)) := by
  obtain ⟨n, spelled⟩ := Int.eq_ofNat_of_zero_le (millionths_nonneg v)
  have sign : ascii (if v < 0 then "-" else "") = if v < 0 then [45] else [] := by
    split <;> rfl
  have whole : ascii (toString ((n : ℤ) / 1000000)) = decimal (n / 1000000) := rfl
  have part : ascii (toString ((n : ℤ) % 1000000)) = decimal (n % 1000000) := rfl
  have point : ascii "." = [46] := rfl
  show ascii ((if v < 0 then "-" else "") ++ toString (millionths v / 1000000) ++ "." ++
    "".pushn '0' (6 - (toString (millionths v % 1000000)).length) ++
      toString (millionths v % 1000000)) = _
  rw [spelled, ascii_append, ascii_append, ascii_append, ascii_append, sign, whole, ascii_pushn,
    ← length_ascii, part, point, Int.toNat_natCast, sixDigits]
  simp

/-! ## Reading the six decimals -/

theorem sixDigits_spec {n : Nat} (small : n < 1000000) :
    (∀ c ∈ sixDigits n, isDigit c = true) ∧ (sixDigits n).length = 6 ∧
      digitsValue (sixDigits n) = n := by
  obtain ⟨c, digits, text, isDigits, -, value⟩ := decimal_spec n
  have short : (decimal n).length ≤ 6 := by
    rw [decimal_eq, List.length_map]
    exact (Nat.length_toDigits_le_iff (by decide) (by decide)).mpr small
  have zeros : ∀ k, (List.replicate k (48 : UInt8)).foldl
      (fun n c => n * 10 + (c.toNat - 48)) 0 = 0 := by
    intro k
    induction k with
    | zero => rfl
    | succ k inductionHypothesis => exact inductionHypothesis
  refine ⟨fun b member => ?_, ?_, ?_⟩
  · obtain zero | own := List.mem_append.mp member
    · rw [List.eq_of_mem_replicate zero]
      decide
    · exact isDigits b (text ▸ own)
  · rw [sixDigits, List.length_append, List.length_replicate]
    omega
  · rw [sixDigits, digitsValue, List.foldl_append, zeros, text]
    exact value

/-- The text of a non-negative double starts with a digit. -/
theorem toStringDouble_starts {v : ℚ} (nonneg : 0 ≤ v) :
    ∃ c text, ascii (toStringDouble v) = c :: text ∧ isDigit c = true := by
  obtain ⟨c, digits, text, isDigits, -⟩ := decimal_spec ((millionths v).toNat / 1000000)
  rw [ascii_toStringDouble, if_neg (not_lt.mpr nonneg), text]
  exact ⟨c, _, rfl, isDigits c List.mem_cons_self⟩

/-- A reader finds the millionths. -/
theorem readNumber_toStringDouble {v : ℚ} (nonneg : 0 ≤ v) {rest : Bytes}
    (ends : NumberEnds rest) :
    readNumber (ascii (toStringDouble v) ++ rest) =
      some ((millionths v : ℚ) / 1000000, rest) := by
  obtain ⟨n, spelled⟩ := Int.eq_ofNat_of_zero_le (millionths_nonneg v)
  obtain ⟨c, digits, text, isDigits, leading, value⟩ := decimal_spec (n / 1000000)
  obtain ⟨fractionDigits, length, fraction⟩ := sixDigits_spec (Nat.mod_lt n (by decide))
  have some_digit : sixDigits (n % 1000000) ≠ [] := by
    intro none
    rw [none] at length
    exact absurd length (by decide)
  have noSign : c ≠ 45 := by
    rintro rfl
    exact absurd (isDigits 45 List.mem_cons_self) (by decide)
  have read := readUnsigned_point isDigits (fun zero => (leading zero).2) fractionDigits
    some_digit ends
  rw [ascii_toStringDouble, if_neg (not_lt.mpr nonneg), spelled, Int.toNat_natCast, text,
    List.nil_append, List.append_assoc, List.cons_append, List.cons_append, readNumber,
    if_neg noSign]
  rw [List.cons_append] at read
  rw [read, value, fraction, length]
  have split : ((n / 1000000 : ℕ) : ℚ) * 1000000 + (n % 1000000 : ℕ) = n := by
    exact_mod_cast Nat.div_add_mod' n 1000000
  have same : ((n / 1000000 : ℕ) : ℚ) + (n % 1000000 : ℕ) / 10 ^ 6 = n / 1000000 := by
    linarith
  rw [same, Int.cast_natCast]

theorem plainString_toStringDouble (v : ℚ) : PlainString (toStringDouble v) := by
  intro c member
  obtain ⟨first, digits, text, isDigits, -⟩ := decimal_spec ((millionths v).toNat / 1000000)
  have fraction := (sixDigits_spec (Nat.mod_lt (millionths v).toNat
    (show 1000000 > 0 by decide))).1
  rw [ascii_toStringDouble, List.mem_append, List.mem_append, List.mem_cons, text] at member
  obtain sign | whole | rfl | part := member
  · split at sign
    · rw [List.mem_singleton.mp sign]
      decide
    · exact absurd sign List.not_mem_nil
  · exact plain_of_isDigit (isDigits c whole)
  · decide
  · exact plain_of_isDigit (fraction c part)

end PowerGovernor
