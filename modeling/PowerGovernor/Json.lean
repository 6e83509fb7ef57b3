import PowerGovernor.Budget.Manager

/-!
Deterministic JSON text and its digest.

Owns the text of a number, the escaping of a string, the append-style writer with the
calls a decision document needs, and the FNV-1a digest in hexadecimal. Texts are byte
strings; every literal of the program is ASCII.
-/

set_option autoImplicit false

namespace PowerGovernor

/-- The bytes of an ASCII text. -/
def ascii (text : String) : Bytes := text.toList.map Char.toUInt8

/-- `std::to_string` of an unsigned integer. -/
def decimal (n : Nat) : Bytes := ascii (toString n)

/-! ## Digest -/

def fnv1a64 (s : Bytes) : UInt64 :=
  s.foldl (fun h c => (h ^^^ c.toUInt64) * 1099511628211) 1469598103934665603

/-- `"0123456789abcdef"[digit]`. -/
def hexDigit (digit : Nat) : UInt8 :=
  if digit < 10 then UInt8.ofNat (48 + digit) else UInt8.ofNat (87 + digit)

/-- `to_hex`: sixteen digits, the highest first. -/
def toHex (v : UInt64) : Bytes :=
  (List.range 16).map fun i => hexDigit (v.toNat >>> (4 * (15 - i)) % 16)

def digestHex (s : Bytes) : Bytes := toHex (fnv1a64 s)

/-! ## Strings -/

/-- What `json_escape` appends for one byte. A quote and a backslash are appended as they
are: the literals of the source are one byte each. -/
def jsonEscapeByte (c : UInt8) : Bytes :=
  if c = 34 then [34]
  else if c = 92 then [92]
  else if c = 10 then [92, 110]
  else if c = 13 then [92, 114]
  else if c = 9 then [92, 116]
  else if c < 32 then [92, 117, 48, 48, hexDigit (c.toNat / 16), hexDigit (c.toNat % 16)]
  else [c]

def jsonEscape (s : Bytes) : Bytes := s.flatMap jsonEscapeByte

/-- A text between quotes, as it is. -/
def quoted (s : Bytes) : Bytes := 34 :: s ++ [34]

/-! ## The writer -/

structure JsonWriter where
  buf : Bytes
  first : Bool
  valuePending : Bool

namespace JsonWriter

def blank : JsonWriter := ⟨[], true, false⟩

/-- `comma`. -/
def separate (w : JsonWriter) : JsonWriter :=
  { w with buf := if w.first then w.buf else w.buf ++ [44], first := false }

def append (w : JsonWriter) (text : Bytes) : JsonWriter := { w with buf := w.buf ++ text }

/-- `open`. -/
def opened (w : JsonWriter) (c : UInt8) : JsonWriter := ⟨w.buf ++ [c], true, false⟩

/-- `close`. -/
def closed (w : JsonWriter) (c : UInt8) : JsonWriter :=
  { w with buf := w.buf ++ [c], valuePending := false }

def beginObject (w : JsonWriter) : JsonWriter := w.opened 123

def endObject (w : JsonWriter) : JsonWriter := w.closed 125

def beginArray (w : JsonWriter) : JsonWriter := w.opened 91

def endArray (w : JsonWriter) : JsonWriter := w.closed 93

def appendString (w : JsonWriter) (s : Bytes) : JsonWriter := w.append (quoted (jsonEscape s))

/-- `value` of a string. -/
def value (w : JsonWriter) (s : Bytes) : JsonWriter := w.separate.appendString s

def rawKey (w : JsonWriter) (k : Bytes) : JsonWriter :=
  { (w.separate.appendString k).append [58] with valuePending := true }

def rawValue (w : JsonWriter) (raw : Bytes) : JsonWriter :=
  if w.valuePending then { w.append raw with valuePending := false }
  else w.separate.append raw

/-! Every call appends. -/

variable (w : JsonWriter)

theorem buf_separate : w.buf <+: w.separate.buf := by
  unfold separate
  cases w.first with
  | true => exact List.prefix_rfl
  | false => exact List.prefix_append _ _

theorem buf_endArray : w.buf <+: w.endArray.buf := List.prefix_append _ _

theorem buf_endObject : w.buf <+: w.endObject.buf := List.prefix_append _ _

theorem buf_beginArray : w.buf <+: w.beginArray.buf := List.prefix_append _ _

theorem buf_value (s : Bytes) : w.buf <+: (w.value s).buf :=
  w.buf_separate.trans (List.prefix_append _ _)

theorem buf_values (texts : List Bytes) : w.buf <+: (texts.foldl value w).buf := by
  induction texts generalizing w with
  | nil => exact List.prefix_rfl
  | cons s rest inductionHypothesis => exact (w.buf_value s).trans (inductionHypothesis _)

/-- A key with its raw value. -/
theorem buf_member (k raw : Bytes) : w.buf <+: ((w.rawKey k).rawValue raw).buf := by
  have key : w.buf <+: (w.rawKey k).buf :=
    (w.buf_separate.trans (List.prefix_append _ _)).trans (List.prefix_append _ _)
  exact key.trans (List.prefix_append _ _)

theorem buf_rawKey (k : Bytes) : w.buf <+: (w.rawKey k).buf :=
  (w.buf_separate.trans (List.prefix_append _ _)).trans (List.prefix_append _ _)

end JsonWriter

/-! ## Decimal numbers -/

theorem decimal_eq (n : Nat) : decimal n = (Nat.toDigits 10 n).map Char.toUInt8 := by
  unfold decimal ascii
  rw [show toString n = n.repr from rfl, Nat.repr_eq_ofList_toDigits]
  simp

/-- A digit is read back from its byte. -/
theorem ofNat_toUInt8_of_isDigit {c : Char} (digit : c.isDigit = true) :
    48 ≤ c.toUInt8.toNat ∧ Char.ofNat c.toUInt8.toNat = c := by
  have bounds : 48 ≤ c.toNat ∧ c.toNat ≤ 57 := by
    simpa [Char.isDigit, UInt32.le_iff_toNat_le] using digit
  have small : c.toUInt8.toNat = c.toNat := by
    show c.val.toUInt8.toNat = c.val.toNat
    rw [UInt32.toNat_toUInt8]
    exact Nat.mod_eq_of_lt (show c.toNat < 256 by omega)
  rw [small]
  exact ⟨bounds.1, Char.ofNat_toNat c⟩

theorem isDigit_of_mem_digits {n : Nat} {c : Char} (member : c ∈ Nat.toDigits 10 n) :
    c.isDigit = true := Nat.isDigit_of_mem_toDigits (by decide) (by decide) member

theorem quote_notMem_decimal (n : Nat) : 34 ∉ decimal n := by
  rw [decimal_eq]
  intro member
  obtain ⟨c, digit, quote⟩ := List.mem_map.mp member
  have bound := (ofNat_toUInt8_of_isDigit (isDigit_of_mem_digits digit)).1
  rw [quote] at bound
  exact absurd bound (by decide)

theorem decimal_injective {m n : Nat} (same : decimal m = decimal n) : m = n := by
  have digits : ∀ k, (decimal k).map (fun b => Char.ofNat b.toNat) = Nat.toDigits 10 k := by
    intro k
    rw [decimal_eq, List.map_map]
    refine (List.map_congr_left fun c member => ?_).trans (List.map_id _)
    exact (ofNat_toUInt8_of_isDigit (isDigit_of_mem_digits member)).2
  have read := congrArg (fun s => Nat.ofDigitChars 10 (s.map fun b => Char.ofNat b.toNat) 0) same
  simpa [digits, Nat.ofDigitChars_toDigits] using read

/-- A quoted number is read off the front of a text. -/
theorem decimal_eq_of_quoted {m n : Nat} {left right : Bytes}
    (same : decimal m ++ 34 :: left = decimal n ++ 34 :: right) : m = n := by
  have taken : ∀ (k : Nat) (rest : Bytes),
      (decimal k ++ 34 :: rest).takeWhile (· != 34) = decimal k := by
    intro k rest
    rw [List.takeWhile_append_of_pos]
    · simp
    · intro b member
      simp only [bne_iff_ne]
      rintro rfl
      exact quote_notMem_decimal k member
  have read := congrArg (List.takeWhile (· != 34)) same
  rw [taken, taken] at read
  exact decimal_injective read

end PowerGovernor
