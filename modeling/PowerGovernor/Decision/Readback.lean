import PowerGovernor.Decision.Document
import PowerGovernor.Decision.Hysteresis
import PowerGovernor.Json.FixedPoint

/-!
What a JSON reader finds in the document of a decision.

Owns the object a document stands for, the reading of an object whose members are written by
`raw_key` and `raw_value`, the texts an engine puts into a decision, none of which needs an
escape, and the reading of every document an engine returns. The limit is written in six
decimals, so it comes back as a nearest millionth.
-/

set_option autoImplicit false

namespace PowerGovernor

open JsonText

/-! ## Texts a reader finds -/

/-- A reader that stands before the text and goes deep enough finds the value and what is
behind. -/
structure Written (text : Bytes) (value : JsonTree) : Prop where
  starts : ∃ c tail, text = c :: tail ∧ Piece.Starts c
  reads : ∀ (depth : Nat) (rest : Bytes), text.length ≤ depth → NumberEnds rest →
    readValue depth (text ++ rest) = some (value, rest)

theorem written_document {document : Document} (placed : document.wellPlaced = true) :
    Written document.body document.tree where
  starts := document.body_starts
  reads := fun depth rest deep ends => by
    rw [document.reads depth rest deep fun _ => ends, if_pos placed]

theorem written_leaf (leaf : Leaf) : Written leaf.text leaf.tree := by
  have placed : (Document.leaf .rawValue leaf).wellPlaced = true := rfl
  exact written_document placed

theorem written_null : Written (ascii "null") .null where
  starts := ⟨110, [117, 108, 108], by decide, by unfold Piece.Starts; decide⟩
  reads := fun depth rest deep _ => by
    obtain ⟨inner, rfl⟩ := Nat.exists_eq_add_one.mpr (Nat.lt_of_lt_of_le (by decide) deep)
    exact readValue_null inner rest

/-- The six decimals of a non-negative double. -/
theorem written_toStringDouble {v : ℚ} (nonneg : 0 ≤ v) :
    Written (ascii (toStringDouble v)) (.number (millionths v / 1000000)) := by
  obtain ⟨c, tail, text, digit⟩ := toStringDouble_starts nonneg
  refine ⟨⟨c, tail, text, number_starts (.inr digit)⟩, fun depth rest deep ends => ?_⟩
  have positive : 0 < (ascii (toStringDouble v)).length := by simp [text]
  obtain ⟨inner, rfl⟩ := Nat.exists_eq_add_one.mpr (Nat.lt_of_lt_of_le positive deep)
  have read := readNumber_toStringDouble nonneg ends
  rw [text, List.cons_append] at read ⊢
  rw [readValue_number (.inr digit), read]
  rfl

/-! ## Members written by `raw_key` and `raw_value` -/

/-- A member with the text of its value and the value. -/
structure RawMember where
  key : String
  text : Bytes
  value : JsonTree

namespace RawMember

/-- The key needs no escape and the text is read as the value. -/
structure Sound (m : RawMember) : Prop where
  plain : PlainString m.key
  written : Written m.text m.value

def piece (first : Bool) (m : RawMember) : Piece (Bytes × JsonTree) where
  separated := !first
  text := quoted (ascii m.key) ++ 58 :: m.text
  runsOn := true
  value := (ascii m.key, m.value)
  sound := true

/-- The members of an object as pieces: all but the first behind a comma. -/
def pieces : List RawMember → List (Piece (Bytes × JsonTree))
  | [] => []
  | m :: members => m.piece true :: members.map (piece false)

/-- One call of `raw_key` and one of `raw_value` for each member. -/
def drive (w : JsonWriter) (members : List RawMember) : JsonWriter :=
  members.foldl (fun w m => (w.rawKey (ascii m.key)).rawValue m.text) w

variable {m : RawMember} {members : List RawMember}

theorem drive_one (plain : PlainString m.key) (w : JsonWriter) :
    (w.rawKey (ascii m.key)).rawValue m.text =
      ⟨w.buf ++ (m.piece w.first).written, false, false⟩ := by
  have key := Document.rawKey_eq w ⟨ascii m.key, plain⟩
  dsimp only at key
  rw [key]
  cases first : w.first <;> simp [JsonWriter.rawValue, JsonWriter.append, piece, Piece.written]

theorem drive_others (plain : ∀ m ∈ members, PlainString m.key) (buf : Bytes) :
    drive ⟨buf, false, false⟩ members =
      ⟨buf ++ (members.map (piece false)).flatMap Piece.written, false, false⟩ := by
  induction members generalizing buf with
  | nil => simp [drive]
  | cons m members inductionHypothesis =>
      obtain ⟨own, others⟩ := List.forall_mem_cons.mp plain
      rw [drive, List.foldl_cons, drive_one own, ← drive, inductionHypothesis others,
        List.map_cons, List.flatMap_cons, List.append_assoc]

theorem drive_object (plain : ∀ p ∈ m :: members, PlainString p.key) :
    (drive JsonWriter.blank.beginObject (m :: members)).endObject.buf =
      123 :: ((pieces (m :: members)).flatMap Piece.written ++ [125]) := by
  obtain ⟨own, others⟩ := List.forall_mem_cons.mp plain
  rw [drive, List.foldl_cons, drive_one own, ← drive, drive_others others]
  simp [pieces, JsonWriter.endObject, JsonWriter.closed, JsonWriter.beginObject,
    JsonWriter.opened, JsonWriter.blank]

theorem Sound.readable (sound : m.Sound) (first : Bool) {depth : Nat}
    (deep : m.text.length ≤ depth) :
    (m.piece first).Readable (readMember (readValue depth)) where
  starts := ⟨34, _, rfl, by unfold Piece.Starts; decide⟩
  reads := fun rest ends => by
    have text : (m.piece first).text ++ rest =
        34 :: (ascii m.key ++ 34 :: 58 :: (m.text ++ rest)) := by
      simp [piece, quoted]
    rw [text, readMember_plain _ sound.plain, sound.written.reads depth rest deep (ends rfl)]
    rfl

/-- Each member stands behind a comma, so none runs into the one before. -/
theorem pieces_chain (first : Bool) (m : RawMember) (members : List RawMember) :
    (m.piece first :: members.map (piece false)).IsChain Piece.Before := by
  induction members generalizing m first with
  | nil => exact .singleton _
  | cons next members inductionHypothesis =>
      exact List.isChain_cons_cons.mpr ⟨fun _ => .inl rfl, inductionHypothesis false next⟩

theorem pieces_value (m : RawMember) (members : List RawMember) :
    (pieces (m :: members)).map (·.value) =
      (m :: members).map fun m => (ascii m.key, m.value) := by
  rw [pieces, List.map_cons, List.map_map]
  rfl

/-- The text of each member is a part of the whole. -/
theorem length_le_pieces (inMembers : m ∈ members) :
    m.text.length ≤ ((pieces members).flatMap Piece.written).length := by
  have part : ∃ first, m.piece first ∈ pieces members := by
    cases members with
    | nil => exact absurd inMembers List.not_mem_nil
    | cons head members =>
        obtain rfl | behind := List.mem_cons.mp inMembers
        · exact ⟨true, List.mem_cons_self⟩
        · exact ⟨false, List.mem_cons_of_mem _ (List.mem_map_of_mem behind)⟩
  obtain ⟨first, inPieces⟩ := part
  have own : m.text.length ≤ (m.piece first).written.length := by
    cases first <;> simp [piece, Piece.written] <;> omega
  have inWhole : (m.piece first).written <:+: (pieces members).flatMap Piece.written :=
    List.infix_of_mem_flatten (List.mem_map_of_mem inPieces)
  exact own.trans inWhole.length_le

/-- An object whose members are sound is parsed as its members. -/
theorem parse_drive (sound : ∀ p ∈ m :: members, p.Sound) :
    parse (drive JsonWriter.blank.beginObject (m :: members)).endObject.buf =
      some (.object ((m :: members).map fun m => (ascii m.key, m.value))) := by
  have inner : ∀ p ∈ m :: members, p.text.length ≤
      ((pieces (m :: members)).flatMap Piece.written ++ [125]).length := fun p inMembers => by
    have := length_le_pieces inMembers
    rw [List.length_append]
    omega
  have readable : ∀ piece ∈ pieces (m :: members), piece.Readable (readMember
      (readValue ((pieces (m :: members)).flatMap Piece.written ++ [125]).length)) := by
    rw [pieces]
    refine List.forall_mem_cons.mpr ⟨?_, fun piece inTail => ?_⟩
    · exact (sound m List.mem_cons_self).readable true (inner m List.mem_cons_self)
    · obtain ⟨p, behind, rfl⟩ := List.mem_map.mp inTail
      have inMembers := List.mem_cons_of_mem m behind
      exact (sound p inMembers).readable false (inner p inMembers)
  have separated : (pieces (m :: members)).tail.all (·.separated) = true := by
    rw [pieces, List.tail_cons, List.all_map]
    exact List.all_eq_true.mpr fun _ _ => rfl
  have allSound : (pieces (m :: members)).all (·.sound) = true := by
    rw [pieces, List.all_cons, List.all_map]
    exact Bool.and_eq_true_iff.mpr ⟨rfl, List.all_eq_true.mpr fun _ _ => rfl⟩
  have read := readSequence_pieces (.inr rfl) readable (fun p isHead => by
    rw [← Option.some.inj isHead]
    rfl) (pieces_chain true m members) []
  rw [if_pos ⟨allSound, separated⟩, pieces_value] at read
  rw [drive_object fun p inMembers => (sound p inMembers).plain, parse, List.length_cons,
    readValue_object, read]
  rfl

end RawMember

/-! ## An array of plain strings -/

/-- The strings as they are driven through `value`. -/
def stringArray (items : List PlainText) : Document :=
  .array (items.map fun s => .leaf .value (.string s))

theorem stringArray_placed (items : List PlainText) : (stringArray items).wellPlaced = true := by
  cases items with
  | nil => rfl
  | cons head items =>
      simp [stringArray, Document.wellPlaced, Document.itemsPlaced, Document.isLeaf,
        Document.endsEmpty]

theorem stringArray_tree (items : List PlainText) :
    (stringArray items).tree = .array ((items.map PlainText.bytes).map .string) := by
  have trees : Document.itemTrees (items.map fun s => .leaf .value (.string s)) =
      (items.map PlainText.bytes).map .string := by
    induction items with
    | nil => rfl
    | cons head items inductionHypothesis =>
        rw [List.map_cons, Document.itemTrees, inductionHypothesis]
        rfl
  rw [stringArray, Document.tree, trees]

theorem foldl_value (items : List PlainText) (w : JsonWriter) :
    (items.map PlainText.bytes).foldl JsonWriter.value w =
      Document.driveItems w (items.map fun s => .leaf .value (.string s)) := by
  induction items generalizing w with
  | nil => rfl
  | cons head items inductionHypothesis =>
      rw [List.map_cons, List.foldl_cons, inductionHypothesis]
      rfl

theorem exists_plainTexts {texts : List String} (plain : ∀ text ∈ texts, PlainString text) :
    ∃ items : List PlainText, items.map PlainText.bytes = texts.map ascii := by
  induction texts with
  | nil => exact ⟨[], rfl⟩
  | cons text texts inductionHypothesis =>
      obtain ⟨own, others⟩ := List.forall_mem_cons.mp plain
      obtain ⟨items, same⟩ := inductionHypothesis others
      exact ⟨⟨ascii text, own⟩ :: items, congrArg (ascii text :: ·) same⟩

/-! ## The document of a decision -/

namespace Decision

/-- A name between quotes. -/
def nameMember (key name : String) : RawMember :=
  ⟨key, quoted (ascii name), .string (ascii name)⟩

/-- A text between quotes, escaped. -/
def textMember (key text : String) : RawMember :=
  ⟨key, quoted (jsonEscape (ascii text)), .string (ascii text)⟩

def boolMember (key : String) (b : Bool) : RawMember :=
  ⟨key, ascii (if b then "true" else "false"), .bool b⟩

/-- The members in order, each with the text `build_json` gives to `raw_value`. -/
def rawMembers (d : Decision) : List RawMember :=
  [⟨"id", quoted (decimal d.id.raw.toNat), .string (decimal d.id.raw.toNat)⟩,
    ⟨"generation", decimal d.generation.raw.toNat, .number d.generation.raw.toNat⟩,
    nameMember "verdict" d.verdict.name,
    nameMember "effective_state" d.effectiveState.name,
    match d.recommendedLimit with
    | some limit => ⟨"recommended_limit_w", ascii (toStringDouble limit.value),
        .number (millionths limit.value / 1000000)⟩
    | none => ⟨"recommended_limit_w", ascii "null", .null⟩,
    nameMember "binding_kind" d.explanation.bindingKind.name,
    boolMember "telemetry_current" d.explanation.telemetryCurrent,
    nameMember "telemetry_freshness" d.explanation.telemetryFreshness.name,
    nameMember "thermal_state" d.explanation.thermalState.name,
    nameMember "power_class" d.explanation.powerClass.name,
    boolMember "burst_available" d.explanation.burstAvailable,
    nameMember "evidence" d.explanation.evidence.name,
    textMember "why" d.explanation.why,
    textMember "what_would_change" d.explanation.whatWouldChange]

/-- The object the document stands for. -/
def members (d : Decision) : List (Bytes × JsonTree) :=
  [(ascii "id", .string (decimal d.id.raw.toNat)),
    (ascii "generation", .number d.generation.raw.toNat),
    (ascii "verdict", .string (ascii d.verdict.name)),
    (ascii "effective_state", .string (ascii d.effectiveState.name)),
    (ascii "recommended_limit_w", match d.recommendedLimit with
      | some limit => .number (millionths limit.value / 1000000)
      | none => .null),
    (ascii "binding_kind", .string (ascii d.explanation.bindingKind.name)),
    (ascii "telemetry_current", .bool d.explanation.telemetryCurrent),
    (ascii "telemetry_freshness", .string (ascii d.explanation.telemetryFreshness.name)),
    (ascii "thermal_state", .string (ascii d.explanation.thermalState.name)),
    (ascii "power_class", .string (ascii d.explanation.powerClass.name)),
    (ascii "burst_available", .bool d.explanation.burstAvailable),
    (ascii "evidence", .string (ascii d.explanation.evidence.name)),
    (ascii "why", .string (ascii d.explanation.why)),
    (ascii "what_would_change", .string (ascii d.explanation.whatWouldChange)),
    (ascii "reasons", .array (d.reasons.map fun r => .string (ascii r)))]

def reasonsMember (items : List PlainText) : RawMember :=
  ⟨"reasons", (stringArray items).body, (stringArray items).tree⟩

/-- The document is the members and the reasons as one more. -/
theorem json_eq (d : Decision) {items : List PlainText}
    (reasons : items.map PlainText.bytes = d.reasons.map ascii) :
    d.json = (RawMember.drive JsonWriter.blank.beginObject
      (d.rawMembers ++ [reasonsMember items])).endObject.buf := by
  have body : documentBody d.documentHead d =
      RawMember.drive JsonWriter.blank.beginObject d.rawMembers := by
    cases limit : d.recommendedLimit <;>
      simp only [documentBody, documentHead, RawMember.drive, rawMembers, nameMember, textMember,
        boolMember, limit, List.foldl_cons, List.foldl_nil]
  -- the calls behind the last key append what the traversal of the array appends
  have array (w : JsonWriter) :
      ((d.reasons.map ascii).foldl JsonWriter.value
        (w.rawKey (ascii "reasons")).beginArray).endArray.endObject.buf =
          ((w.rawKey (ascii "reasons")).rawValue (stringArray items).body).endObject.buf := by
    have driven : ∀ documents, Document.drive (w.rawKey (ascii "reasons")) (.array documents) = _ :=
      fun documents => Document.drive_array (fun item _ => item.drives) _
    have calls : ((d.reasons.map ascii).foldl JsonWriter.value
        (w.rawKey (ascii "reasons")).beginArray).endArray =
          Document.drive (w.rawKey (ascii "reasons")) (stringArray items) := by
      rw [← reasons, foldl_value]
      rfl
    rw [calls, stringArray, driven]
    simp [JsonWriter.rawValue, JsonWriter.rawKey, JsonWriter.append, JsonWriter.endObject,
      JsonWriter.closed]
  rw [json, array, body, RawMember.drive, RawMember.drive, List.foldl_append, List.foldl_cons,
    List.foldl_nil]
  rfl

/-! ## No text of a decision needs an escape -/

/-- The texts an engine chooses. -/
structure Plain (d : Decision) : Prop where
  reasons : ∀ r ∈ d.reasons, PlainString r
  why : PlainString d.explanation.why
  whatWouldChange : PlainString d.explanation.whatWouldChange

theorem written_name {name : String} (plain : PlainString name) :
    Written (quoted (ascii name)) (.string (ascii name)) := by
  have leaf := written_leaf (.string ⟨ascii name, plain⟩)
  rwa [Leaf.text, jsonEscape_plain plain] at leaf

theorem written_text {text : String} (plain : PlainString text) :
    Written (quoted (jsonEscape (ascii text))) (.string (ascii text)) :=
  written_leaf (.string ⟨ascii text, plain⟩)

theorem written_bool (b : Bool) : Written (ascii (if b then "true" else "false")) (.bool b) :=
  written_leaf (.boolean b)

theorem plain_decimal (n : Nat) : ∀ c ∈ decimal n, JsonText.Plain c := by
  obtain ⟨first, digits, text, isDigits, -⟩ := decimal_spec n
  intro c member
  exact plain_of_isDigit (isDigits c (text ▸ member))

theorem written_decimal (n : Nat) : Written (quoted (decimal n)) (.string (decimal n)) := by
  have leaf := written_leaf (.string ⟨decimal n, plain_decimal n⟩)
  rwa [Leaf.text, jsonEscape_plain (plain_decimal n)] at leaf

theorem written_number (n : Nat) : Written (decimal n) (.number n) := by
  have leaf := written_leaf (.integer n)
  rwa [Leaf.tree, Int.cast_natCast] at leaf

/-- The keys but for the last. -/
def keys : List String :=
  ["id", "generation", "verdict", "effective_state", "recommended_limit_w", "binding_kind",
    "telemetry_current", "telemetry_freshness", "thermal_state", "power_class",
    "burst_available", "evidence", "why", "what_would_change"]

theorem plain_key {key : String} (listed : key ∈ keys) : PlainString key := by
  simp only [keys, List.mem_cons, List.not_mem_nil, or_false] at listed
  rcases listed with rfl | rfl | rfl | rfl | rfl | rfl | rfl | rfl | rfl | rfl | rfl | rfl | rfl |
    rfl <;> exact plainString_ofList rfl

theorem plain_verdict (v : DecisionVerdict) : PlainString v.name := by
  cases v <;> exact plainString_ofList rfl

theorem plain_performance (s : PerformanceState) : PlainString s.name := by
  cases s <;> exact plainString_ofList rfl

theorem plain_bindingKind (kind : BindingKind) : PlainString kind.name := by
  cases kind <;> exact plainString_ofList rfl

theorem plain_freshness (f : FreshnessState) : PlainString f.name := by
  cases f <;> exact plainString_ofList rfl

theorem plain_thermalState (s : ThermalState) : PlainString s.name := by
  cases s <;> exact plainString_ofList rfl

theorem plain_powerClass (c : WorkloadPowerClass) : PlainString c.name := by
  cases c <;> exact plainString_ofList rfl

theorem plain_evidence (p : EnergyProvenance) : PlainString p.name := by
  cases p <;> exact plainString_ofList rfl

theorem keys_rawMembers (d : Decision) : d.rawMembers.map RawMember.key = keys := by
  rw [rawMembers]
  cases d.recommendedLimit <;> rfl

theorem written_rawMembers {d : Decision} (plain : d.Plain) :
    ∀ m ∈ d.rawMembers, Written m.text m.value := by
  rw [rawMembers]
  simp only [List.forall_mem_cons]
  refine ⟨written_decimal _, written_number _, written_name (plain_verdict _),
    written_name (plain_performance _), ?_, written_name (plain_bindingKind _), written_bool _,
    written_name (plain_freshness _), written_name (plain_thermalState _),
    written_name (plain_powerClass _), written_bool _, written_name (plain_evidence _),
    written_text plain.why, written_text plain.whatWouldChange,
    fun m none => absurd none List.not_mem_nil⟩
  cases d.recommendedLimit with
  | none => exact written_null
  | some limit => exact written_toStringDouble (Watts.nonneg limit)

theorem sound_rawMembers {d : Decision} (plain : d.Plain) : ∀ m ∈ d.rawMembers, m.Sound := by
  intro m member
  have listed : m.key ∈ keys := d.keys_rawMembers ▸ List.mem_map_of_mem member
  exact ⟨plain_key listed, written_rawMembers plain m member⟩

/-- The document of a decision without a text to escape is parsed as its members. -/
theorem parse_json {d : Decision} (plain : d.Plain) : parse d.json = some (.object d.members) := by
  obtain ⟨items, reasons⟩ := exists_plainTexts plain.reasons
  have last : (reasonsMember items).Sound :=
    ⟨plainString_ofList rfl, written_document (stringArray_placed items)⟩
  have sound : ∀ m ∈ d.rawMembers ++ [reasonsMember items], m.Sound :=
    List.forall_mem_append.mpr ⟨sound_rawMembers plain, List.forall_mem_singleton.mpr last⟩
  have values : (d.rawMembers ++ [reasonsMember items]).map (fun m => (ascii m.key, m.value)) =
      d.members := by
    rw [List.map_append, List.map_singleton, reasonsMember, stringArray_tree, reasons,
      List.map_map, members, rawMembers]
    cases d.recommendedLimit <;> rfl
  rw [d.json_eq reasons, ← values]
  exact RawMember.parse_drive sound

end Decision

/-! ## The texts of an engine -/

namespace HardCeiling

theorem plain_text (best : HardCeiling) : PlainString best.text := by
  unfold text
  cases best.limit with
  | none => exact plainString_ofList rfl
  | some limit => exact plainString_toStringDouble _

end HardCeiling

namespace DecisionInput

/-- No reason needs an escape. -/
def PlainReasons (outcome : Outcome) : Prop := ∀ r ∈ outcome.reasons, PlainString r

/-- A reason that stands under a condition. -/
theorem plain_when {reason : String} (plain : PlainString reason) (condition : Bool) :
    ∀ r ∈ (if condition then [reason] else []), PlainString r := by
  cases condition with
  | false => exact fun r none => absurd none List.not_mem_nil
  | true => exact List.forall_mem_singleton.mpr plain

variable (input : DecisionInput) (best : HardCeiling)

theorem plain_revalidation : PlainReasons input.revalidation := by
  refine List.forall_mem_append.mpr ⟨List.forall_mem_singleton.mpr ?_, ?_⟩
  · exact plainString_append (plainString_append (plainString_ofList rfl)
      (Decision.plain_freshness input.powerFreshness)) (plainString_ofList rfl)
  · cases input.policyCurrent with
    | false => exact List.forall_mem_singleton.mpr (plainString_ofList rfl)
    | true => exact fun r none => absurd none List.not_mem_nil

theorem plain_noCapacity : PlainReasons (input.noCapacity best) :=
  List.forall_mem_append.mpr ⟨List.forall_mem_singleton.mpr (plainString_ofList rfl),
    plain_when (plainString_ofList rfl) input.constrained⟩

theorem plain_overCeiling : PlainReasons (input.overCeiling best) := by
  have requested : PlainString input.requestedPower.text :=
    plainString_append (plainString_toStringDouble _)
      (plainString_ofList rfl)
  have exceeds : PlainString ("requested power " ++ input.requestedPower.text ++
      " exceeds available ceiling " ++ best.text ++ "W") := by
    refine plainString_append (plainString_append ?_ best.plain_text)
      (plainString_ofList rfl)
    exact plainString_append (plainString_append (plainString_ofList rfl) requested)
      (plainString_ofList rfl)
  unfold overCeiling PlainReasons
  dsimp only
  refine List.forall_mem_cons.mpr ⟨exceeds, List.forall_mem_singleton.mpr ?_⟩
  split_ifs <;> exact plainString_ofList rfl

theorem plain_overSoftTarget : PlainReasons (input.overSoftTarget best) := by
  unfold overSoftTarget
  split
  · exact List.forall_mem_singleton.mpr (plainString_ofList rfl)
  · exact List.forall_mem_singleton.mpr (plainString_ofList rfl)

theorem plain_allowed : PlainReasons (input.allowed best) :=
  List.forall_mem_append.mpr ⟨plain_when (plainString_ofList rfl) input.hot,
    plain_when (plainString_ofList rfl) input.hardwareThrottled⟩

theorem plain_stages : PlainReasons input.stages.outcome := by
  unfold stages
  dsimp only
  split
  · exact input.plain_revalidation
  split
  · exact input.plain_noCapacity _
  split
  · exact input.plain_overCeiling _
  split
  · exact List.forall_mem_singleton.mpr (plainString_ofList rfl)
  split
  · exact List.forall_mem_singleton.mpr (plainString_ofList rfl)
  split
  · exact input.plain_overSoftTarget _
  split
  · exact List.forall_mem_singleton.mpr (plainString_ofList rfl)
  · exact input.plain_allowed _

end DecisionInput

namespace DecisionEngine

open DecisionInput

variable {engine engine' : DecisionEngine} {input : DecisionInput} {now : Timestamp}

/-- The hysteresis adds one reason at most. -/
theorem plain_hold {outcome final : Outcome} (plain : PlainReasons outcome)
    (returned : engine.hold input now outcome = .ok final) : PlainReasons final := by
  unfold hold at returned
  split at returned
  · obtain rfl := Except.ok.inj returned
    exact plain
  split at returned
  · obtain rfl := Except.ok.inj returned
    exact plain
  obtain ⟨dt, -, body⟩ := bind_eq_ok.mp returned
  have holding : PlainString ("hysteresis holding previous restrictive verdict for " ++ dt.text) :=
    plainString_append (plainString_ofList rfl)
      (plainString_append (plainString_toStringDouble _) (plainString_ofList rfl))
  have reasons : ∀ r ∈ outcome.reasons ++
      ["hysteresis holding previous restrictive verdict for " ++ dt.text], PlainString r :=
    List.forall_mem_append.mpr ⟨plain, List.forall_mem_singleton.mpr holding⟩
  dsimp only at body
  split at body
  · split at body
    · obtain rfl := Except.ok.inj body
      exact reasons
    · obtain rfl := Except.ok.inj body
      exact reasons
  · obtain rfl := Except.ok.inj body
    exact plain

theorem plain_resolve {outcome : Outcome} (resolved : engine.resolve input now = .ok outcome) :
    PlainReasons outcome := by
  have plain := input.plain_stages
  unfold resolve at resolved
  split at resolved
  · rename_i early staged
    obtain rfl := Except.ok.inj resolved
    rwa [staged] at plain
  · rename_i allowed staged
    rw [staged] at plain
    exact plain_hold plain resolved

theorem plain_whatWouldChange (telemetryCurrent : Bool) (kind : BindingKind) :
    PlainString (whatWouldChange telemetryCurrent kind) := by
  unfold whatWouldChange
  split
  · exact plainString_ofList rfl
  · cases kind <;> exact plainString_ofList rfl

/-- The texts of a decision are the engine's own. -/
theorem plain_of_evaluate {ids ids' : Allocators} {d : Decision}
    (returned : engine.evaluate ids input now = .ok (d, engine', ids')) : d.Plain := by
  obtain ⟨outcome, resolved, made⟩ := bind_eq_ok.mp returned
  have plain := plain_resolve resolved
  cases made
  refine ⟨plain, ?_, plain_whatWouldChange _ _⟩
  show PlainString (if ("; ".intercalate outcome.reasons).isEmpty then "no binding constraint"
    else "; ".intercalate outcome.reasons)
  split
  · exact plainString_ofList rfl
  · exact plainString_intercalate (plainString_ofList rfl) plain

/-- What a decision says can be read off its document. Whatever the engine, its input and the
time, a JSON reader finds the object with the fields of the decision in their order, and the
limit in it is within half a millionth of the one decided on. -/
theorem document_reads_back {ids ids' : Allocators} {d : Decision}
    (returned : engine.evaluate ids input now = .ok (d, engine', ids')) :
    parse d.json = some (.object d.members) ∧
    ∀ limit, d.recommendedLimit = some limit →
      (ascii "recommended_limit_w", .number (millionths limit.value / 1000000)) ∈ d.members ∧
        |limit.value - millionths limit.value / 1000000| ≤ 1 / 2000000 := by
  refine ⟨Decision.parse_json (plain_of_evaluate returned), fun limit recommended => ⟨?_, ?_⟩⟩
  · rw [Decision.members, recommended]
    simp
  · have near := abs_sub_millionths limit.value
    rwa [abs_of_nonneg (Watts.nonneg limit)] at near

/-- What a new engine says of a request for 100 W from a device without capacity. -/
def refusal : Decision :=
  ((construct .first).makeVerdict .start refusedInput Timestamp.zero
    refusedInput.stages.outcome).1

theorem resolve_refusal : (construct .first).resolve refusedInput Timestamp.zero =
    .ok refusedInput.stages.outcome := by
  unfold resolve
  cases refusedInput.stages <;> rfl

theorem document_reads_back_refusal :
    refusal.recommendedLimit = some Watts.zero ∧
    parse refusal.json = some (.object refusal.members) ∧
    ∀ limit, refusal.recommendedLimit = some limit →
      (ascii "recommended_limit_w", .number (millionths limit.value / 1000000)) ∈
          refusal.members ∧
        |limit.value - millionths limit.value / 1000000| ≤ 1 / 2000000 :=
  ⟨by decide +kernel, document_reads_back (evaluate_of_resolved resolve_refusal .start)⟩

end DecisionEngine

end PowerGovernor
