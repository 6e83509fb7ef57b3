import PowerGovernor.Json.Writer

/-!
What a JSON reader makes of a driven tree.

Owns the reading of a decimal text, of a leaf and of each container from its pieces, and the
trees that are read back: exactly the well placed ones. Every other tree is refused by the
reader.
-/

set_option autoImplicit false

namespace PowerGovernor

open JsonText

/-! ## Integers -/

theorem decimal_of_lt_ten {n : Nat} (small : n < 10) : decimal n = [UInt8.ofNat (48 + n)] := by
  rw [decimal_eq, Nat.toDigits_of_lt_base small]
  exact (show ∀ k < 10, [k.digitChar].map Char.toUInt8 = [UInt8.ofNat (48 + k)] by decide) n small

theorem decimal_of_ten_le {n : Nat} (large : 10 ≤ n) :
    decimal n = decimal (n / 10) ++ [UInt8.ofNat (48 + n % 10)] := by
  have last := decimal_of_lt_ten (Nat.mod_lt n (show 10 > 0 by decide))
  rw [← last, decimal_eq, decimal_eq, decimal_eq,
    Nat.toDigits_of_lt_base (Nat.mod_lt n (show 10 > 0 by decide)),
    Nat.toDigits_of_base_le (by decide) large, List.map_append]

theorem digit_spec : ∀ k < 10, isDigit (UInt8.ofNat (48 + k)) = true ∧
    (UInt8.ofNat (48 + k)).toNat - 48 = k ∧ (UInt8.ofNat (48 + k) = 48 → k = 0) := by decide

/-- A decimal text is digits without a leading zero, and they stand for the number. -/
theorem decimal_spec (n : Nat) :
    ∃ c digits, decimal n = c :: digits ∧ (∀ b ∈ c :: digits, isDigit b = true) ∧
      (c = 48 → n = 0 ∧ digits = []) ∧ digitsValue (c :: digits) = n := by
  induction n using Nat.strong_induction_on with
  | _ n inductionHypothesis =>
      by_cases small : n < 10
      · obtain ⟨digit, value, zero⟩ := digit_spec n small
        refine ⟨_, [], decimal_of_lt_ten small, by simpa using digit,
          fun same => ⟨zero same, rfl⟩, ?_⟩
        simpa [digitsValue] using value
      · have large : 10 ≤ n := Nat.not_lt.mp small
        obtain ⟨c, digits, text, isDigits, leading, value⟩ :=
          inductionHypothesis (n / 10) (by omega)
        obtain ⟨digit, last, -⟩ := digit_spec (n % 10) (Nat.mod_lt n (by decide))
        refine ⟨c, digits ++ [UInt8.ofNat (48 + n % 10)], ?_, ?_, fun same => ?_, ?_⟩
        · rw [decimal_of_ten_le large, text, List.cons_append]
        · intro b inText
          rw [← List.cons_append, List.mem_append, List.mem_singleton] at inText
          obtain inFront | rfl := inText
          · exact isDigits b inFront
          · exact digit
        · have := (leading same).1
          omega
        · rw [← List.cons_append, digitsValue, List.foldl_append]
          show digitsValue (c :: digits) * 10 + _ = n
          rw [value, last]
          omega

theorem readUnsigned_decimal (n : Nat) {rest : Bytes} (ends : NumberEnds rest) :
    readUnsigned (decimal n ++ rest) = some ((n : ℚ), rest) := by
  obtain ⟨c, digits, text, isDigits, leading, value⟩ := decimal_spec n
  rw [text, readUnsigned_digits isDigits (fun same => (leading same).2) ends, value]

/-- An integer's text starts as a number does. -/
theorem integerText_starts (n : ℤ) :
    ∃ c text, integerText n = c :: text ∧ (c = 45 ∨ isDigit c = true) := by
  cases n with
  | ofNat n =>
      obtain ⟨c, digits, text, isDigits, -⟩ := decimal_spec n
      exact ⟨c, digits, text, .inr (isDigits c List.mem_cons_self)⟩
  | negSucc n => exact ⟨45, decimal (n + 1), rfl, .inl rfl⟩

theorem readNumber_integerText (n : ℤ) {rest : Bytes} (ends : NumberEnds rest) :
    readNumber (integerText n ++ rest) = some ((n : ℚ), rest) := by
  cases n with
  | ofNat n =>
      obtain ⟨c, digits, text, isDigits, -⟩ := decimal_spec n
      have read := readUnsigned_decimal n ends
      have noSign : c ≠ 45 := by
        rintro rfl
        exact absurd (isDigits 45 List.mem_cons_self) (by decide)
      rw [integerText]
      rw [text, List.cons_append] at read ⊢
      rw [readNumber, if_neg noSign, read]
      rfl
  | negSucc n =>
      show (readUnsigned (decimal (n + 1) ++ rest)).map (fun p => (-p.1, p.2)) = _
      rw [readUnsigned_decimal (n + 1) ends]
      simp [Int.negSucc_eq]

/-! ## Leaves -/

theorem number_starts {c : UInt8} (number : c = 45 ∨ isDigit c = true) : Piece.Starts c := by
  obtain ⟨noSpace, other⟩ := number_byte number
  simp only [List.mem_cons, not_or] at other
  exact ⟨noSpace, other.2.1, other.2.2.2.1, other.2.2.2.2.2.2.2.2.1⟩

theorem Leaf.starts (leaf : Leaf) : ∃ c text, leaf.text = c :: text ∧ Piece.Starts c := by
  cases leaf with
  | string s => exact ⟨34, jsonEscape s.bytes ++ [34], rfl, by unfold Piece.Starts; decide⟩
  | integer n =>
      obtain ⟨c, text, same, number⟩ := integerText_starts n
      exact ⟨c, text, same, number_starts number⟩
  | boolean b =>
      cases b with
      | true => exact ⟨116, [114, 117, 101], by decide, by unfold Piece.Starts; decide⟩
      | false => exact ⟨102, [97, 108, 115, 101], by decide, by unfold Piece.Starts; decide⟩

theorem Leaf.reads (leaf : Leaf) (depth : Nat) {rest : Bytes} (ends : NumberEnds rest) :
    readValue (depth + 1) (leaf.text ++ rest) = some (leaf.tree, rest) := by
  cases leaf with
  | string s =>
      have text : (Leaf.string s).text ++ rest = 34 :: (s.bytes ++ 34 :: rest) := by
        simp [Leaf.text, quoted, jsonEscape_plain s.plain]
      rw [text, readValue_string, readString_plain s.plain]
      rfl
  | integer n =>
      obtain ⟨c, text, same, number⟩ := integerText_starts n
      have read := readNumber_integerText n ends
      rw [Leaf.text]
      rw [same, List.cons_append] at read ⊢
      rw [readValue_number number, read]
      rfl
  | boolean b =>
      cases b with
      | true => exact readValue_true depth rest
      | false => exact readValue_false depth rest

namespace Document

/-! ## Containers -/

theorem body_starts (document : Document) :
    ∃ c text, document.body = c :: text ∧ Piece.Starts c := by
  cases document with
  | leaf call content =>
      rw [body]
      exact content.starts
  | array items => exact ⟨91, _, rfl, by unfold Piece.Starts; decide⟩
  | object members => exact ⟨123, _, rfl, by unfold Piece.Starts; decide⟩

/-- A container's text starts no number. -/
theorem container_numberEnds {document : Document} (container : document.isLeaf = false) :
    NumberEnds document.body := by
  cases document with
  | leaf call content => exact absurd container (by simp [isLeaf])
  | array items => exact numberEnds_cons (by decide) _
  | object members => exact numberEnds_cons (by decide) _

/-- What is to be shown: a deep enough reader finds the document exactly where it is well
placed. -/
def Reads (document : Document) : Prop :=
  ∀ (depth : Nat) (rest : Bytes), document.body.length ≤ depth →
    (document.isLeaf = true → NumberEnds rest) →
      readValue depth (document.body ++ rest) =
        if document.wellPlaced then some (document.tree, rest) else none

theorem item_readable {document : Document} (reads : Reads document) {depth : Nat}
    (deep : document.body.length ≤ depth) (first : Bool) :
    (document.item first).Readable (readValue depth) where
  starts := document.body_starts
  reads := fun rest ends => reads depth rest deep ends

theorem member_readable {value : Document} (reads : Reads value) {depth : Nat}
    (deep : value.body.length ≤ depth) (first : Bool) (key : PlainText) :
    (member first key value).Readable (readMember (readValue depth)) where
  starts := ⟨34, _, rfl, by unfold Piece.Starts; decide⟩
  reads := fun rest ends => by
    have text : (member first key value).text ++ rest =
        34 :: (key.bytes ++ 34 :: 58 :: (value.behindColon ++ rest)) := by
      simp [member, quoted]
    rw [text, readMember_plain _ key.plain, behindColon]
    cases call : value.isValueCall with
    | true =>
        -- the comma behind the colon
        simp [member, call, readValue_comma]
    | false =>
        simp only [Bool.false_eq_true, if_false]
        rw [reads depth rest deep ends]
        cases placed : value.wellPlaced <;> simp [member, call, placed]

/-- A leaf leaves the writer's flag cleared. -/
theorem leaf_endsEmpty {document : Document} (leaf : document.isLeaf = true) :
    document.endsEmpty = false := by
  cases document with
  | leaf call content => rfl
  | array items => exact absurd leaf (by simp [isLeaf])
  | object members => exact absurd leaf (by simp [isLeaf])

theorem leaf_wellPlaced {document : Document} (leaf : document.isLeaf = true) :
    document.wellPlaced = true := by
  cases document with
  | leaf call content => rfl
  | array items => exact absurd leaf (by simp [isLeaf])
  | object members => exact absurd leaf (by simp [isLeaf])

theorem itemPieces_chain (first : Bool) (items : List Document) :
    (itemPieces first items).IsChain Piece.Before := by
  induction items generalizing first with
  | nil => exact .nil
  | cons head items inductionHypothesis =>
      have rest := inductionHypothesis head.endsEmpty
      cases items with
      | nil => exact .singleton _
      | cons next items =>
          refine List.isChain_cons_cons.mpr ⟨fun isLeaf => ?_, rest⟩
          -- a leaf leaves the flag cleared: behind it stands a comma or a container
          have cleared := leaf_endsEmpty (show head.isLeaf = true from isLeaf)
          cases leaf : next.isLeaf with
          | true =>
              left
              simp [item, leaf, cleared]
          | false => exact .inr (container_numberEnds leaf)

theorem memberPieces_chain (first : Bool) (members : List (PlainText × Document)) :
    (memberPieces first members).IsChain Piece.Before := by
  induction members generalizing first with
  | nil => exact .nil
  | cons head members inductionHypothesis =>
      have rest := inductionHypothesis head.2.endsEmpty
      cases members with
      | nil => exact .singleton _
      | cons next members =>
          exact List.isChain_cons_cons.mpr
            ⟨fun _ => .inr (numberEnds_cons (by decide) _), rest⟩

/-- Items behind another stand behind commas exactly where they are leaves and the item
before the first of them did not end empty. -/
theorem itemPieces_separated (first : Bool) (items : List Document) :
    (itemPieces first items).all (·.separated) =
      (items.all isLeaf && (items.isEmpty || !first)) := by
  induction items generalizing first with
  | nil => rfl
  | cons head items inductionHypothesis =>
      rw [itemPieces, List.all_cons, inductionHypothesis, List.all_cons]
      cases leaf : head.isLeaf with
      | true => simp [item, leaf, leaf_endsEmpty leaf, Bool.and_comm]
      | false => simp [item, leaf]

theorem itemPieces_sound (first : Bool) (items : List Document) :
    (itemPieces first items).all (·.sound) = items.all wellPlaced := by
  induction items generalizing first with
  | nil => rfl
  | cons head items inductionHypothesis =>
      rw [itemPieces, List.all_cons, inductionHypothesis, List.all_cons]
      rfl

/-- The pieces of an array are in order exactly where its items are well placed. -/
theorem itemPieces_placed (items : List Document) :
    ((itemPieces true items).all (·.sound) ∧ (itemPieces true items).tail.all (·.separated)) ↔
      itemsPlaced items = true := by
  cases items with
  | nil => simp [itemPieces, itemsPlaced]
  | cons head items =>
      have leaves : items.all isLeaf = true → items.all wellPlaced = true := by
        intro leaves
        rw [List.all_eq_true] at leaves ⊢
        exact fun item inItems => leaf_wellPlaced (leaves item inItems)
      have tail := itemPieces_separated head.endsEmpty items
      rw [itemPieces_sound, itemPieces, List.tail_cons, tail, itemsPlaced, List.all_cons]
      simp only [Bool.and_eq_true]
      constructor
      · rintro ⟨⟨placed, -⟩, allLeaves, cleared⟩
        exact ⟨⟨placed, allLeaves⟩, cleared⟩
      · rintro ⟨⟨placed, allLeaves⟩, cleared⟩
        exact ⟨⟨placed, leaves allLeaves⟩, allLeaves, cleared⟩

/-- The pieces of an object are in order exactly where its members are well placed. -/
theorem memberPieces_placed (first : Bool) (members : List (PlainText × Document)) :
    ((memberPieces first members).all (·.sound) ∧
        (memberPieces first members).tail.all (·.separated)) ↔
      membersPlaced members = true := by
  induction members generalizing first with
  | nil => simp [memberPieces, membersPlaced]
  | cons head members inductionHypothesis =>
      obtain ⟨key, value⟩ := head
      have rest := inductionHypothesis value.endsEmpty
      rw [membersPlaced, memberPieces, List.all_cons, List.tail_cons]
      simp only [Bool.and_eq_true, ← rest]
      cases members with
      | nil => simp [memberPieces, member]
      | cons next members =>
          simp only [memberPieces, List.all_cons, List.tail_cons, Bool.and_eq_true,
            List.isEmpty_cons, Bool.false_or, member]
          constructor
          · rintro ⟨⟨sound, others⟩, comma, commas⟩
            exact ⟨⟨sound, comma⟩, others, commas⟩
          · rintro ⟨⟨sound, comma⟩, others, commas⟩
            exact ⟨⟨sound, others⟩, comma, commas⟩

/-! ## Every document -/

theorem length_body_le_items {items : List Document} {document : Document} (first : Bool)
    (inItems : document ∈ items) : document.body.length ≤ (itemsBody first items).length := by
  induction items generalizing first with
  | nil => exact absurd inItems List.not_mem_nil
  | cons head items inductionHypothesis =>
      rw [itemsBody, List.length_append]
      obtain rfl | inRest := List.mem_cons.mp inItems
      · have own : document.body.length ≤
            (if document.isLeaf && !first then 44 :: document.body else document.body).length := by
          split <;> simp
        omega
      · have := inductionHypothesis head.endsEmpty inRest
        omega

theorem length_body_le_members {members : List (PlainText × Document)}
    {entry : PlainText × Document} (first : Bool) (inMembers : entry ∈ members) :
    entry.2.body.length ≤ (membersBody first members).length := by
  induction members generalizing first with
  | nil => exact absurd inMembers List.not_mem_nil
  | cons head members inductionHypothesis =>
      rw [membersBody, List.length_append, List.length_append]
      obtain rfl | inRest := List.mem_cons.mp inMembers
      · have own : entry.2.body.length ≤
            (if entry.2.isValueCall then 44 :: entry.2.body else entry.2.body).length := by
          split <;> simp
        rw [List.length_cons]
        omega
      · have := inductionHypothesis head.2.endsEmpty inRest
        omega

theorem itemPieces_readable {items : List Document} (reads : ∀ item ∈ items, Reads item)
    {depth : Nat} (deep : ∀ item ∈ items, item.body.length ≤ depth) (first : Bool) :
    ∀ piece ∈ itemPieces first items, piece.Readable (readValue depth) := by
  induction items generalizing first with
  | nil => exact fun piece inPieces => absurd inPieces List.not_mem_nil
  | cons head items inductionHypothesis =>
      obtain ⟨headReads, reads⟩ := List.forall_mem_cons.mp reads
      obtain ⟨headDeep, deep⟩ := List.forall_mem_cons.mp deep
      exact List.forall_mem_cons.mpr
        ⟨item_readable headReads headDeep first, inductionHypothesis reads deep _⟩

theorem memberPieces_readable {members : List (PlainText × Document)}
    (reads : ∀ entry ∈ members, Reads entry.2) {depth : Nat}
    (deep : ∀ entry ∈ members, entry.2.body.length ≤ depth) (first : Bool) :
    ∀ piece ∈ memberPieces first members, piece.Readable (readMember (readValue depth)) := by
  induction members generalizing first with
  | nil => exact fun piece inPieces => absurd inPieces List.not_mem_nil
  | cons head members inductionHypothesis =>
      obtain ⟨headReads, reads⟩ := List.forall_mem_cons.mp reads
      obtain ⟨headDeep, deep⟩ := List.forall_mem_cons.mp deep
      exact List.forall_mem_cons.mpr
        ⟨member_readable headReads headDeep first head.1, inductionHypothesis reads deep _⟩

theorem reads_array {items : List Document} (children : ∀ item ∈ items, Reads item) :
    Reads (.array items) := by
  intro depth rest deep _
  rw [body, List.length_cons, List.length_append] at deep
  obtain ⟨inner, rfl⟩ := Nat.exists_eq_add_one.mpr (show 0 < depth by omega)
  have readable : ∀ piece ∈ itemPieces true items, piece.Readable (readValue inner) := by
    refine itemPieces_readable children (fun item inItems => ?_) true
    have := length_body_le_items true inItems
    omega
  have first : ∀ piece ∈ (itemPieces true items).head?, piece.separated = false := by
    cases items <;> simp [itemPieces, item]
  have read := readSequence_pieces (.inl rfl) readable first (itemPieces_chain true items) rest
  have text : (array items).body ++ rest =
      91 :: ((itemPieces true items).flatMap Piece.written ++ 93 :: rest) := by
    simp [body, itemsBody_eq]
  rw [text, readValue_array, read, itemPieces_values, wellPlaced, tree]
  simp only [itemPieces_placed]
  cases itemsPlaced items <;> rfl

theorem reads_object {members : List (PlainText × Document)}
    (children : ∀ entry ∈ members, Reads entry.2) : Reads (.object members) := by
  intro depth rest deep _
  rw [body, List.length_cons, List.length_append] at deep
  obtain ⟨inner, rfl⟩ := Nat.exists_eq_add_one.mpr (show 0 < depth by omega)
  have readable : ∀ piece ∈ memberPieces true members,
      piece.Readable (readMember (readValue inner)) := by
    refine memberPieces_readable children (fun entry inMembers => ?_) true
    have := length_body_le_members true inMembers
    omega
  have first : ∀ piece ∈ (memberPieces true members).head?, piece.separated = false := by
    cases members <;> simp [memberPieces, member]
  have read := readSequence_pieces (.inr rfl) readable first (memberPieces_chain true members) rest
  have text : (object members).body ++ rest =
      123 :: ((memberPieces true members).flatMap Piece.written ++ 125 :: rest) := by
    simp [body, membersBody_eq]
  rw [text, readValue_object, read, memberPieces_values, wellPlaced, tree]
  simp only [memberPieces_placed]
  cases membersPlaced members <;> rfl

theorem reads (document : Document) : Reads document := by
  induction document using Document.induction with
  | leaf call content =>
      intro depth rest deep ends
      obtain ⟨c, text, starts, -⟩ := content.starts
      rw [body] at deep ⊢
      have positive : 0 < content.text.length := by simp [starts]
      obtain ⟨inner, rfl⟩ := Nat.exists_eq_add_one.mpr (Nat.lt_of_lt_of_le positive deep)
      exact content.reads inner (ends rfl)
  | array items children => exact reads_array children
  | object members children => exact reads_object children

end Document

/-- A tree driven through a fresh writer is parsed back as that tree exactly where it is well
placed. -/
theorem written_parses_iff (document : Document) :
    parse document.written = some document.tree ↔ document.wellPlaced = true := by
  have read := document.reads document.body.length [] (Nat.le_refl _) fun _ => numberEnds_nil
  rw [List.append_nil] at read
  rw [document.written_eq, parse, read]
  cases document.wellPlaced <;> simp

/-- An array of two empty arrays loses its comma. -/
theorem written_not_parsed :
    ¬ (∀ document : Document, parse document.written = some document.tree) ∧
      Document.written (.array [.array [], .array []]) = ascii "[[][]]" := by
  refine ⟨fun parses => ?_, by decide⟩
  have read := parses (.array [.array [], .array []])
  exact absurd (congrArg Option.isSome read) (by decide)

end PowerGovernor
