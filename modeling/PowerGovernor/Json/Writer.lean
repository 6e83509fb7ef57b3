import PowerGovernor.Json.Escape
import PowerGovernor.Library.JsonValue

/-!
Trees driven through the writer.

Owns the leaves and the containers a caller can write, the natural traversal that drives the
writer over them, the text that comes out, and the trees whose text a JSON reader reads as
the tree. An opening call writes no comma before the container, a closing call leaves the
flag of an empty container set, and `value` puts a comma behind a key.
-/

set_option autoImplicit false

namespace PowerGovernor

open JsonText

/-! ## Leaves -/

/-- A string that needs no escape. -/
structure PlainText where
  bytes : Bytes
  plain : ∀ c ∈ bytes, Plain c

/-- `std::to_string` of a signed integer. -/
def integerText : ℤ → Bytes
  | .ofNat n => decimal n
  | .negSucc n => 45 :: decimal (n + 1)

inductive Leaf where
  | string (s : PlainText)
  | integer (n : ℤ)
  | boolean (b : Bool)

/-- The JSON text of a leaf, as a caller gives it to `raw_value`. -/
def Leaf.text : Leaf → Bytes
  | .string s => quoted (jsonEscape s.bytes)
  | .integer n => integerText n
  | .boolean b => ascii (if b then "true" else "false")

def Leaf.tree : Leaf → JsonTree
  | .string s => .string s.bytes
  | .integer n => .number n
  | .boolean b => .bool b

namespace JsonWriter

/-- `append_value`. -/
def appendValue (w : JsonWriter) : Leaf → JsonWriter
  | .string s => w.appendString s.bytes
  | .integer n => w.append (integerText n)
  | .boolean b => w.append (ascii (if b then "true" else "false"))

/-- `value` of any leaf. -/
def valueOf (w : JsonWriter) (leaf : Leaf) : JsonWriter := w.separate.appendValue leaf

theorem appendValue_eq (w : JsonWriter) (leaf : Leaf) :
    w.appendValue leaf = w.append leaf.text := by
  cases leaf <;> rfl

end JsonWriter

/-! ## Trees and their traversal -/

/-- The call that writes a leaf. -/
inductive LeafCall where
  | value
  | rawValue

/-- A tree, with the call its caller chose for each leaf. -/
inductive Document where
  | leaf (call : LeafCall) (content : Leaf)
  | array (items : List Document)
  | object (members : List (PlainText × Document))

namespace Document

mutual

/-- The value the document stands for. -/
def tree : Document → JsonTree
  | .leaf _ content => content.tree
  | .array items => .array (itemTrees items)
  | .object members => .object (memberTrees members)

def itemTrees : List Document → List JsonTree
  | [] => []
  | item :: items => item.tree :: itemTrees items

def memberTrees : List (PlainText × Document) → List (Bytes × JsonTree)
  | [] => []
  | (key, value) :: members => (key.bytes, value.tree) :: memberTrees members

end

mutual

/-- The natural traversal: the leaf's own call, an opening and a closing call around the
items of an array, and a `raw_key` before each member of an object. -/
def drive (w : JsonWriter) : Document → JsonWriter
  | .leaf .value content => w.valueOf content
  | .leaf .rawValue content => w.rawValue content.text
  | .array items => (driveItems w.beginArray items).endArray
  | .object members => (driveMembers w.beginObject members).endObject

def driveItems (w : JsonWriter) : List Document → JsonWriter
  | [] => w
  | item :: items => driveItems (drive w item) items

def driveMembers (w : JsonWriter) : List (PlainText × Document) → JsonWriter
  | [] => w
  | (key, value) :: members => driveMembers (drive (w.rawKey key.bytes) value) members

end

/-- The text a fresh writer holds after the traversal. -/
def written (document : Document) : Bytes := (drive JsonWriter.blank document).buf

/-! ## Where the commas come out right -/

def isLeaf : Document → Bool
  | .leaf _ _ => true
  | _ => false

/-- A leaf written by `value`. -/
def isValueCall : Document → Bool
  | .leaf .value _ => true
  | _ => false

mutual

/-- The document is an empty container, or a container whose last child is one or ends in
one. -/
def endsEmpty : Document → Bool
  | .leaf _ _ => false
  | .array items => itemsEndEmpty true items
  | .object members => membersEndEmpty true members

/-- The same of the last item, or what stood before where there is none. -/
def itemsEndEmpty (before : Bool) : List Document → Bool
  | [] => before
  | item :: items => itemsEndEmpty item.endsEmpty items

def membersEndEmpty (before : Bool) : List (PlainText × Document) → Bool
  | [] => before
  | (_, value) :: members => membersEndEmpty value.endsEmpty members

end

mutual

/-- Only the first item of an array is a container, and if others follow it does not end
empty; the leaf of a member is written by `raw_value`, and a member that another follows
does not end empty. -/
def wellPlaced : Document → Bool
  | .leaf _ _ => true
  | .array items => itemsPlaced items
  | .object members => membersPlaced members

def itemsPlaced : List Document → Bool
  | [] => true
  | item :: items =>
      item.wellPlaced && items.all isLeaf && (items.isEmpty || !item.endsEmpty)

def membersPlaced : List (PlainText × Document) → Bool
  | [] => true
  | (_, value) :: members =>
      value.wellPlaced && !value.isValueCall && (members.isEmpty || !value.endsEmpty) &&
        membersPlaced members

end

/-- Induction over the children of a container. -/
theorem induction {motive : Document → Prop}
    (leaf : ∀ call content, motive (.leaf call content))
    (array : ∀ items, (∀ item ∈ items, motive item) → motive (.array items))
    (object : ∀ members : List (PlainText × Document),
      (∀ member ∈ members, motive member.2) → motive (.object members)) :
    ∀ document, motive document :=
  @Document.rec motive (fun items => ∀ item ∈ items, motive item)
    (fun members => ∀ member ∈ members, motive member.2) (fun member => motive member.2)
    leaf array object (by simp)
    (fun _ _ head tail => List.forall_mem_cons.mpr ⟨head, tail⟩) (by simp)
    (fun _ _ head tail => List.forall_mem_cons.mpr ⟨head, tail⟩) (fun _ _ value => value)

/-! ## The text of a document -/

mutual

/-- The text without the comma in front. -/
def body : Document → Bytes
  | .leaf _ content => content.text
  | .array items => 91 :: (itemsBody true items ++ [93])
  | .object members => 123 :: (membersBody true members ++ [125])

/-- The items, where `first` is the writer's flag before them. Only a leaf gets a comma. -/
def itemsBody (first : Bool) : List Document → Bytes
  | [] => []
  | item :: items =>
      (if item.isLeaf && !first then 44 :: item.body else item.body) ++
        itemsBody item.endsEmpty items

/-- The members. A leaf written by `value` gets a comma behind the colon. -/
def membersBody (first : Bool) : List (PlainText × Document) → Bytes
  | [] => []
  | (key, value) :: members =>
      (if first then [] else [44]) ++ quoted key.bytes ++
        58 :: (if value.isValueCall then 44 :: value.body else value.body) ++
          membersBody value.endsEmpty members

end

/-- An item as a piece of its array. -/
def item (first : Bool) (document : Document) : Piece JsonTree where
  separated := document.isLeaf && !first
  text := document.body
  runsOn := document.isLeaf
  value := document.tree
  sound := document.wellPlaced

/-- The text behind a colon. -/
def behindColon (value : Document) : Bytes :=
  if value.isValueCall then 44 :: value.body else value.body

/-- A member as a piece of its object. -/
def member (first : Bool) (key : PlainText) (value : Document) : Piece (Bytes × JsonTree) where
  separated := !first
  text := quoted key.bytes ++ 58 :: value.behindColon
  runsOn := value.isLeaf
  value := (key.bytes, value.tree)
  sound := value.wellPlaced && !value.isValueCall

def itemPieces (first : Bool) : List Document → List (Piece JsonTree)
  | [] => []
  | item :: items => item.item first :: itemPieces item.endsEmpty items

def memberPieces (first : Bool) : List (PlainText × Document) → List (Piece (Bytes × JsonTree))
  | [] => []
  | (key, value) :: members => member first key value :: memberPieces value.endsEmpty members

theorem itemsBody_eq (first : Bool) (items : List Document) :
    itemsBody first items = (itemPieces first items).flatMap Piece.written := by
  induction items generalizing first with
  | nil => rfl
  | cons item items inductionHypothesis =>
      rw [itemsBody, inductionHypothesis]
      rfl

theorem membersBody_eq (first : Bool) (members : List (PlainText × Document)) :
    membersBody first members = (memberPieces first members).flatMap Piece.written := by
  induction members generalizing first with
  | nil => rfl
  | cons head members inductionHypothesis =>
      rw [membersBody, inductionHypothesis, memberPieces, List.flatMap_cons]
      cases first <;> rfl

theorem itemPieces_values (first : Bool) (items : List Document) :
    (itemPieces first items).map (·.value) = itemTrees items := by
  induction items generalizing first with
  | nil => rfl
  | cons item items inductionHypothesis =>
      rw [itemPieces, List.map_cons, inductionHypothesis, itemTrees]
      rfl

theorem memberPieces_values (first : Bool) (members : List (PlainText × Document)) :
    (memberPieces first members).map (·.value) = memberTrees members := by
  induction members generalizing first with
  | nil => rfl
  | cons head members inductionHypothesis =>
      rw [memberPieces, List.map_cons, inductionHypothesis, memberTrees]
      rfl

/-! ## What the traversal leaves in the writer -/

/-- How the writer is left by a document, as an item and behind a key. -/
structure Drives (document : Document) : Prop where
  item : ∀ w : JsonWriter, w.valuePending = false →
    drive w document = ⟨w.buf ++ (document.item w.first).written, document.endsEmpty, false⟩
  member : ∀ buf, ∃ pending,
    drive ⟨buf, false, true⟩ document = ⟨buf ++ document.behindColon, document.endsEmpty, pending⟩

theorem driveItems_eq {items : List Document} (drives : ∀ item ∈ items, Drives item)
    (w : JsonWriter) (idle : w.valuePending = false) :
    driveItems w items =
      ⟨w.buf ++ itemsBody w.first items, itemsEndEmpty w.first items, false⟩ := by
  induction items generalizing w with
  | nil =>
      rw [driveItems, itemsBody, itemsEndEmpty, List.append_nil, ← idle]
  | cons item items inductionHypothesis =>
      obtain ⟨head, tail⟩ := List.forall_mem_cons.mp drives
      rw [driveItems, head.item w idle, inductionHypothesis tail _ rfl, itemsBody, itemsEndEmpty,
        List.append_assoc]
      rfl

/-- What `raw_key` leaves does not depend on a value still pending. -/
theorem rawKey_eq (w : JsonWriter) (key : PlainText) :
    w.rawKey key.bytes =
      ⟨w.buf ++ ((if !w.first then [44] else []) ++ quoted key.bytes ++ [58]), false, true⟩ := by
  cases first : w.first <;>
    simp [JsonWriter.rawKey, JsonWriter.separate, JsonWriter.appendString, JsonWriter.append,
      jsonEscape_plain key.plain, first]

theorem driveMembers_eq {members : List (PlainText × Document)}
    (drives : ∀ member ∈ members, Drives member.2) (w : JsonWriter) :
    ∃ pending, driveMembers w members =
      ⟨w.buf ++ membersBody w.first members, membersEndEmpty w.first members, pending⟩ := by
  induction members generalizing w with
  | nil => exact ⟨w.valuePending, by rw [driveMembers, membersBody, List.append_nil]; rfl⟩
  | cons head members inductionHypothesis =>
      obtain ⟨key, value⟩ := head
      obtain ⟨first, others⟩ := List.forall_mem_cons.mp drives
      obtain ⟨pending, driven⟩ := first.member (w.rawKey key.bytes).buf
      obtain ⟨last, rest⟩ := inductionHypothesis others (drive (w.rawKey key.bytes) value)
      refine ⟨last, ?_⟩
      rw [driveMembers, rest]
      rw [rawKey_eq] at driven ⊢
      rw [driven, membersBody, membersEndEmpty]
      cases w.first <;> simp [behindColon]

theorem drive_array {items : List Document} (drives : ∀ item ∈ items, Drives item)
    (w : JsonWriter) :
    drive w (.array items) = ⟨w.buf ++ (array items).body, (array items).endsEmpty, false⟩ := by
  rw [drive, driveItems_eq drives _ rfl, body, endsEmpty]
  simp [JsonWriter.endArray, JsonWriter.closed, JsonWriter.beginArray, JsonWriter.opened]

theorem drive_object {members : List (PlainText × Document)}
    (drives : ∀ member ∈ members, Drives member.2) (w : JsonWriter) :
    drive w (.object members) =
      ⟨w.buf ++ (object members).body, (object members).endsEmpty, false⟩ := by
  obtain ⟨pending, driven⟩ := driveMembers_eq drives w.beginObject
  rw [drive, driven, body, endsEmpty]
  simp [JsonWriter.endObject, JsonWriter.closed, JsonWriter.beginObject, JsonWriter.opened]

theorem drives (document : Document) : Drives document := by
  induction document using Document.induction with
  | leaf call content =>
      cases call with
      | value =>
          refine ⟨fun w idle => ?_, fun buf => ⟨true, ?_⟩⟩
          · rw [drive, JsonWriter.valueOf, JsonWriter.appendValue_eq]
            cases first : w.first <;>
              simp [JsonWriter.separate, JsonWriter.append, item, Piece.written, isLeaf, body,
                endsEmpty, idle, first]
          · rw [drive, JsonWriter.valueOf, JsonWriter.appendValue_eq]
            simp [JsonWriter.separate, JsonWriter.append, behindColon, isValueCall, body,
              endsEmpty]
      | rawValue =>
          refine ⟨fun w idle => ?_, fun buf => ⟨false, ?_⟩⟩
          · cases first : w.first <;>
              simp [drive, JsonWriter.rawValue, JsonWriter.separate, JsonWriter.append, item,
                Piece.written, isLeaf, body, endsEmpty, idle, first]
          · simp [drive, JsonWriter.rawValue, JsonWriter.append, behindColon, isValueCall, body,
              endsEmpty]
  | array items children =>
      refine ⟨fun w _ => drive_array children w, fun buf => ⟨false, drive_array children _⟩⟩
  | object members children =>
      refine ⟨fun w _ => drive_object children w, fun buf => ⟨false, drive_object children _⟩⟩

/-- A fresh writer holds the text of the document. -/
theorem written_eq (document : Document) : document.written = document.body := by
  rw [written, (drives document).item _ rfl]
  simp [Piece.written, item, JsonWriter.blank]

end Document

end PowerGovernor
