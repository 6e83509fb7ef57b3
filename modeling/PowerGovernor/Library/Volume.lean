import Mathlib.Data.List.Basic
import Mathlib.Logic.Function.Basic

/-!
Volumes of files.

Owns the names, the files they lead to and the calls that open, write, rename and
remove them. A file outlives its names while a stream has it open. Owns also what the
calls leave of the other names and of the files that they do not write.

Does not own permissions, directories and what a loss of power leaves.
-/

set_option autoImplicit false

/-- A position-wise overwrite; a gap before the position is filled up. -/
def List.overwrite {Cell : Type} [Inhabited Cell] (cells : List Cell) (pos : Nat)
    (written : List Cell) : List Cell :=
  cells.take pos ++ List.replicate (pos - cells.length) default ++ written ++
    cells.drop (pos + written.length)

theorem List.overwrite_end {Cell : Type} [Inhabited Cell] (cells written : List Cell) :
    cells.overwrite cells.length written = cells ++ written := by
  unfold List.overwrite
  rw [List.take_length, Nat.sub_self, List.replicate_zero, List.append_nil,
    List.drop_eq_nil_of_le (Nat.le_add_right _ _), List.append_nil]

/-- No two names lead to one file, and the files from `free` on were never used. -/
structure Volume (Name Cell : Type) where
  entry : Name → Option Nat
  content : Nat → List Cell
  free : Nat
  used : ∀ name file, entry name = some file → file < free
  apart : ∀ name other file, entry name = some file → entry other = some file → name = other

namespace Volume

variable {Name Cell : Type}

/-! ## Files -/

def empty : Volume Name Cell where
  entry _ := none
  content _ := []
  free := 0
  used _ _ found := nomatch found
  apart _ _ _ found := nomatch found

/-- What the name leads to. -/
def read (v : Volume Name Cell) (name : Name) : Option (List Cell) :=
  (v.entry name).map v.content

/-- The content of a file is replaced. -/
def fill (v : Volume Name Cell) (file : Nat) (cells : List Cell) : Volume Name Cell :=
  { v with content := Function.update v.content file cells }

/-- Cells are written into an open file. -/
def writeAt [Inhabited Cell] (v : Volume Name Cell) (file pos : Nat) (cells : List Cell) :
    Volume Name Cell :=
  v.fill file ((v.content file).overwrite pos cells)

variable {v : Volume Name Cell} {name other : Name} {file : Nat} {cells : List Cell}

@[simp] theorem entry_fill (v : Volume Name Cell) (file : Nat) (cells : List Cell) :
    (v.fill file cells).entry = v.entry := rfl

@[simp] theorem content_fill_self (v : Volume Name Cell) (file : Nat) (cells : List Cell) :
    (v.fill file cells).content file = cells := Function.update_self _ _ _

theorem read_fill_of_ne (found : v.entry name = some file) (different : other ≠ name) :
    (v.fill file cells).read other = v.read other := by
  unfold read
  rw [entry_fill]
  cases there : v.entry other with
  | none => rfl
  | some file' =>
      have apart : file' ≠ file := by
        rintro rfl
        exact different (v.apart other name file' there found)
      exact congrArg some (Function.update_of_ne apart _ _)

/-- The file holds the cells, and the scratch name does not lead to it. -/
structure Settled (v : Volume Name Cell) (scratch : Name) (file : Nat) (cells : List Cell) :
    Prop where
  used : file < v.free
  holds : v.content file = cells
  elsewhere : v.entry scratch ≠ some file

namespace Settled

variable {scratch : Name}

/-- What another name leads to is settled. -/
theorem of_entry (found : v.entry name = some file) (different : name ≠ scratch) :
    v.Settled scratch file (v.content file) where
  used := v.used name file found
  holds := rfl
  elsewhere there := different (v.apart name scratch file found there)

theorem fill (settled : v.Settled scratch file cells) {scratchFile : Nat}
    (found : v.entry scratch = some scratchFile) (written : List Cell) :
    (v.fill scratchFile written).Settled scratch file cells where
  used := settled.used
  holds := by
    have apart : file ≠ scratchFile := by
      rintro rfl
      exact settled.elsewhere found
    exact (Function.update_of_ne apart _ _).trans settled.holds
  elsewhere := settled.elsewhere

end Settled

/-! ## Calls -/

variable [DecidableEq Name]

/-- A name is made to lead to a new file. -/
def create (v : Volume Name Cell) (name : Name) (cells : List Cell) : Volume Name Cell where
  entry := Function.update v.entry name (some v.free)
  content := Function.update v.content v.free cells
  free := v.free + 1
  used other file found := by
    by_cases same : other = name
    · rw [same, Function.update_self] at found
      rw [← Option.some.inj found]
      exact Nat.lt_succ_self _
    · rw [Function.update_of_ne same] at found
      exact Nat.lt_succ_of_lt (v.used other file found)
  apart one other file found found' := by
    by_cases same : one = name <;> by_cases same' : other = name
    · exact same.trans same'.symm
    · rw [same, Function.update_self] at found
      rw [Function.update_of_ne same', ← found] at found'
      exact absurd (v.used other _ found') (Nat.lt_irrefl _)
    · rw [same', Function.update_self] at found'
      rw [Function.update_of_ne same, ← found'] at found
      exact absurd (v.used one _ found) (Nat.lt_irrefl _)
    · rw [Function.update_of_ne same] at found
      rw [Function.update_of_ne same'] at found'
      exact v.apart one other file found found'

/-- Opened for writing: a file that is there is truncated, a missing one is created. -/
def openTrunc (v : Volume Name Cell) (name : Name) : Volume Name Cell :=
  match v.entry name with
  | some file => v.fill file []
  | none => v.create name []

/-- The file that is opened for writing. -/
def opened (v : Volume Name Cell) (name : Name) : Nat := (v.entry name).getD v.free

/-- A name is removed. -/
def remove (v : Volume Name Cell) (name : Name) : Volume Name Cell where
  entry := Function.update v.entry name none
  content := v.content
  free := v.free
  used other file found := by
    by_cases same : other = name
    · rw [same, Function.update_self] at found
      cases found
    · rw [Function.update_of_ne same] at found
      exact v.used other file found
  apart one other file found found' := by
    by_cases same : one = name <;> by_cases same' : other = name
    · exact same.trans same'.symm
    · rw [same, Function.update_self] at found
      cases found
    · rw [same', Function.update_self] at found'
      cases found'
    · rw [Function.update_of_ne same] at found
      rw [Function.update_of_ne same'] at found'
      exact v.apart one other file found found'

/-- The target is made to lead to the file of the source, which loses its name. -/
def rename (v : Volume Name Cell) (source target : Name) : Volume Name Cell where
  entry := Function.update (Function.update v.entry source none) target (v.entry source)
  content := v.content
  free := v.free
  used other file found := by
    by_cases same : other = target
    · rw [same, Function.update_self] at found
      exact v.used source file found
    · rw [Function.update_of_ne same] at found
      exact (v.remove source).used other file found
  apart one other file found found' := by
    have moved : ∀ name, name ≠ target →
        Function.update v.entry source none name = some file → v.entry source ≠ some file := by
      intro name _ here there
      by_cases same : name = source
      · rw [same, Function.update_self] at here
        cases here
      · rw [Function.update_of_ne same] at here
        exact same (v.apart name source file here there)
    by_cases same : one = target <;> by_cases same' : other = target
    · exact same.trans same'.symm
    · rw [same, Function.update_self] at found
      rw [Function.update_of_ne same'] at found'
      exact absurd found (moved other same' found')
    · rw [same', Function.update_self] at found'
      rw [Function.update_of_ne same] at found
      exact absurd found' (moved one same found)
    · rw [Function.update_of_ne same] at found
      rw [Function.update_of_ne same'] at found'
      exact (v.remove source).apart one other file found found'

/-! ## Names -/

theorem entry_create_of_ne (different : other ≠ name) :
    (v.create name cells).entry other = v.entry other := Function.update_of_ne different _ _

theorem entry_remove_of_ne (different : other ≠ name) :
    (v.remove name).entry other = v.entry other := Function.update_of_ne different _ _

theorem entry_rename_target (v : Volume Name Cell) (source target : Name) :
    (v.rename source target).entry target = v.entry source := Function.update_self _ _ _

theorem entry_rename_source {source target : Name} (different : source ≠ target) :
    (v.rename source target).entry source = none := by
  show Function.update _ _ _ _ = _
  rw [Function.update_of_ne different, Function.update_self]

theorem entry_openTrunc (v : Volume Name Cell) (name : Name) :
    (v.openTrunc name).entry name = some (v.opened name) := by
  unfold openTrunc opened
  cases found : v.entry name with
  | some file => exact found
  | none => exact Function.update_self _ _ _

/-- A file that is opened for writing is empty. -/
theorem content_openTrunc (v : Volume Name Cell) (name : Name) :
    (v.openTrunc name).content (v.opened name) = [] := by
  unfold openTrunc opened
  cases v.entry name with
  | some file => exact content_fill_self v file []
  | none => exact Function.update_self _ _ _

/-! ## Reading -/

theorem read_create_of_ne (different : other ≠ name) :
    (v.create name cells).read other = v.read other := by
  unfold read
  rw [entry_create_of_ne different]
  cases there : v.entry other with
  | none => rfl
  | some file' =>
      exact congrArg some (Function.update_of_ne (Nat.ne_of_lt (v.used other file' there)) _ _)

theorem read_openTrunc_of_ne (different : other ≠ name) :
    (v.openTrunc name).read other = v.read other := by
  unfold openTrunc
  cases found : v.entry name with
  | some file => exact read_fill_of_ne found different
  | none => exact read_create_of_ne different

theorem read_remove_of_ne (different : other ≠ name) :
    (v.remove name).read other = v.read other := by
  unfold read
  rw [entry_remove_of_ne different]
  rfl

theorem read_rename (v : Volume Name Cell) (source target : Name) :
    (v.rename source target).read target = v.read source := by
  unfold read
  rw [entry_rename_target]
  rfl

/-! ## Open files -/

namespace Settled

variable {scratch : Name}

theorem create (settled : v.Settled scratch file cells) (name : Name) (written : List Cell) :
    (v.create name written).Settled scratch file cells where
  used := Nat.lt_succ_of_lt settled.used
  holds := (Function.update_of_ne (Nat.ne_of_lt settled.used) _ _).trans settled.holds
  elsewhere there := by
    by_cases same : scratch = name
    · have new : (v.create name written).entry scratch = some v.free := by
        rw [same]
        exact Function.update_self _ _ _
      exact Nat.ne_of_gt settled.used (Option.some.inj (new.symm.trans there))
    · rw [entry_create_of_ne same] at there
      exact settled.elsewhere there

theorem openTrunc (settled : v.Settled scratch file cells) :
    (v.openTrunc scratch).Settled scratch file cells := by
  unfold Volume.openTrunc
  cases found : v.entry scratch with
  | some scratchFile => exact settled.fill found []
  | none => exact settled.create scratch []

theorem remove (settled : v.Settled scratch file cells) (name : Name) :
    (v.remove name).Settled scratch file cells where
  used := settled.used
  holds := settled.holds
  elsewhere there := by
    by_cases same : scratch = name
    · have gone : (v.remove name).entry scratch = none := by
        rw [same]
        exact Function.update_self _ _ _
      cases gone.symm.trans there
    · rw [entry_remove_of_ne same] at there
      exact settled.elsewhere there

theorem rename (settled : v.Settled scratch file cells) {target : Name}
    (different : scratch ≠ target) : (v.rename scratch target).Settled scratch file cells where
  used := settled.used
  holds := settled.holds
  elsewhere there := by
    rw [entry_rename_source different] at there
    cases there

end Settled

end Volume
