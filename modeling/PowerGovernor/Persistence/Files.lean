import PowerGovernor.Budget.Manager
import PowerGovernor.Library.Transition
import PowerGovernor.Library.Volume

/-!
Saves and loads of a file.

Owns `persist_write` and `persist_read` call by call, any number of which run at a time
and end anywhere, and the theorem that the file always holds the whole record of the last
save that replaced it and that a load returns one whole record.

Does not own what is left after a loss of power: nothing is synchronized with the device.
-/

set_option autoImplicit false

namespace PowerGovernor

/-! ## The calls -/

/-- What `persist_write` does next. -/
inductive PersistWrite where
  | opening
  | writing (file written : Nat)
  | replacing
  | removing
  | returned (result : Except String Unit)

/-- What `persist_read` does next. -/
inductive PersistRead where
  | opening
  | sizing (file : Nat)
  | reading (file size : Nat) (data : Bytes)
  | returned (result : Except String Bytes)

/-- A running `persist_write`. `since` counts the replacements before its start; no step
reads it. -/
structure Saver where
  data : Bytes
  next : PersistWrite
  since : Nat

/-- A running `persist_read`. `since` counts the replacements before it opened the file; no
step reads it. -/
structure Loader where
  next : PersistRead
  since : Nat

/-- The saves and loads of one path. `versions` records what the replacements put there. -/
structure Storage where
  files : Volume String UInt8
  savers : Nat → Option Saver
  loaders : Nat → Option Loader
  versions : List Bytes

/-- A step of a call, with the outcome of the operation it makes. -/
inductive FileEvent where
  | startSave (saver : Nat) (data : Bytes)
  | openTmp (saver : Nat) (ok : Bool)
  | write (saver count : Nat)
  | failWrite (saver : Nat)
  | flush (saver : Nat)
  | rename (saver : Nat) (ok : Bool)
  | removeTmp (saver : Nat) (ok : Bool)
  | endSave (saver : Nat)
  | startLoad (loader : Nat)
  | openFile (loader : Nat) (ok : Bool)
  | seekEnd (loader : Nat) (ok : Bool)
  | read (loader count : Nat)
  | finishRead (loader : Nat) (ok : Bool)
  | endLoad (loader : Nat)
  | elsewhere (name : String) (content : Option Bytes)

/-- The temporary file of a path. -/
def tmpOf (path : String) : String := path ++ ".tmp"

theorem tmpOf_ne (path : String) : tmpOf path ≠ path := by
  intro same
  have lengths := congrArg String.length same
  rw [tmpOf, String.length_append] at lengths
  have suffix : ".tmp".length = 4 := by decide
  omega

namespace Storage

/-- No call runs yet. -/
def start (files : Volume String UInt8) : Storage := ⟨files, fun _ => none, fun _ => none, []⟩

def setSaver (s : Storage) (saver : Nat) (call : Option Saver) : Storage :=
  { s with savers := Function.update s.savers saver call }

def setLoader (s : Storage) (loader : Nat) (call : Option Loader) : Storage :=
  { s with loaders := Function.update s.loaders loader call }

theorem savers_setSaver_self (s : Storage) (saver : Nat) (call : Option Saver) :
    (s.setSaver saver call).savers saver = call := Function.update_self _ _ _

theorem savers_setSaver_of_ne (s : Storage) {saver other : Nat} (different : other ≠ saver)
    (call : Option Saver) : (s.setSaver saver call).savers other = s.savers other :=
  Function.update_of_ne different _ _

theorem loaders_setLoader_self (s : Storage) (loader : Nat) (call : Option Loader) :
    (s.setLoader loader call).loaders loader = call := Function.update_self _ _ _

theorem loaders_setLoader_of_ne (s : Storage) {loader other : Nat} (different : other ≠ loader)
    (call : Option Loader) : (s.setLoader loader call).loaders other = s.loaders other :=
  Function.update_of_ne different _ _

/-- The storage after a step. A step that is not enabled changes nothing. -/
def after (path : String) (s : Storage) : FileEvent → Storage
  | .startSave saver data =>
    match s.savers saver with
    | none => s.setSaver saver (some ⟨data, .opening, s.versions.length⟩)
    | some _ => s
  | .openTmp saver ok =>
    match s.savers saver with
    | some ⟨data, .opening, since⟩ =>
      if ok then
        { s with files := s.files.openTrunc (tmpOf path) }.setSaver saver
          (some ⟨data, .writing (s.files.opened (tmpOf path)) 0, since⟩)
      else s.setSaver saver (some ⟨data, .returned (.error "open tmp failed"), since⟩)
    | _ => s
  | .write saver count =>
    match s.savers saver with
    | some ⟨data, .writing file written, since⟩ =>
      let cells := (data.drop written).take count
      { s with files := s.files.writeAt file written cells }.setSaver saver
        (some ⟨data, .writing file (written + cells.length), since⟩)
    | _ => s
  | .failWrite saver =>
    match s.savers saver with
    | some ⟨data, .writing _ _, since⟩ =>
      s.setSaver saver (some ⟨data, .returned (.error "write failed"), since⟩)
    | _ => s
  | .flush saver =>
    match s.savers saver with
    | some ⟨data, .writing _ written, since⟩ =>
      if written = data.length then s.setSaver saver (some ⟨data, .replacing, since⟩) else s
    | _ => s
  | .rename saver ok =>
    match s.savers saver with
    | some ⟨data, .replacing, since⟩ =>
      if ok ∧ (s.files.entry (tmpOf path)).isSome then
        { s with
          files := s.files.rename (tmpOf path) path
          versions := s.versions ++ [data] }.setSaver saver
            (some ⟨data, .returned (.ok ()), since⟩)
      else s.setSaver saver (some ⟨data, .removing, since⟩)
    | _ => s
  | .removeTmp saver ok =>
    match s.savers saver with
    | some ⟨data, .removing, since⟩ =>
      { s with files := if ok then s.files.remove (tmpOf path) else s.files }.setSaver saver
        (some ⟨data, .returned (.error "atomic replace failed"), since⟩)
    | _ => s
  | .endSave saver => s.setSaver saver none
  | .startLoad loader =>
    match s.loaders loader with
    | none => s.setLoader loader (some ⟨.opening, s.versions.length⟩)
    | some _ => s
  | .openFile loader ok =>
    match s.loaders loader with
    | some ⟨.opening, _⟩ =>
      match s.files.entry path, ok with
      | some file, true => s.setLoader loader (some ⟨.sizing file, s.versions.length⟩)
      | _, _ =>
        s.setLoader loader (some ⟨.returned (.error "open failed"), s.versions.length⟩)
    | _ => s
  | .seekEnd loader ok =>
    match s.loaders loader with
    | some ⟨.sizing file, since⟩ =>
      if ok then
        s.setLoader loader (some ⟨.reading file (s.files.content file).length [], since⟩)
      else s.setLoader loader (some ⟨.returned (.error "seek failed"), since⟩)
    | _ => s
  | .read loader count =>
    match s.loaders loader with
    | some ⟨.reading file size data, since⟩ =>
      let cells := ((s.files.content file).drop data.length).take (min count (size - data.length))
      s.setLoader loader (some ⟨.reading file size (data ++ cells), since⟩)
    | _ => s
  | .finishRead loader ok =>
    match s.loaders loader with
    | some ⟨.reading _ size data, since⟩ =>
      if ok then
        if data.length = size then
          s.setLoader loader (some ⟨.returned (.ok data), since⟩)
        else s
      else s.setLoader loader (some ⟨.returned (.error "read short"), since⟩)
    | _ => s
  | .endLoad loader => s.setLoader loader none
  | .elsewhere name content =>
    match content with
    | some data => { s with files := s.files.create name data }
    | none => { s with files := s.files.remove name }

/-- The save does not touch the files any more. -/
def Returned (saver : Saver) : Prop := ∃ result, saver.next = .returned result

/-- A save of the path starts when no other one is under way, and nobody else writes the
file or its temporary one. -/
def Exclusive (path : String) (s : Storage) : FileEvent → Prop
  | .startSave _ _ => ∀ other saver, s.savers other = some saver → Returned saver
  | .elsewhere name _ => name ≠ path ∧ name ≠ tmpOf path
  | _ => True

def runs (path : String) (files : Volume String UInt8) : TransitionSystem Storage FileEvent :=
  guardedRuns (after path) (Exclusive path) (start files)

/-! ## What the calls keep -/

/-- What the file holds after the first replacements. -/
def versionAt (before : Option Bytes) (versions : List Bytes) (count : Nat) : Option Bytes :=
  (versions.take count).getLast?.or before

end Storage

open Storage (versionAt)

/-- The temporary file holds what the save has written so far, and a save that succeeded
has replaced the file since it started. -/
inductive Saver.Sound (path : String) (files : Volume String UInt8) (versions : List Bytes) :
    Saver → Prop where
  | opening {data : Bytes} {since : Nat} (early : since ≤ versions.length) :
      Sound path files versions ⟨data, .opening, since⟩
  | writing {data : Bytes} {file written since : Nat} (early : since ≤ versions.length)
      (named : files.entry (tmpOf path) = some file) (within : written ≤ data.length)
      (holds : files.content file = data.take written) :
      Sound path files versions ⟨data, .writing file written, since⟩
  | replacing {data : Bytes} {since : Nat} (early : since ≤ versions.length)
      (whole : files.read (tmpOf path) = some data) :
      Sound path files versions ⟨data, .replacing, since⟩
  | removing {data : Bytes} {since : Nat} : Sound path files versions ⟨data, .removing, since⟩
  | failed {data : Bytes} {reason : String} {since : Nat} :
      Sound path files versions ⟨data, .returned (.error reason), since⟩
  | saved {data : Bytes} {since : Nat} (stored : data ∈ versions.drop since) :
      Sound path files versions ⟨data, .returned (.ok ()), since⟩

/-- An opened file is the version that was there when it was opened, and nobody writes it
any more. -/
inductive Loader.Sound (path : String) (before : Option Bytes) (files : Volume String UInt8)
    (versions : List Bytes) : Loader → Prop where
  | opening {since : Nat} : Sound path before files versions ⟨.opening, since⟩
  | sizing {file since : Nat} {cells : Bytes} (early : since ≤ versions.length)
      (settled : files.Settled (tmpOf path) file cells)
      (version : versionAt before versions since = some cells) :
      Sound path before files versions ⟨.sizing file, since⟩
  | reading {file since : Nat} {data cells : Bytes} (early : since ≤ versions.length)
      (settled : files.Settled (tmpOf path) file cells)
      (version : versionAt before versions since = some cells) (begins : data <+: cells) :
      Sound path before files versions ⟨.reading file cells.length data, since⟩
  | failed {reason : String} {since : Nat} :
      Sound path before files versions ⟨.returned (.error reason), since⟩
  | loaded {data : Bytes} {since : Nat} (early : since ≤ versions.length)
      (version : versionAt before versions since = some data) :
      Sound path before files versions ⟨.returned (.ok data), since⟩

namespace Storage

variable {path : String} {before : Option Bytes} {files files' : Volume String UInt8}
  {versions versions' : List Bytes}

theorem versionAt_length :
    versionAt before versions versions.length = versions.getLast?.or before := by
  unfold versionAt
  rw [List.take_length]

theorem versionAt_grown (grown : versions <+: versions') {count : Nat}
    (early : count ≤ versions.length) :
    versionAt before versions' count = versionAt before versions count := by
  obtain ⟨more, rfl⟩ := grown
  unfold versionAt
  rw [List.take_append_of_le_length early]

theorem saver_sound_of_returned {saver : Saver} (sound : saver.Sound path files versions)
    (returned : Returned saver) (grown : versions <+: versions') :
    saver.Sound path files' versions' := by
  obtain ⟨result, is⟩ := returned
  cases sound with
  | failed => exact .failed
  | saved stored => exact .saved ((grown.drop _).subset stored)
  | _ => cases is

/-- A load minds no step that writes into the temporary file only. -/
theorem loader_sound_of_settles {loader : Loader}
    (sound : loader.Sound path before files versions) (grown : versions <+: versions')
    (settles : ∀ file cells, files.Settled (tmpOf path) file cells →
      files'.Settled (tmpOf path) file cells) :
    loader.Sound path before files' versions' := by
  cases sound with
  | opening => exact .opening
  | sizing early settled version =>
      exact .sizing (early.trans grown.length_le) (settles _ _ settled)
        ((versionAt_grown grown early).trans version)
  | reading early settled version begins =>
      exact .reading (early.trans grown.length_le) (settles _ _ settled)
        ((versionAt_grown grown early).trans version) begins
  | failed => exact .failed
  | loaded early version =>
      exact .loaded (early.trans grown.length_le) ((versionAt_grown grown early).trans version)

/-- One save at most is under way, and the file holds the last version. -/
structure Intact (path : String) (before : Option Bytes) (s : Storage) : Prop where
  savers : ∀ k saver, s.savers k = some saver → saver.Sound path s.files s.versions
  loaders : ∀ k loader, s.loaders k = some loader →
    loader.Sound path before s.files s.versions
  alone : ∀ k other saver saver', s.savers k = some saver → s.savers other = some saver' →
    Returned saver ∨ Returned saver' ∨ k = other
  current : s.files.read path = versionAt before s.versions s.versions.length

namespace Intact

variable {s : Storage} {k : Nat}

/-- The save that is under way takes a step. -/
theorem of_saver (intact : s.Intact path before) {saver saver' : Saver}
    (found : s.savers k = some saver) (busy : ¬ Returned saver)
    (grown : s.versions <+: versions') (sound : saver'.Sound path files' versions')
    (settles : ∀ file cells, s.files.Settled (tmpOf path) file cells →
      files'.Settled (tmpOf path) file cells)
    (current : files'.read path = versionAt before versions' versions'.length) :
    ({ s with files := files', versions := versions' }.setSaver k (some saver')).Intact path
      before where
  savers other there at_other := by
    by_cases same : other = k
    · subst same
      rw [savers_setSaver_self] at at_other
      obtain rfl := Option.some.inj at_other
      exact sound
    · rw [savers_setSaver_of_ne _ same] at at_other
      rcases intact.alone k other saver there found at_other with returned | returned | rfl
      · exact absurd returned busy
      · exact saver_sound_of_returned (intact.savers other there at_other) returned grown
      · exact absurd rfl same
  loaders other loader there :=
    loader_sound_of_settles (intact.loaders other loader there) grown settles
  alone one other there there' at_one at_other := by
    by_cases same : one = k <;> by_cases same' : other = k
    · exact .inr (.inr (same.trans same'.symm))
    · rw [savers_setSaver_of_ne _ same'] at at_other
      rcases intact.alone k other saver there' found at_other with returned | returned | rfl
      · exact absurd returned busy
      · exact .inr (.inl returned)
      · exact absurd rfl same'
    · rw [savers_setSaver_of_ne _ same] at at_one
      rcases intact.alone k one saver there found at_one with returned | returned | rfl
      · exact absurd returned busy
      · exact .inl returned
      · exact absurd rfl same
    · rw [savers_setSaver_of_ne _ same] at at_one
      rw [savers_setSaver_of_ne _ same'] at at_other
      exact intact.alone one other there there' at_one at_other
  current := current

/-- The save that is under way takes a step that touches no file. -/
theorem of_quiet_saver (intact : s.Intact path before) {saver saver' : Saver}
    (found : s.savers k = some saver) (busy : ¬ Returned saver)
    (sound : saver'.Sound path s.files s.versions) :
    (s.setSaver k (some saver')).Intact path before :=
  intact.of_saver found busy List.prefix_rfl sound (fun _ _ settled => settled) intact.current

theorem of_loader (intact : s.Intact path before) {loader : Loader}
    (sound : loader.Sound path before s.files s.versions) :
    (s.setLoader k (some loader)).Intact path before where
  savers := intact.savers
  loaders other there at_other := by
    by_cases same : other = k
    · subst same
      rw [loaders_setLoader_self] at at_other
      obtain rfl := Option.some.inj at_other
      exact sound
    · rw [loaders_setLoader_of_ne _ same] at at_other
      exact intact.loaders other there at_other
  alone := intact.alone
  current := intact.current

/-- Files of other names come and go. -/
theorem of_same_names (intact : s.Intact path before)
    (entry : files'.entry (tmpOf path) = s.files.entry (tmpOf path))
    (tmp : files'.read (tmpOf path) = s.files.read (tmpOf path))
    (file : files'.read path = s.files.read path)
    (settles : ∀ file cells, s.files.Settled (tmpOf path) file cells →
      files'.Settled (tmpOf path) file cells) :
    ({ s with files := files' } : Storage).Intact path before where
  savers k saver found := by
    cases intact.savers k saver found with
    | opening early => exact .opening early
    | writing early named within holds =>
        refine .writing early (entry.trans named) within ?_
        unfold Volume.read at tmp
        rw [entry, named, Option.map_some, Option.map_some, holds] at tmp
        exact Option.some.inj tmp
    | replacing early whole => exact .replacing early (tmp.trans whole)
    | removing => exact .removing
    | failed => exact .failed
    | saved stored => exact .saved stored
  loaders k loader found :=
    loader_sound_of_settles (intact.loaders k loader found) List.prefix_rfl settles
  alone := intact.alone
  current := file.trans intact.current

/-! ## Steps -/

theorem startSave (intact : s.Intact path before) (data : Bytes)
    (exclusive : Exclusive path s (.startSave k data)) :
    (s.after path (.startSave k data)).Intact path before := by
  unfold Storage.after
  dsimp only
  split
  case h_2 => exact intact
  case h_1 free =>
      refine ⟨?_, intact.loaders, ?_, intact.current⟩
      · intro other there at_other
        by_cases same : other = k
        · subst same
          rw [savers_setSaver_self] at at_other
          obtain rfl := Option.some.inj at_other
          exact .opening le_rfl
        · rw [savers_setSaver_of_ne _ same] at at_other
          exact intact.savers other there at_other
      · intro one other there there' at_one at_other
        by_cases same : one = k <;> by_cases same' : other = k
        · exact .inr (.inr (same.trans same'.symm))
        · rw [savers_setSaver_of_ne _ same'] at at_other
          exact .inr (.inl (exclusive other there' at_other))
        · rw [savers_setSaver_of_ne _ same] at at_one
          exact .inl (exclusive one there at_one)
        · rw [savers_setSaver_of_ne _ same] at at_one
          rw [savers_setSaver_of_ne _ same'] at at_other
          exact intact.alone one other there there' at_one at_other

theorem endSave (intact : s.Intact path before) :
    (s.after path (.endSave k)).Intact path before where
  savers other there at_other := by
    by_cases same : other = k
    · subst same
      cases (savers_setSaver_self s other none).symm.trans at_other
    · exact intact.savers other there ((savers_setSaver_of_ne s same none).symm.trans at_other)
  loaders := intact.loaders
  alone one other there there' at_one at_other := by
    by_cases same : one = k
    · subst same
      cases (savers_setSaver_self s one none).symm.trans at_one
    by_cases same' : other = k
    · subst same'
      cases (savers_setSaver_self s other none).symm.trans at_other
    · exact intact.alone one other there there'
        ((savers_setSaver_of_ne s same none).symm.trans at_one)
        ((savers_setSaver_of_ne s same' none).symm.trans at_other)
  current := intact.current

theorem endLoad (intact : s.Intact path before) :
    (s.after path (.endLoad k)).Intact path before where
  savers := intact.savers
  loaders other there at_other := by
    by_cases same : other = k
    · subst same
      cases (loaders_setLoader_self s other none).symm.trans at_other
    · exact intact.loaders other there
        ((loaders_setLoader_of_ne s same none).symm.trans at_other)
  alone := intact.alone
  current := intact.current

theorem openTmp (intact : s.Intact path before) (ok : Bool) :
    (s.after path (.openTmp k ok)).Intact path before := by
  unfold Storage.after
  dsimp only
  split
  case h_2 => exact intact
  case h_1 data since found =>
    have busy : ¬ Returned ⟨data, .opening, since⟩ := by
      rintro ⟨result, is⟩
      cases is
    have early : since ≤ s.versions.length := by
      cases intact.savers k _ found with
      | opening early => exact early
    cases ok with
    | false => exact intact.of_quiet_saver found busy .failed
    | true =>
        refine intact.of_saver found busy List.prefix_rfl
          (.writing early (s.files.entry_openTrunc _) (Nat.zero_le _) ?_)
          (fun _ _ settled => settled.openTrunc) ?_
        · exact s.files.content_openTrunc _
        · exact (Volume.read_openTrunc_of_ne (tmpOf_ne path).symm).trans intact.current

/-- The cells that are written next. -/
theorem take_append_chunk (data : Bytes) (written count : Nat) :
    data.take written ++ (data.drop written).take count =
      data.take (written + ((data.drop written).take count).length) := by
  rw [List.take_add, List.length_take, ← List.take_eq_take_min]

theorem write (intact : s.Intact path before) (count : Nat) :
    (s.after path (.write k count)).Intact path before := by
  unfold Storage.after
  dsimp only
  split
  case h_2 => exact intact
  case h_1 data file written since found =>
    have busy : ¬ Returned ⟨data, .writing file written, since⟩ := by
      rintro ⟨result, is⟩
      cases is
    cases intact.savers k _ found with
    | writing early named within holds =>
        have reached : (s.files.content file).length = written := by
          rw [holds, List.length_take, Nat.min_eq_left within]
        have filled : (s.files.content file).overwrite written ((data.drop written).take count) =
            data.take (written + ((data.drop written).take count).length) := by
          rw [← take_append_chunk, ← holds]
          calc (s.files.content file).overwrite written ((data.drop written).take count)
              = (s.files.content file).overwrite (s.files.content file).length
                  ((data.drop written).take count) := by rw [reached]
            _ = s.files.content file ++ (data.drop written).take count :=
                List.overwrite_end _ _
        refine intact.of_saver found busy List.prefix_rfl (.writing early named ?_ ?_)
          (fun _ _ settled => settled.fill named _) ?_
        · rw [List.length_take, List.length_drop]
          omega
        · exact (Volume.content_fill_self _ _ _).trans filled
        · exact (Volume.read_fill_of_ne named (tmpOf_ne path).symm).trans intact.current

theorem failWrite (intact : s.Intact path before) :
    (s.after path (.failWrite k)).Intact path before := by
  unfold Storage.after
  dsimp only
  split
  case h_2 => exact intact
  case h_1 data file written since found =>
    refine intact.of_quiet_saver found ?_ .failed
    rintro ⟨result, is⟩
    cases is

theorem flush (intact : s.Intact path before) : (s.after path (.flush k)).Intact path before := by
  unfold Storage.after
  dsimp only
  split
  case h_2 => exact intact
  case h_1 data file written since found =>
    split
    case isFalse unfinished => exact intact
    case isTrue finished =>
      cases intact.savers k _ found with
      | writing early named within holds =>
          refine intact.of_quiet_saver found ?_ (.replacing early ?_)
          · rintro ⟨result, is⟩
            cases is
          · unfold Volume.read
            rw [named, Option.map_some, holds, finished, List.take_length]

theorem rename (intact : s.Intact path before) (ok : Bool) :
    (s.after path (.rename k ok)).Intact path before := by
  unfold Storage.after
  dsimp only
  split
  case h_2 => exact intact
  case h_1 data since found =>
    have busy : ¬ Returned ⟨data, .replacing, since⟩ := by
      rintro ⟨result, is⟩
      cases is
    split
    case isFalse failed => exact intact.of_quiet_saver found busy .removing
    case isTrue renamed =>
      cases intact.savers k _ found with
      | replacing early whole =>
          refine intact.of_saver found busy (List.prefix_append _ _) (.saved ?_)
            (fun _ _ settled => settled.rename (tmpOf_ne path)) ?_
          · rw [List.drop_append_of_le_length early]
            exact List.mem_append_right _ List.mem_cons_self
          · rw [Volume.read_rename, whole, versionAt_length, List.getLast?_concat, Option.some_or]

theorem removeTmp (intact : s.Intact path before) (ok : Bool) :
    (s.after path (.removeTmp k ok)).Intact path before := by
  unfold Storage.after
  dsimp only
  split
  case h_2 => exact intact
  case h_1 data since found =>
    have busy : ¬ Returned ⟨data, .removing, since⟩ := by
      rintro ⟨result, is⟩
      cases is
    cases ok with
    | false => exact intact.of_quiet_saver found busy .failed
    | true =>
        exact intact.of_saver found busy List.prefix_rfl .failed
          (fun _ _ settled => settled.remove _)
          ((Volume.read_remove_of_ne (tmpOf_ne path).symm).trans intact.current)

theorem startLoad (intact : s.Intact path before) :
    (s.after path (.startLoad k)).Intact path before := by
  unfold Storage.after
  dsimp only
  split
  · exact intact.of_loader .opening
  · exact intact

theorem openFile (intact : s.Intact path before) (ok : Bool) :
    (s.after path (.openFile k ok)).Intact path before := by
  unfold Storage.after
  dsimp only
  split
  case h_2 => exact intact
  case h_1 since found =>
    split
    case h_2 => exact intact.of_loader .failed
    case h_1 file there =>
      refine intact.of_loader (.sizing le_rfl (.of_entry there (tmpOf_ne path).symm) ?_)
      rw [← intact.current]
      unfold Volume.read
      rw [there, Option.map_some]

theorem seekEnd (intact : s.Intact path before) (ok : Bool) :
    (s.after path (.seekEnd k ok)).Intact path before := by
  unfold Storage.after
  dsimp only
  split
  case h_2 => exact intact
  case h_1 file since found =>
    cases ok with
    | false => exact intact.of_loader .failed
    | true =>
        cases intact.loaders k _ found with
        | sizing early settled version =>
            rw [if_pos rfl, settled.holds]
            exact intact.of_loader (.reading early settled version List.nil_prefix)

theorem read (intact : s.Intact path before) (count : Nat) :
    (s.after path (.read k count)).Intact path before := by
  unfold Storage.after
  dsimp only
  split
  case h_2 => exact intact
  case h_1 file size data since found =>
    cases intact.loaders k _ found with
    | @reading _ _ _ cells early settled version begins =>
        refine intact.of_loader (.reading early settled version ?_)
        rw [settled.holds]
        obtain ⟨rest, rfl⟩ := begins
        rw [List.drop_left]
        exact (List.prefix_append_right_inj data).mpr (List.take_prefix _ _)

theorem finishRead (intact : s.Intact path before) (ok : Bool) :
    (s.after path (.finishRead k ok)).Intact path before := by
  unfold Storage.after
  dsimp only
  split
  case h_2 => exact intact
  case h_1 file size data since found =>
    cases ok with
    | false => exact intact.of_loader .failed
    | true =>
        rw [if_pos rfl]
        split
        case isFalse short => exact intact
        case isTrue complete =>
          cases intact.loaders k _ found with
          | @reading _ _ _ cells early settled version begins =>
              obtain rfl := begins.eq_of_length complete
              exact intact.of_loader (.loaded early version)

theorem elsewhere (intact : s.Intact path before) (name : String) (content : Option Bytes)
    (exclusive : Exclusive path s (.elsewhere name content)) :
    (s.after path (.elsewhere name content)).Intact path before := by
  obtain ⟨notPath, notTmp⟩ := exclusive
  unfold Storage.after
  dsimp only
  split
  · exact intact.of_same_names (Volume.entry_create_of_ne notTmp.symm)
      (Volume.read_create_of_ne notTmp.symm) (Volume.read_create_of_ne notPath.symm)
      (fun _ _ settled => settled.create _ _)
  · exact intact.of_same_names (Volume.entry_remove_of_ne notTmp.symm)
      (Volume.read_remove_of_ne notTmp.symm) (Volume.read_remove_of_ne notPath.symm)
      (fun _ _ settled => settled.remove _)

theorem after (intact : s.Intact path before) {event : FileEvent}
    (exclusive : Exclusive path s event) : (s.after path event).Intact path before := by
  cases event with
  | startSave saver data => exact intact.startSave data exclusive
  | openTmp saver ok => exact intact.openTmp ok
  | write saver count => exact intact.write count
  | failWrite saver => exact intact.failWrite
  | flush saver => exact intact.flush
  | rename saver ok => exact intact.rename ok
  | removeTmp saver ok => exact intact.removeTmp ok
  | endSave saver => exact intact.endSave
  | startLoad loader => exact intact.startLoad
  | openFile loader ok => exact intact.openFile ok
  | seekEnd loader ok => exact intact.seekEnd ok
  | read loader count => exact intact.read count
  | finishRead loader ok => exact intact.finishRead ok
  | endLoad loader => exact intact.endLoad
  | elsewhere name content => exact intact.elsewhere name content exclusive

theorem start (path : String) (files : Volume String UInt8) :
    (Storage.start files).Intact path (files.read path) where
  savers _ _ found := by cases found
  loaders _ _ found := by cases found
  alone _ _ _ _ found := by cases found
  current := rfl

theorem of_reachable (reached : (runs path files).Reachable s) :
    s.Intact path (files.read path) := by
  refine reached.invariant (Intact path (files.read path)) ?_ ?_
  · rintro s rfl
    exact start path files
  · rintro s event s' intact ⟨exclusive, rfl⟩
    exact intact.after exclusive

end Intact

/-- Wherever the calls fail, interleave or end with their process: the file is whole and the
last version, a save that succeeded has replaced it since it started, and a load that
succeeds returns the version that was there when it opened the file. -/
theorem saves_atomic {s : Storage} (reached : (runs path files).Reachable s) :
    s.files.read path = s.versions.getLast?.or (files.read path) ∧
      (∀ k data since, s.savers k = some ⟨data, .returned (.ok ()), since⟩ →
        data ∈ s.versions.drop since) ∧
      ∀ k data since, s.loaders k = some ⟨.returned (.ok data), since⟩ →
        since ≤ s.versions.length ∧ versionAt (files.read path) s.versions since = some data := by
  have intact := Intact.of_reachable reached
  refine ⟨intact.current.trans versionAt_length, ?_, ?_⟩
  · intro k data since found
    cases intact.savers k _ found with
    | saved stored => exact stored
  · intro k data since found
    cases intact.loaders k _ found with
    | loaded early version => exact ⟨early, version⟩

/-- A record is saved, and is loaded while the process ends that saves the next one. -/
def saving : List FileEvent := [.startSave 1 [1, 2, 3], .openTmp 1 true, .write 1 2, .write 1 2,
  .flush 1, .rename 1 true, .endSave 1, .startLoad 1, .openFile 1 true, .seekEnd 1 true,
  .read 1 2, .read 1 2, .finishRead 1 true]

theorem along_saving : Along (after "state") (Exclusive "state") (start .empty) saving := by
  refine ⟨?_, trivial, trivial, trivial, trivial, trivial, trivial, trivial, trivial, trivial,
    trivial, trivial, trivial, trivial⟩
  intro other saver found
  cases found

theorem saves_atomic_saving :
    (saving.foldl (after "state") (start .empty)).files.read "state" = some [1, 2, 3] ∧
      versionAt none (saving.foldl (after "state") (start .empty)).versions 1 =
        some [1, 2, 3] := by
  obtain ⟨current, _, loaded⟩ := saves_atomic (.foldl (.start rfl) along_saving)
  exact ⟨current, (loaded 1 [1, 2, 3] 1 rfl).2⟩

def overlapping : List FileEvent := [.startSave 1 [1, 2], .startSave 2 [3, 4], .openTmp 1 true,
  .write 1 2, .flush 1, .openTmp 2 true, .write 2 1, .rename 1 true]

/-- Two saves of one path share the temporary file: the first one renames what the second
one has written so far. -/
theorem overlapping_saves_tear : ¬ ∀ s,
    (guardedRuns (after "state") (fun _ _ => True) (start .empty)).Reachable s →
      s.files.read "state" = s.versions.getLast? := by
  intro whole
  have torn := whole _ (.foldl (.start rfl) (along_true _ overlapping))
  revert torn
  decide

end Storage

end PowerGovernor
