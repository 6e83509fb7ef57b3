import PowerGovernor.Persistence.Files
import PowerGovernor.Persistence.Reload
import PowerGovernor.Governor.Run

/-!
A Governor and its file.

Owns `save` and `load` as they run beside the other calls of a process that may end at any
point and start again, and the theorem that the file and every load hold what the
Governor was at the start of one of the saves.

Does not own what a load makes of a state that is not blank.
-/

set_option autoImplicit false

namespace PowerGovernor

open Storage (Exclusive Returned)

/-- A process with the saves and loads of one path. `captured` records what the Governor was
when its saves encoded it; no step reads it. -/
structure Persistent where
  gov : Governor
  storage : Storage
  captured : List Governor

/-- A step of the process: another call of the Governor, the encoding at the start of a save,
an operation of a save or a load on the file, the decoding at the end of a load, or the end
of the process and its next start. -/
inductive PersistentEvent where
  | call (call : GovernorCall)
  | save (saver : Nat)
  | operate (event : FileEvent)
  | decode (loader : Nat) (now : Timestamp)
  | restart (cfg : GovernorConfig) (ids : Allocators)

namespace Persistent

/-- An empty file system and a new Governor. -/
def start (cfg : GovernorConfig) (ids : Allocators) : Persistent :=
  ⟨.construct cfg ids, .start .empty, []⟩

/-- The process after a step. A save that cannot encode the state throws before it opens a
file. -/
def after (path : String) (s : Persistent) : PersistentEvent → Persistent
  | .call call => { s with gov := call.after s.gov }
  | .save saver =>
    match s.gov.save with
    | .error _ => s
    | .ok bytes =>
      { s with
        storage := s.storage.after path (.startSave saver bytes)
        captured := s.captured ++ [s.gov] }
  | .operate event =>
    match event with
    | .startSave _ _ => s
    | event => { s with storage := s.storage.after path event }
  | .decode loader now =>
    match s.storage.loaders loader with
    | some ⟨.returned (.ok bytes), _⟩ =>
      { s with
        gov := (s.gov.load (some bytes) now).2
        storage := s.storage.after path (.endLoad loader) }
    | some ⟨.returned (.error _), _⟩ =>
      { s with storage := s.storage.after path (.endLoad loader) }
    | _ => s
  | .restart cfg ids =>
    { s with
      gov := .construct cfg ids
      storage := { s.storage with savers := fun _ => none, loaders := fun _ => none } }

/-- No two saves overlap, and nobody else writes the file or its temporary one. -/
def Meets (path : String) (s : Persistent) : PersistentEvent → Prop
  | .save saver => Exclusive path s.storage (.startSave saver [])
  | .operate event => Exclusive path s.storage event
  | _ => True

def runs (path : String) (cfg : GovernorConfig) (ids : Allocators) :
    TransitionSystem Persistent PersistentEvent :=
  guardedRuns (after path) (Meets path) (start cfg ids)

end Persistent

/-! ## What is on its way to the file -/

namespace Storage

variable {path : String} {P : Bytes → Prop} {s : Storage}

/-- Everything that a save writes or has written satisfies the property. -/
structure Carries (P : Bytes → Prop) (s : Storage) : Prop where
  savers : ∀ k saver, s.savers k = some saver → P saver.data
  versions : ∀ bytes ∈ s.versions, P bytes

namespace Carries

theorem mono {Q : Bytes → Prop} (carries : s.Carries P) (implies : ∀ bytes, P bytes → Q bytes) :
    s.Carries Q where
  savers k saver found := implies _ (carries.savers k saver found)
  versions bytes member := implies _ (carries.versions bytes member)

/-- A save goes on with its data; the files and the loads do not matter. -/
theorem setSaver (carries : s.Carries P) (k : Nat) {saver : Saver} (holds : P saver.data)
    {t : Storage} (savers : t.savers = s.savers) (versions : ∀ bytes ∈ t.versions, P bytes) :
    (t.setSaver k (some saver)).Carries P where
  savers other there found := by
    by_cases same : other = k
    · subst same
      rw [savers_setSaver_self] at found
      rw [← Option.some.inj found]
      exact holds
    · rw [savers_setSaver_of_ne _ same, savers] at found
      exact carries.savers other there found
  versions := versions

theorem after (carries : s.Carries P) {event : FileEvent}
    (starts : ∀ saver data, event = .startSave saver data → P data) :
    (s.after path event).Carries P := by
  unfold Storage.after
  cases event with
  | startSave saver data =>
      dsimp only
      split
      · exact carries.setSaver saver (starts saver data rfl) rfl carries.versions
      · exact carries
  | openTmp saver ok =>
      dsimp only
      split
      case h_1 data since found =>
        have holds : P data := carries.savers saver _ found
        split
        · exact carries.setSaver saver holds rfl carries.versions
        · exact carries.setSaver saver holds rfl carries.versions
      case h_2 => exact carries
  | write saver count =>
      dsimp only
      split
      case h_1 data file written since found =>
        have holds : P data := carries.savers saver _ found
        exact carries.setSaver saver holds rfl carries.versions
      case h_2 => exact carries
  | failWrite saver =>
      dsimp only
      split
      case h_1 data file written since found =>
        have holds : P data := carries.savers saver _ found
        exact carries.setSaver saver holds rfl carries.versions
      case h_2 => exact carries
  | flush saver =>
      dsimp only
      split
      case h_1 data file written since found =>
        have holds : P data := carries.savers saver _ found
        split
        · exact carries.setSaver saver holds rfl carries.versions
        · exact carries
      case h_2 => exact carries
  | rename saver ok =>
      dsimp only
      split
      case h_1 data since found =>
        have holds : P data := carries.savers saver _ found
        split
        · refine carries.setSaver saver holds rfl ?_
          intro bytes member
          rcases List.mem_append.mp member with old | new
          · exact carries.versions bytes old
          · rw [List.mem_singleton.mp new]
            exact holds
        · exact carries.setSaver saver holds rfl carries.versions
      case h_2 => exact carries
  | removeTmp saver ok =>
      dsimp only
      split
      case h_1 data since found =>
        have holds : P data := carries.savers saver _ found
        exact carries.setSaver saver holds rfl carries.versions
      case h_2 => exact carries
  | endSave saver =>
      refine ⟨?_, carries.versions⟩
      intro other there found
      by_cases same : other = saver
      · subst same
        cases (savers_setSaver_self s other none).symm.trans found
      · exact carries.savers other there ((savers_setSaver_of_ne s same none).symm.trans found)
  | startLoad loader | openFile loader | seekEnd loader | read loader | finishRead loader =>
      dsimp only
      repeat' split
      all_goals exact ⟨carries.savers, carries.versions⟩
  | endLoad loader => exact ⟨carries.savers, carries.versions⟩
  | elsewhere name content =>
      dsimp only
      split <;> exact ⟨carries.savers, carries.versions⟩

end Carries

/-- The end of the process. -/
theorem Intact.of_restart {before : Option Bytes} (intact : s.Intact path before) :
    ({ s with savers := fun _ => none, loaders := fun _ => none } : Storage).Intact path
      before where
  savers _ _ found := by cases found
  loaders _ _ found := by cases found
  alone _ _ _ _ found := by cases found
  current := intact.current

end Storage

/-! ## Recovery -/

/-- The bytes are the record of the state. A Governor that starts from them is the reloaded
one, or refuses them because the state is not within the limits of the decoder. -/
structure Governor.Recorded (g : Governor) (bytes : Bytes) : Prop where
  saved : g.save = .ok bytes
  restores : ∀ cfg ids now, g.Loadable →
    (construct cfg ids).load (some bytes) now = (.ok true, reloaded (construct cfg ids) g now)
  refuses : ∀ cfg ids now, ¬ g.Loadable → ((construct cfg ids).load (some bytes) now).1 = .ok false

theorem Governor.Recorded.of_saved {g : Governor} {bytes : Bytes} (saved : g.save = .ok bytes) :
    g.Recorded bytes where
  saved := saved
  restores cfg ids now loadable := by
    rcases load_saved (blank_construct cfg ids) saved with ⟨_, loads⟩ | ⟨refused, _⟩
    · exact loads
    · exact absurd loadable refused
  refuses cfg ids now refused := by
    rcases load_saved (blank_construct cfg ids) saved with ⟨loadable, _⟩ | ⟨_, outcome⟩
    · exact absurd loadable refused
    · exact outcome

namespace Persistent

variable {path : String} {s : Persistent} {event : PersistentEvent}

/-- The bytes are what a save encoded. -/
def Captured (captured : List Governor) (bytes : Bytes) : Prop :=
  ∃ g ∈ captured, g.save = .ok bytes

theorem captured_append {captured : List Governor} {bytes : Bytes}
    (before : Captured captured bytes) (g : Governor) : Captured (captured ++ [g]) bytes := by
  obtain ⟨other, member, saved⟩ := before
  exact ⟨other, List.mem_append_left _ member, saved⟩

structure Consistent (path : String) (s : Persistent) : Prop where
  intact : s.storage.Intact path none
  carries : s.storage.Carries (Captured s.captured)

theorem consistent_after (consistent : s.Consistent path) (meets : s.Meets path event) :
    (s.after path event).Consistent path := by
  unfold after
  cases event with
  | call call => exact ⟨consistent.intact, consistent.carries⟩
  | save saver =>
      dsimp only
      cases saved : s.gov.save with
      | error fault => exact consistent
      | ok bytes =>
          have exclusive : Exclusive path s.storage (.startSave saver bytes) := meets
          have carries : (s.storage.after path (.startSave saver bytes)).Carries
              (Captured (s.captured ++ [s.gov])) := by
            apply (consistent.carries.mono fun _ before => captured_append before s.gov).after
            rintro saver data ⟨⟩
            exact ⟨s.gov, List.mem_append_right _ (List.mem_singleton_self _), saved⟩
          exact ⟨consistent.intact.after exclusive, carries⟩
  | operate event =>
      dsimp only
      split
      · exact consistent
      · rename_i other
        refine ⟨consistent.intact.after meets, consistent.carries.after ?_⟩
        intro saver data is
        exact absurd is (other saver data)
  | decode loader now =>
      have carries : (s.storage.after path (.endLoad loader)).Carries (Captured s.captured) := by
        apply consistent.carries.after
        rintro saver data ⟨⟩
      dsimp only
      split
      · exact ⟨consistent.intact.endLoad, carries⟩
      · exact ⟨consistent.intact.endLoad, carries⟩
      · exact consistent
  | restart cfg ids =>
      refine ⟨consistent.intact.of_restart, ?_, consistent.carries.versions⟩
      rintro k saver ⟨⟩

theorem consistent_of_reachable {cfg : GovernorConfig} {ids : Allocators}
    (reached : (runs path cfg ids).Reachable s) : s.Consistent path := by
  refine reached.invariant (Consistent path) ?_ ?_
  · rintro s rfl
    refine ⟨.start path .empty, ?_, ?_⟩
    · rintro k saver ⟨⟩
    · rintro bytes ⟨⟩
  · rintro s event s' consistent ⟨meets, rfl⟩
    exact consistent_after consistent meets

/-- A save succeeds, the process ends and starts again. -/
def saving : List PersistentEvent := [.save 1, .operate (.openTmp 1 true),
  .operate (.write 1 100000), .operate (.flush 1), .operate (.rename 1 true),
  .operate (.endSave 1), .restart ⟨⟨1⟩, ⟨1⟩, .first⟩ .start]

theorem along_saving : Along (after "state") (Meets "state")
    (start ⟨⟨1⟩, ⟨1⟩, .first⟩ .start) saving := by
  refine ⟨?_, trivial, trivial, trivial, trivial, trivial, trivial, trivial⟩
  intro other saver found
  cases found

end Persistent

end PowerGovernor
