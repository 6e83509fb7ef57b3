import PowerGovernor.Persistence.Acceptance
import PowerGovernor.Persistence.Replay

/-!
Files that a fresh Governor accepts.

Owns the contents of a file as its sections are read, the managers that install
nothing but unbooked budgets, and what an accepted file leaves in a fresh
Governor.
-/

set_option autoImplicit false

namespace PowerGovernor

/-! ## The contents of a file -/

/-- What the sections of a blob say. -/
structure StateFile where
  header : StateHeader
  caps : List (Option Watts)
  budgets : List PowerBudget
  reservations : List Reservation
  meters : List (WorkloadId × Joules)
deriving DecidableEq

/-- A count and that many records. -/
def readRecords {α : Type} (reader : BinReader α) : BinReader (List α) := do
  let count ← decodeCount
  ByteReader.readAll reader count

theorem readRecords_eq_ok {α : Type} {reader : BinReader α} {bytes rest : Bytes}
    {items : List α} : (readRecords reader).run bytes = .ok (items, rest) ↔
      ∃ count after, decodeCount.run bytes = .ok (count, after) ∧
        (ByteReader.readAll reader count).run after = .ok (items, rest) :=
  ByteReader.run_bind_eq_ok

namespace StateFile

def reader : BinReader StateFile := do
  let header ← decodeHeader
  let caps ← ByteReader.readAll decodeCap 4
  let budgets ← readRecords decodeBudget
  let reservations ← readRecords decodeReservation
  let meters ← readRecords decodeMeter
  return ⟨header, caps, budgets, reservations, meters⟩

/-- A blob is read section by section. -/
theorem reader_eq_ok {file : StateFile} {blob rest : Bytes} :
    reader.run blob = .ok (file, rest) ↔ ∃ afterHeader afterCaps afterBudgets afterReservations,
      decodeHeader.run blob = .ok (file.header, afterHeader) ∧
      (ByteReader.readAll decodeCap 4).run afterHeader = .ok (file.caps, afterCaps) ∧
      (readRecords decodeBudget).run afterCaps = .ok (file.budgets, afterBudgets) ∧
      (readRecords decodeReservation).run afterBudgets =
        .ok (file.reservations, afterReservations) ∧
      (readRecords decodeMeter).run afterReservations = .ok (file.meters, rest) := by
  unfold reader
  constructor
  · intro read
    obtain ⟨header, afterHeader, readHeader, read⟩ := ByteReader.run_bind_eq_ok.mp read
    obtain ⟨caps, afterCaps, readCaps, read⟩ := ByteReader.run_bind_eq_ok.mp read
    obtain ⟨budgets, afterBudgets, readBudgets, read⟩ := ByteReader.run_bind_eq_ok.mp read
    obtain ⟨reservations, afterReservations, readReservations, read⟩ :=
      ByteReader.run_bind_eq_ok.mp read
    obtain ⟨meters, last, readMeters, read⟩ := ByteReader.run_bind_eq_ok.mp read
    obtain ⟨rfl, rfl⟩ := Prod.mk.inj (Except.ok.inj read)
    exact ⟨afterHeader, afterCaps, afterBudgets, afterReservations, readHeader, readCaps,
      readBudgets, readReservations, readMeters⟩
  · rintro ⟨_, _, _, _, readHeader, readCaps, readBudgets, readReservations, readMeters⟩
    refine ByteReader.run_bind_eq_ok.mpr ⟨_, _, readHeader, ?_⟩
    refine ByteReader.run_bind_eq_ok.mpr ⟨_, _, readCaps, ?_⟩
    refine ByteReader.run_bind_eq_ok.mpr ⟨_, _, readBudgets, ?_⟩
    refine ByteReader.run_bind_eq_ok.mpr ⟨_, _, readReservations, ?_⟩
    exact ByteReader.run_bind_eq_ok.mpr ⟨_, _, readMeters, rfl⟩

/-- The contents of a file, when all of it can be read. -/
def ofBytes (bytes : Bytes) : Option StateFile :=
  match decodeEnvelope bytes with
  | .error _ => none
  | .ok envelope =>
    match reader.run envelope.blob with
    | .ok (file, []) => some file
    | _ => none

theorem ofBytes_eq_some {bytes : Bytes} {file : StateFile} : ofBytes bytes = some file ↔
    ∃ envelope, decodeEnvelope bytes = .ok envelope ∧
      reader.run envelope.blob = .ok (file, []) := by
  unfold ofBytes
  cases decodeEnvelope bytes with
  | error text => exact ⟨nofun, fun ⟨_, failed, _⟩ => nomatch failed⟩
  | ok envelope =>
      simp only [Except.ok.injEq, exists_eq_left']
      cases reader.run envelope.blob with
      | error e => exact ⟨nofun, nofun⟩
      | ok result =>
          obtain ⟨contents, rest⟩ := result
          cases rest with
          | nil => simp
          | cons byte rest => simp

/-- The budgets of the file, none of them booked. -/
def installed (file : StateFile) : BudgetManager :=
  file.budgets.foldl (fun m b => ⟨m.states.emplace (unbooked b)⟩) .empty

/-- The reservations that hold capacity. -/
def holding (file : StateFile) : List Reservation := file.reservations.filter (·.state.holds)

end StateFile

/-! ## Unbooked budgets -/

/-- Every budget is as a file installs it. -/
def BudgetManager.Unbooked (m : BudgetManager) : Prop :=
  ∀ s ∈ m.states.entries, s = unbooked s.cfg

namespace BudgetManager

theorem unbooked_empty : BudgetManager.empty.Unbooked := fun _ member => nomatch member

theorem unbooked_install {m m' : BudgetManager} {b : PowerBudget} (fresh : m.Unbooked)
    (accepted : m.install b = (m', true)) : m'.Unbooked := by
  rcases install_cases m b with
    ⟨absent, installed⟩ | ⟨_, _, _, refused⟩ | ⟨s, found, _, installed⟩
  · rw [installed] at accepted
    obtain rfl := (Prod.mk.inj accepted).1
    intro s member
    have absent : m.states.find? ((fun s : BudgetState => s.cfg.id)
        ⟨b, Watts.zero, Watts.zero⟩) = none := absent
    rw [Keyed.entries_emplace absent] at member
    rcases List.mem_append.mp member with before | last
    · exact fresh s before
    · rw [List.mem_singleton.mp last]
      rfl
  · rw [refused] at accepted
    cases accepted
  · rw [installed] at accepted
    obtain rfl := (Prod.mk.inj accepted).1
    have renamed : ∀ old : BudgetState, old.cfg.id = b.id → ({ old with cfg := b }).cfg.id = b.id :=
      fun _ _ => rfl
    change ∀ s ∈ (m.states.modify b.id (fun old => { old with cfg := b }) renamed).entries, _
    apply Keyed.forall_modify fresh
    intro old member _
    have plain := fresh old member
    have reserved : old.reserved = Watts.zero := congrArg BudgetState.reserved plain
    have used : old.used = Watts.zero := congrArg BudgetState.used plain
    rw [reserved, used]
    rfl

theorem unbooked_installAll {m m' : BudgetManager} {bs : List PowerBudget} (fresh : m.Unbooked)
    (accepted : m.installAll bs = some m') : m'.Unbooked := by
  induction bs generalizing m with
  | nil =>
      obtain rfl := Option.some.inj accepted
      exact fresh
  | cons b rest inductionHypothesis =>
      unfold installAll at accepted
      cases result : m.install b with
      | mk next ok =>
          rw [result] at accepted
          cases ok with
          | false => cases accepted
          | true => exact inductionHypothesis (unbooked_install fresh result) accepted

variable {m : BudgetManager}

theorem Unbooked.state (fresh : m.Unbooked) {k : BudgetId} {s : BudgetState}
    (found : m.state? k = some s) : s = unbooked s.cfg :=
  fresh s (Keyed.mem_of_find? found)

/-- Nothing has been replayed yet. -/
theorem Unbooked.rebooked (fresh : m.Unbooked) : Rebooked id m [] m := by
  refine ⟨fun b _ => ⟨rfl, rfl, rfl, rfl⟩, fun k => ?_⟩
  cases found : m.state? k with
  | none => rfl
  | some s =>
      have nothing : Watts.clamped (m.room.demand [] k) = Watts.zero := by
        rw [FirstFit.demand_nil]
        apply Quantity.ext
        rw [Watts.clamped_value, max_self, Watts.zero_value]
      rw [Option.map_some, nothing]
      exact congrArg some (fresh.state found)

/-- In a valid hierarchy no budget is above its own parent. -/
theorem not_above_of_climb {self : BudgetId} {steps : Nat} {cur : BudgetId}
    (ends : m.climb self steps (some cur) = true) (valid : cur.isValid = true) :
    ¬ m.InSubtree cur self := by
  induction steps generalizing cur with
  | zero =>
      unfold climb at ends
      rw [valid, Bool.not_true, if_neg Bool.false_ne_true] at ends
      split at ends
      · cases ends
      rename_i different
      intro above
      rcases Relation.ReflTransGen.cases_head above with same | ⟨next, up, _⟩
      · exact different same
      · unfold parentOf at up
        cases found : m.state? cur with
        | none =>
            rw [found] at up
            cases up
        | some s =>
            rw [found] at ends
            cases ends
  | succ steps inductionHypothesis =>
      unfold climb at ends
      rw [valid, Bool.not_true, if_neg Bool.false_ne_true] at ends
      split at ends
      · cases ends
      rename_i different
      intro above
      rcases Relation.ReflTransGen.cases_head above with same | ⟨next, up, higher⟩
      · exact different same
      · unfold parentOf at up
        cases found : m.state? cur with
        | none =>
            rw [found] at up
            cases up
        | some s =>
            rw [found] at ends up
            obtain ⟨named, validNext⟩ := Option.filter_eq_some_iff.mp up
            dsimp only at ends
            rw [named] at ends
            exact inductionHypothesis ends validNext higher

theorem acyclic_of_validHierarchy (valid : m.validHierarchy = true) {id upper : BudgetId}
    (parent : m.parentOf id = some upper) : ¬ m.InSubtree upper id := by
  have acyclic := List.all_eq_true.mp (Bool.and_eq_true_iff.mp valid).2
  cases found : m.state? id with
  | none =>
      unfold parentOf at parent
      rw [found] at parent
      cases parent
  | some s =>
      unfold parentOf at parent
      rw [found] at parent
      obtain ⟨named, validUpper⟩ := Option.filter_eq_some_iff.mp parent
      have ends := acyclic s.cfg (mem_snapshots found)
      rw [id_of_state? found, named] at ends
      exact not_above_of_climb ends validUpper

end BudgetManager

/-! ## What an accepted file leaves behind -/

/-- The parts of an accepted file as they were restored. -/
structure Accepted (file : StateFile) (g : Governor) (m : BudgetManager) : Prop where
  installed : BudgetManager.empty.installAll file.budgets = some m
  plain : m.Unbooked
  valid : m.validHierarchy = true
  distinct : (file.reservations.map Reservation.id).Nodup
  reservations : g.reservations.map.entries = file.reservations
  budgets : g.budgets = file.reservations.foldl reclaim m

namespace Governor

variable {g g' : Governor} {now : Timestamp} {bytes : Bytes}

theorem budgets_foldl_add (s : Restored) (rs : List Reservation) :
    (rs.foldl Restored.add s).budgets = rs.foldl reclaim s.budgets :=
  (List.foldl_hom Restored.budgets fun _ _ => rfl).symm

theorem rejectUnless_eq_ok {S : Type} {condition : Bool} {s s' : S} :
    (rejectUnless condition : Stateful Exit S Unit).exec s = (.ok (), s') ↔
      condition = true ∧ s' = s := by
  cases condition with
  | false => exact ⟨nofun, nofun⟩
  | true => exact ⟨fun ended => ⟨rfl, (Prod.mk.inj ended).2.symm⟩, fun same => same.2 ▸ rfl⟩

/-- The Governor takes over every record: the budgets are installed to `m`, their
hierarchy is valid and the reservation ids are new. -/
def Takes (g : Governor) (budgets : List PowerBudget) (reservations : List Reservation)
    (m : BudgetManager) : Prop :=
  g.budgets.installAll budgets = some m ∧ m.validHierarchy = true ∧
    g.reservations.map.Fresh reservations

/-- The budget section and the ones after it succeed. -/
theorem fromBudgets_eq_ok : (fromBudgets now bytes).exec g = (.ok (), g') ↔
    ∃ budgets reservations meters rest rest' m,
      (readRecords decodeBudget).run bytes = .ok (budgets, rest) ∧
      (readRecords decodeReservation).run rest = .ok (reservations, rest') ∧
      (readRecords decodeMeter).run rest' = .ok (meters, []) ∧
      g.Takes budgets reservations m ∧
      g' = { writeRestored (reservations.foldl Restored.add ⟨g.reservations, g.resIndex, m⟩) g with
        workloadMeters := restoredMeters now g.workloadMeters meters } := by
  unfold fromBudgets fromReservations fromMeters
  constructor
  · intro accepted
    obtain ⟨rest, _, budgets, accepted⟩ := Stateful.bind_eq_ok.mp accepted
    obtain ⟨_, _, bs, m, header, readBudgets, installed, rfl⟩ := decodeBudgets_eq_ok.mp budgets
    obtain ⟨_, _, ⟨⟩, accepted⟩ := Stateful.bind_eq_ok.mp accepted
    obtain ⟨_, _, checked, accepted⟩ := Stateful.bind_eq_ok.mp accepted
    obtain ⟨valid, rfl⟩ := rejectUnless_eq_ok.mp checked
    obtain ⟨rest', _, reservations, accepted⟩ := Stateful.bind_eq_ok.mp accepted
    obtain ⟨_, _, rs, header', readReservations, fresh, rfl⟩ :=
      decodeReservations_eq_ok.mp reservations
    obtain ⟨rest'', _, meters, accepted⟩ := Stateful.bind_eq_ok.mp accepted
    obtain ⟨_, _, records, header'', readMeters, rfl⟩ := decodeMeters_eq_ok.mp meters
    obtain ⟨trailing, rfl⟩ := rejectUnless_eq_ok.mp accepted
    obtain rfl := List.isEmpty_iff.mp trailing
    exact ⟨bs, rs, records, rest, rest', m, readRecords_eq_ok.mpr ⟨_, _, header, readBudgets⟩,
      readRecords_eq_ok.mpr ⟨_, _, header', readReservations⟩,
      readRecords_eq_ok.mpr ⟨_, _, header'', readMeters⟩, ⟨installed, valid, fresh⟩, rfl⟩
  · rintro ⟨bs, rs, records, rest, rest', m, readBudgets, readReservations, readMeters,
      ⟨installed, valid, fresh⟩, rfl⟩
    obtain ⟨_, _, header, allBudgets⟩ := readRecords_eq_ok.mp readBudgets
    obtain ⟨_, _, header', allReservations⟩ := readRecords_eq_ok.mp readReservations
    obtain ⟨_, _, header'', allMeters⟩ := readRecords_eq_ok.mp readMeters
    refine Stateful.bind_eq_ok.mpr ⟨rest, { g with budgets := m },
      decodeBudgets_eq_ok.mpr ⟨_, _, _, _, header, allBudgets, installed, rfl⟩, ?_⟩
    refine Stateful.bind_eq_ok.mpr ⟨_, _, rfl, ?_⟩
    refine Stateful.bind_eq_ok.mpr ⟨(), _, rejectUnless_eq_ok.mpr ⟨valid, rfl⟩, ?_⟩
    refine Stateful.bind_eq_ok.mpr ⟨rest', _,
      decodeReservations_eq_ok.mpr ⟨_, _, _, header', allReservations, fresh, rfl⟩, ?_⟩
    refine Stateful.bind_eq_ok.mpr ⟨[], _,
      decodeMeters_eq_ok.mpr ⟨_, _, _, header'', allMeters, rfl⟩, ?_⟩
    exact rejectUnless_eq_ok.mpr ⟨rfl, rfl⟩

/-- The Governor once it has taken over a file. -/
def takenOver (g : Governor) (now : Timestamp) (file : StateFile) (m : BudgetManager) : Governor :=
  let g := (g.withHeader file.header).writePolicy
    (policyWithCaps ⟨g.ids.policy + 1⟩ file.header file.caps)
  { writeRestored (file.reservations.foldl Restored.add ⟨g.reservations, g.resIndex, m⟩) g with
    workloadMeters := restoredMeters now g.workloadMeters file.meters }

/-- The decoding succeeds exactly when the blob is a file that can be taken over. -/
theorem decodeSections_eq_ok {blob : Bytes} : (decodeSections now blob).exec g = (.ok (), g') ↔
    ∃ file m, StateFile.reader.run blob = .ok (file, []) ∧
      g.Takes file.budgets file.reservations m ∧ g' = g.takenOver now file m := by
  simp only [StateFile.reader_eq_ok]
  rcases exec_decodeSections_cases g now blob with ⟨e, unread, exec⟩ | ⟨header, rest, read, after⟩
  · rw [exec]
    refine ⟨nofun, ?_⟩
    rintro ⟨file, m, ⟨rest, _, _, _, read, _⟩, _⟩
    rw [unread] at read
    cases read
  rcases after with ⟨e, unread, exec⟩ | ⟨policy, rest', readPolicy, exec⟩
  · rw [exec]
    refine ⟨nofun, ?_⟩
    rintro ⟨file, m, ⟨rest', _, _, _, read', readCaps, _⟩, _⟩
    obtain ⟨rfl, rfl⟩ := Prod.mk.inj (Except.ok.inj (read.symm.trans read'))
    rw [decodePolicy_eq_ok.mpr ⟨_, readCaps, rfl⟩] at unread
    cases unread
  · rw [exec, fromBudgets_eq_ok]
    obtain ⟨caps, readCaps, rfl⟩ := decodePolicy_eq_ok.mp readPolicy
    constructor
    · rintro ⟨bs, rs, ms, more, most, m, readBudgets, readReservations, readMeters, takes, rfl⟩
      exact ⟨⟨header, caps, bs, rs, ms⟩, m, ⟨rest, rest', more, most, read, readCaps, readBudgets,
        readReservations, readMeters⟩, takes, rfl⟩
    · rintro ⟨file, m, ⟨_, _, more, most, read', readCaps', readBudgets, readReservations,
        readMeters⟩, takes, rfl⟩
      obtain ⟨rfl, rfl⟩ := Prod.mk.inj (Except.ok.inj (read.symm.trans read'))
      obtain ⟨rfl, rfl⟩ := Prod.mk.inj (Except.ok.inj (readCaps.symm.trans readCaps'))
      exact ⟨_, _, _, more, most, m, readBudgets, readReservations, readMeters, takes, rfl⟩

/-- A load returns `true` exactly when the file can be read to its end and taken
over. -/
theorem load_eq_true : g.load (some bytes) now = (.ok true, g') ↔
    ∃ file m, StateFile.ofBytes bytes = some file ∧ g.Takes file.budgets file.reservations m ∧
      g' = (g.takenOver now file m).invalidateLiveTelemetry := by
  simp only [StateFile.ofBytes_eq_some]
  unfold load
  dsimp only
  cases decodeEnvelope bytes with
  | error text => exact ⟨nofun, fun ⟨_, _, ⟨_, failed, _⟩, _⟩ => nomatch failed⟩
  | ok envelope =>
      simp only [Except.ok.injEq, exists_eq_left']
      unfold decodeState
      rw [Stateful.exec_bind]
      constructor
      · intro loaded
        cases ended : (decodeSections now envelope.blob).exec g with
        | mk result left =>
            rw [ended] at loaded
            cases result with
            | error exit => cases exit <;> cases loaded
            | ok _ =>
                obtain rfl : left.invalidateLiveTelemetry = g' := (Prod.mk.inj loaded).2
                obtain ⟨file, m, contents, takes, rfl⟩ := decodeSections_eq_ok.mp ended
                exact ⟨file, m, contents, takes, rfl⟩
      · rintro ⟨file, m, contents, takes, rfl⟩
        rw [decodeSections_eq_ok.mpr ⟨file, m, contents, takes, rfl⟩]
        rfl

/-- A load into a fresh Governor that succeeds has read all of the file. -/
theorem accepted_of_load (blank : Blank g)
    (loaded : g.load (some bytes) now = (.ok true, g')) :
    ∃ file m, StateFile.ofBytes bytes = some file ∧ Accepted file g' m := by
  obtain ⟨file, m, contents, ⟨installed, valid, fresh⟩, rfl⟩ := load_eq_true.mp loaded
  have nothing := blank.restored
  unfold Governor.restored at nothing
  obtain ⟨noReservations, noIndex, _⟩ := Restored.mk.inj nothing
  rw [blank.budgets] at installed
  refine ⟨file, m, contents, ?_⟩
  exact {
    installed := installed
    plain := BudgetManager.unbooked_installAll BudgetManager.unbooked_empty installed
    valid := valid
    distinct := fresh.1
    reservations := by
      show (file.reservations.foldl Restored.add
        ⟨g.reservations, g.resIndex, m⟩).reservations.map.entries = _
      rw [noReservations, reservations_foldl_add, Keyed.entries_foldl_emplace]
      · rfl
      · exact Keyed.fresh_empty fresh.1
    budgets := budgets_foldl_add ⟨g.reservations, g.resIndex, m⟩ file.reservations }

end Governor

end PowerGovernor
