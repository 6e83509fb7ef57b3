import PowerGovernor.Decision.Sequence
import PowerGovernor.Json

/-!
The JSON document and the digest of a decision.

Owns the document with its fields in order, the digest, a process in which several
engines draw decision ids from one allocator, and when two engines fed the same sequence
return the same documents. The id of a decision is the first field of its document, so
the documents are equal only where the ids are.
-/

set_option autoImplicit false

namespace PowerGovernor

namespace Decision

/-- The document up to the id of the decision. -/
def documentHead (d : Decision) : JsonWriter :=
  JsonWriter.blank.beginObject
    |>.rawKey (ascii "id") |>.rawValue (quoted (decimal d.id.raw.toNat))

/-- The other fields but for the reasons. -/
def documentBody (w : JsonWriter) (d : Decision) : JsonWriter :=
  w |>.rawKey (ascii "generation") |>.rawValue (decimal d.generation.raw.toNat)
    |>.rawKey (ascii "verdict") |>.rawValue (quoted (ascii d.verdict.name))
    |>.rawKey (ascii "effective_state") |>.rawValue (quoted (ascii d.effectiveState.name))
    |>.rawKey (ascii "recommended_limit_w")
    |>.rawValue (match d.recommendedLimit with
      | some limit => ascii (toStringDouble limit.value)
      | none => ascii "null")
    |>.rawKey (ascii "binding_kind") |>.rawValue (quoted (ascii d.explanation.bindingKind.name))
    |>.rawKey (ascii "telemetry_current")
    |>.rawValue (ascii (if d.explanation.telemetryCurrent then "true" else "false"))
    |>.rawKey (ascii "telemetry_freshness")
    |>.rawValue (quoted (ascii d.explanation.telemetryFreshness.name))
    |>.rawKey (ascii "thermal_state") |>.rawValue (quoted (ascii d.explanation.thermalState.name))
    |>.rawKey (ascii "power_class") |>.rawValue (quoted (ascii d.explanation.powerClass.name))
    |>.rawKey (ascii "burst_available")
    |>.rawValue (ascii (if d.explanation.burstAvailable then "true" else "false"))
    |>.rawKey (ascii "evidence") |>.rawValue (quoted (ascii d.explanation.evidence.name))
    |>.rawKey (ascii "why") |>.rawValue (quoted (jsonEscape (ascii d.explanation.why)))
    |>.rawKey (ascii "what_would_change")
    |>.rawValue (quoted (jsonEscape (ascii d.explanation.whatWouldChange)))

/-- `build_json`. -/
def json (d : Decision) : Bytes :=
  let w := (documentBody d.documentHead d).rawKey (ascii "reasons") |>.beginArray
  let w := (d.reasons.map ascii).foldl JsonWriter.value w
  w.endArray.endObject.buf

/-- The digest of the document. -/
def digest (d : Decision) : Bytes := digestHex d.json

/-! ## The id in the document -/

theorem documentHead_prefix (d : Decision) : d.documentHead.buf <+: d.json := by
  unfold json documentBody
  refine List.IsPrefix.trans ?_ (JsonWriter.buf_endObject _)
  refine List.IsPrefix.trans ?_ (JsonWriter.buf_endArray _)
  refine List.IsPrefix.trans ?_ (JsonWriter.buf_values _ _)
  refine List.IsPrefix.trans ?_ (JsonWriter.buf_beginArray _)
  refine List.IsPrefix.trans ?_ (JsonWriter.buf_rawKey _ _)
  iterate 13 refine List.IsPrefix.trans ?_ (JsonWriter.buf_member _ _ _)
  exact List.prefix_rfl

/-- What stands before the id. -/
def idKey : Bytes := 123 :: quoted (jsonEscape (ascii "id")) ++ [58, 34]

theorem documentHead_buf (d : Decision) :
    d.documentHead.buf = idKey ++ (decimal d.id.raw.toNat ++ [34]) := by
  unfold documentHead idKey
  simp [JsonWriter.beginObject, JsonWriter.opened, JsonWriter.blank, JsonWriter.rawKey,
    JsonWriter.rawValue, JsonWriter.separate, JsonWriter.appendString, JsonWriter.append, quoted]

/-- Equal documents are of one id. -/
theorem id_eq_of_json_eq {left right : Decision} (same : left.json = right.json) :
    left.id = right.id := by
  obtain ⟨leftRest, leftJson⟩ := left.documentHead_prefix
  obtain ⟨rightRest, rightJson⟩ := right.documentHead_prefix
  rw [← leftJson, ← rightJson, documentHead_buf, documentHead_buf, List.append_assoc idKey,
    List.append_assoc idKey, List.append_cancel_left_eq, List.append_assoc (decimal _),
    List.append_assoc (decimal _)] at same
  have number := UInt64.toNat_inj.mp (decimal_eq_of_quoted same)
  calc left.id = ⟨left.id.raw⟩ := rfl
    _ = ⟨right.id.raw⟩ := congrArg StrongId.mk number
    _ = right.id := rfl

/-- What a user keeps of a decision as its stable text. -/
def document (d : Decision) : Bytes × Bytes := (d.json, d.digest)

end Decision

/-! ## The documents of one engine -/

namespace DecisionEngine

/-- The decision an engine makes under a given id. -/
def numbered (engine : DecisionEngine) (call : Evaluation) (outcome : Outcome) (id : UInt64) :
    Decision :=
  (engine.makeVerdict { Allocators.start with decision := id } call.input call.now outcome).1

/-- The documents of a sequence of evaluations, one for each, with the ids drawn for the
decisions; an evaluation that throws returns none. -/
def documents (engine : DecisionEngine) :
    List Evaluation → List UInt64 → List (Option (Bytes × Bytes))
  | [], _ => []
  | call :: rest, ids =>
    match engine.resolve call.input call.now, ids with
    | .ok outcome, id :: ids =>
      some (engine.numbered call outcome id).document :: (engine.advanced call).documents rest ids
    | .ok _, [] => []
    | .error _, ids => none :: (engine.advanced call).documents rest ids

variable {engine : DecisionEngine}

/-- Of as many ids as decisions, each is in the documents. -/
theorem documents_injective {calls : List Evaluation} {left right : List UInt64}
    (leftLength : left.length = engine.answered calls)
    (rightLength : right.length = engine.answered calls)
    (same : engine.documents calls left = engine.documents calls right) : left = right := by
  induction calls generalizing engine left right with
  | nil =>
      rw [List.length_eq_zero_iff.mp leftLength, List.length_eq_zero_iff.mp rightLength]
  | cons call rest inductionHypothesis =>
      unfold documents at same
      unfold answered at leftLength rightLength
      cases resolved : engine.resolve call.input call.now with
      | error fault =>
          have throws : engine.answers call.input call.now = false := by
            rw [← Bool.not_eq_true, ← resolve_returns_iff, resolved]
            rintro ⟨_, other⟩
            cases other
          rw [resolved] at same
          rw [throws, if_neg Bool.false_ne_true, zero_add] at leftLength rightLength
          exact inductionHypothesis leftLength rightLength (List.cons.inj same).2
      | ok outcome =>
          have answers := resolve_returns_iff.mp ⟨outcome, resolved⟩
          rw [resolved] at same
          rw [answers, if_pos rfl, add_comm] at leftLength rightLength
          obtain ⟨id, left, rfl⟩ := List.exists_cons_of_length_eq_add_one leftLength
          obtain ⟨id', right, rfl⟩ := List.exists_cons_of_length_eq_add_one rightLength
          obtain ⟨first, others⟩ := List.cons.inj same
          have ids := Decision.id_eq_of_json_eq (congrArg Prod.fst (Option.some.inj first))
          obtain rfl : id = id' := congrArg StrongId.raw ids
          rw [inductionHypothesis (Nat.succ.inj leftLength) (Nat.succ.inj rightLength) others]

end DecisionEngine

/-! ## A process -/

/-- The engines of a process, by name, and the allocator they draw decision ids from. -/
structure Process (Name : Type) where
  engines : Name → DecisionEngine
  ids : Allocators

namespace Process

variable {Name : Type} [DecidableEq Name]

/-- One evaluation by one of the engines. -/
def perform (p : Process Name) (work : Name × Evaluation) : Except Fault Decision × Process Name :=
  let (result, engine, ids) := EngineState.perform (p.engines work.1, p.ids) work.2
  (result, ⟨Function.update p.engines work.1 engine, ids⟩)

/-- The sequence of evaluations that one engine is fed. -/
def fed (name : Name) (work : List (Name × Evaluation)) : List Evaluation :=
  work.filterMap fun item => if item.1 = name then some item.2 else none

/-- The documents that one engine returns. -/
def documents (name : Name) (p : Process Name) :
    List (Name × Evaluation) → List (Option (Bytes × Bytes))
  | [] => []
  | item :: rest =>
    if item.1 = name then
      (p.perform item).1.toOption.map Decision.document :: documents name (p.perform item).2 rest
    else documents name (p.perform item).2 rest

/-- The ids drawn for the decisions, each where the allocator stands before it, with the
engine that draws it. -/
def draws (p : Process Name) : List (Name × Evaluation) → List (Name × UInt64)
  | [] => []
  | item :: rest =>
    if (p.engines item.1).answers item.2.input item.2.now then
      (item.1, p.ids.decision) :: draws (p.perform item).2 rest
    else draws (p.perform item).2 rest

/-- The ids that one engine draws. -/
def drawnBy (name : Name) (p : Process Name) (work : List (Name × Evaluation)) : List UInt64 :=
  ((p.draws work).filter fun drawn => drawn.1 = name).map Prod.snd

variable {p : Process Name}

theorem fed_cons_self (name : Name) (call : Evaluation) (rest : List (Name × Evaluation)) :
    fed name ((name, call) :: rest) = call :: fed name rest := by
  simp [fed]

theorem fed_cons_other {name other : Name} (different : other ≠ name) (call : Evaluation)
    (rest : List (Name × Evaluation)) : fed name ((other, call) :: rest) = fed name rest := by
  simp [fed, different]

theorem drawnBy_cons (name : Name) (p : Process Name) (item : Name × Evaluation)
    (rest : List (Name × Evaluation)) :
    drawnBy name p (item :: rest) =
      if item.1 = name ∧ (p.engines item.1).answers item.2.input item.2.now = true then
        p.ids.decision :: drawnBy name (p.perform item).2 rest
      else drawnBy name (p.perform item).2 rest := by
  simp only [drawnBy, draws]
  cases (p.engines item.1).answers item.2.input item.2.now with
  | false => simp
  | true => by_cases same : item.1 = name <;> simp [same]

/-- An evaluation leaves the other engines alone and advances its own. -/
theorem engines_perform (p : Process Name) (name : Name) (item : Name × Evaluation) :
    (p.perform item).2.engines name =
      if item.1 = name then (p.engines name).advanced item.2 else p.engines name := by
  show Function.update p.engines item.1
    (EngineState.perform (p.engines item.1, p.ids) item.2).2.1 name = _
  rw [EngineState.engine_perform]
  by_cases same : item.1 = name
  · rw [if_pos same, same, Function.update_self]
  · rw [if_neg same, Function.update_of_ne (Ne.symm same)]

/-- What an engine returns is decided by what it is fed and the ids it draws. -/
theorem documents_eq (name : Name) (p : Process Name) (work : List (Name × Evaluation)) :
    documents name p work =
      (p.engines name).documents (fed name work) (drawnBy name p work) := by
  induction work generalizing p with
  | nil => rfl
  | cons item rest inductionHypothesis =>
      obtain ⟨other, call⟩ := item
      have engine := p.engines_perform name (other, call)
      rw [drawnBy_cons, documents]
      by_cases same : other = name
      · subst same
        rw [if_pos rfl] at engine
        rw [fed_cons_self, if_pos rfl, inductionHypothesis, engine]
        rcases EngineState.perform_cases (p.engines other, p.ids) call with
          ⟨throws, _, fault, resolved, thrown⟩ | ⟨answers, outcome, resolved, _, returned⟩
        · rw [if_neg (by simp [throws])]
          simp only at resolved
          simp only [DecisionEngine.documents, resolved, perform, thrown]
          rfl
        · rw [if_pos ⟨rfl, answers⟩]
          simp only at resolved
          simp only [DecisionEngine.documents, resolved, perform, returned]
          rfl
      · rw [if_neg same] at engine
        rw [fed_cons_other same, if_neg same, if_neg fun both => same both.1, inductionHypothesis,
          engine]

theorem length_drawnBy (name : Name) (p : Process Name) (work : List (Name × Evaluation)) :
    (drawnBy name p work).length = (p.engines name).answered (fed name work) := by
  induction work generalizing p with
  | nil => rfl
  | cons item rest inductionHypothesis =>
      obtain ⟨other, call⟩ := item
      have engine := p.engines_perform name (other, call)
      rw [drawnBy_cons]
      by_cases same : other = name
      · subst same
        rw [if_pos rfl] at engine
        rw [fed_cons_self]
        unfold DecisionEngine.answered
        rw [← engine, ← inductionHypothesis]
        cases answers : (p.engines other).answers call.input call.now with
        | false => simp
        | true => simp [add_comm]
      · rw [if_neg same] at engine
        rw [fed_cons_other same, if_neg fun both => same both.1, inductionHypothesis, engine]

/-! ## Two engines in one process -/

theorem ids_perform (p : Process Name) (item : Name × Evaluation) :
    (p.perform item).2.ids.decision =
      if (p.engines item.1).answers item.2.input item.2.now then p.ids.decision + 1
      else p.ids.decision := by
  rcases EngineState.perform_cases (p.engines item.1, p.ids) item.2 with
    ⟨throws, _, fault, _, thrown⟩ | ⟨answers, outcome, _, _, returned⟩
  · simp only at throws
    simp only [perform, thrown, throws, Bool.false_eq_true, if_false]
  · simp only at answers
    simp only [perform, returned, answers, if_true]
    rfl

/-- The ids are drawn in turn from where the allocator stands. -/
theorem ids_draws (p : Process Name) (work : List (Name × Evaluation)) :
    (p.draws work).map Prod.snd =
      (List.range (p.draws work).length).map fun k => p.ids.decision + UInt64.ofNat k := by
  induction work generalizing p with
  | nil => rfl
  | cons item rest inductionHypothesis =>
      have ids := p.ids_perform item
      simp only [draws]
      cases answers : (p.engines item.1).answers item.2.input item.2.now with
      | false =>
          rw [answers, if_neg Bool.false_ne_true] at ids
          rw [if_neg Bool.false_ne_true, inductionHypothesis, ids]
      | true =>
          rw [answers, if_pos rfl] at ids
          rw [if_pos rfl, List.map_cons, List.length_cons, List.range_succ_eq_map, List.map_cons,
            List.map_map, inductionHypothesis, ids]
          congr 1
          · simp
          · refine List.map_congr_left fun k _ => ?_
            rw [Function.comp_apply, Nat.succ_eq_add_one, Nat.add_comm, UInt64.ofNat_add,
              ← UInt64.add_assoc]
            rfl

theorem length_draws_le (p : Process Name) (work : List (Name × Evaluation)) :
    (p.draws work).length ≤ work.length := by
  induction work generalizing p with
  | nil => exact Nat.le_refl 0
  | cons item rest inductionHypothesis =>
      have shorter := inductionHypothesis (p.perform item).2
      simp only [draws, List.length_cons]
      split
      · exact Nat.succ_le_succ shorter
      · exact shorter.trans (Nat.le_succ _)

/-- Before the allocator comes round, no id is drawn twice. -/
theorem nodup_draws (p : Process Name) {work : List (Name × Evaluation)}
    (short : work.length ≤ 2 ^ 64) : ((p.draws work).map Prod.snd).Nodup := by
  rw [ids_draws]
  have bound := (p.length_draws_le work).trans short
  refine List.Nodup.map_on (fun j before k before' same => ?_) List.nodup_range
  have before := List.mem_range.mp before
  have before' := List.mem_range.mp before'
  have equal := congrArg UInt64.toNat ((UInt64.add_right_inj _).mp same)
  rw [UInt64.toNat_ofNat', UInt64.toNat_ofNat', Nat.mod_eq_of_lt (by omega),
    Nat.mod_eq_of_lt (by omega)] at equal
  exact equal

theorem mem_drawnBy {name : Name} {work : List (Name × Evaluation)} {id : UInt64} :
    id ∈ drawnBy name p work ↔ (name, id) ∈ p.draws work := by
  simp [drawnBy]

/-- A new engine has no verdict to hold, so its first evaluation draws an id. -/
theorem exists_mem_drawnBy {name : Name} {gen : DecisionGeneration}
    (fresh : p.engines name = .construct gen) {work : List (Name × Evaluation)} {call : Evaluation}
    {rest : List Evaluation} (sequence : fed name work = call :: rest) :
    ∃ id, id ∈ drawnBy name p work := by
  have answers : (DecisionEngine.construct gen).answers call.input call.now = true := by
    unfold DecisionEngine.answers
    cases call.input.stages <;> rfl
  have drawn := length_drawnBy name p work
  rw [sequence, fresh, DecisionEngine.answered, answers, if_pos rfl] at drawn
  exact List.exists_mem_of_length_pos (by omega)

/-- Two new engines fed the same sequence return the same documents exactly where they draw
the same ids; and unless the allocator comes round in between, only where they are fed
nothing. -/
theorem digests_stable_iff {first second : Name} (different : first ≠ second)
    (gen : DecisionGeneration) (p : Process Name) (firstNew : p.engines first = .construct gen)
    (secondNew : p.engines second = .construct gen) (work : List (Name × Evaluation))
    (alike : fed first work = fed second work) :
    (documents first p work = documents second p work ↔
      drawnBy first p work = drawnBy second p work) ∧
    (work.length ≤ 2 ^ 64 →
      (documents first p work = documents second p work ↔ fed first work = [])) := by
  have documented : documents first p work = documents second p work ↔
      drawnBy first p work = drawnBy second p work := by
    have firstLength := length_drawnBy first p work
    have secondLength := length_drawnBy second p work
    rw [firstNew] at firstLength
    rw [secondNew, ← alike] at secondLength
    rw [documents_eq, documents_eq, firstNew, secondNew, ← alike]
    exact ⟨DecisionEngine.documents_injective firstLength secondLength, fun same => by rw [same]⟩
  refine ⟨documented, fun short => ?_⟩
  rw [documented]
  cases sequence : fed first work with
  | nil =>
      have none := length_drawnBy first p work
      have none' := length_drawnBy second p work
      rw [sequence] at none
      rw [← alike, sequence] at none'
      simp [List.length_eq_zero_iff.mp none, List.length_eq_zero_iff.mp none']
  | cons call rest =>
      refine iff_of_false (fun same => ?_) (List.cons_ne_nil call rest)
      obtain ⟨id, drawn⟩ := exists_mem_drawnBy firstNew sequence
      have drawn' := mem_drawnBy.mp (same ▸ drawn)
      have once := List.inj_on_of_nodup_map (p.nodup_draws short) (mem_drawnBy.mp drawn) drawn' rfl
      exact different (congrArg Prod.fst once)

/-- The default engines of a process with two of them. -/
def twoEngines : Process Bool := ⟨fun _ => .construct .first, .start⟩

/-- Each is fed one idle evaluation at time zero. -/
def idleWork : List (Bool × Evaluation) :=
  [(true, ⟨idleInput, Timestamp.zero⟩), (false, ⟨idleInput, Timestamp.zero⟩)]

theorem digests_stable_iff_idle :
    (documents true twoEngines idleWork = documents false twoEngines idleWork ↔
      drawnBy true twoEngines idleWork = drawnBy false twoEngines idleWork) ∧
    (idleWork.length ≤ 2 ^ 64 →
      (documents true twoEngines idleWork = documents false twoEngines idleWork ↔
        fed true idleWork = [])) :=
  digests_stable_iff (by decide) .first twoEngines rfl rfl idleWork rfl

/-- Two new engines fed the same evaluation return different documents. -/
theorem documents_differ : fed true idleWork = fed false idleWork ∧
    documents true twoEngines idleWork ≠ documents false twoEngines idleWork := by
  refine ⟨rfl, fun same => ?_⟩
  have texts := congrArg Prod.fst (Option.some.inj (List.cons.inj same).1)
  have ids := Decision.id_eq_of_json_eq texts
  exact absurd (congrArg StrongId.raw ids) (by decide)

end Process

end PowerGovernor
