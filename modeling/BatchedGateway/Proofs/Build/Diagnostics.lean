/- The warnings of a build: no operation is left out of the tables without one. -/
import BatchedGateway.Proofs.Build.Failure

namespace BatchedGateway.Build
open Outcome

/-- The name of the field that serves an operation. -/
def fieldFor (c : Config) (op : IndexedOperation) : String := FieldNames.fieldOf c.fieldNames op.id

/-- The field of an operation has a name, but one that the schema does not know. -/
def unknown (c : Config) (schema : SchemaIndex) (op : IndexedOperation) : Bool :=
  !Text.blank (fieldFor c op) && !schema.hasQuery (fieldFor c op) &&
    !schema.hasMutation (fieldFor c op)

def unknownField (c : Config) (op : IndexedOperation) : Diagnostic :=
  .warning op.id ("field '" ++ fieldFor c op ++ "' not found in schema; defaulting to Query")

/-- What is said of an operation that is in no table. -/
def unroutedFor (c : Config) (schema : SchemaIndex) (op : IndexedOperation) : Diagnostic :=
  let described := describe schema c.fieldNames op
  if Text.blank (fieldFor c op) then Planner.blankField described
  else Planner.noTemplates described

/-- How many warnings name an operation. -/
def mentions (diagnostics : List Diagnostic) (op : IndexedOperation) : Nat :=
  diagnostics.countP fun d => d.operation = some op.id

/-- Each operation of a description is routed or named as one that is not. -/
structure Accounted (c : Config) (inputs : Inputs) (ops unrouted : List IndexedOperation)
    (m : Manifest) : Prop where
  unrouted_eq : unrouted = ops.filter fun op => (m.tables.batchFor op.id).isNone
  unrouted_iff : ∀ op ∈ ops, m.tables.batchFor op.id = none ↔
    Text.blank (fieldFor c op) = true ∨ inputs.templates.get? op.id = none
  diagnostics : m.diagnostics = (ops.filter (unknown c inputs.schema)).map (unknownField c) ++
    unrouted.map (unroutedFor c inputs.schema)
  warnings : ∀ d ∈ m.diagnostics, d.isWarning = true
  operationCount : m.operationCount = m.tables.operations.size + unrouted.length
  unroutedCount : m.unrouted = unrouted.length
  warningCount : m.warningCount =
    (ops.filter (unknown c inputs.schema)).length + unrouted.length
  blank : ∀ op ∈ ops, Text.blank (fieldFor c op) = true → mentions m.diagnostics op = 1
  routed : ∀ op ∈ ops, m.tables.batchFor op.id ≠ none → mentions m.diagnostics op ≤ 1

section Warnings

variable {c : Config} {inputs : Inputs} {schema : SchemaIndex} {ops : List IndexedOperation}
  {op : IndexedOperation}

theorem diagnostic_classify (c : Config) (schema : SchemaIndex) (op : IndexedOperation) :
    (classify schema c.fieldNames op.id).diagnostic =
      if unknown c schema op then some (unknownField c op) else none := by
  rw [unknown, fieldFor, classify]
  by_cases hquery : schema.hasQuery (FieldNames.fieldOf c.fieldNames op.id) = true
  · simp [hquery]
  · by_cases hmutation : schema.hasMutation (FieldNames.fieldOf c.fieldNames op.id) = true
    · simp [hquery, hmutation]
    · cases hblank : Text.blank (FieldNames.fieldOf c.fieldNames op.id) with
      | true => simp [hquery, hmutation]
      | false => simp [hquery, hmutation, unknownField, fieldFor]

theorem warnings_classifyAll (c : Config) (schema : SchemaIndex) (ops : List IndexedOperation) :
    (classifyAll schema c.fieldNames ops).2 =
      (ops.filter (unknown c schema)).map (unknownField c) := by
  rw [← List.filterMap_eq_map, List.filterMap_filter, classifyAll]
  simp only [diagnostic_classify, Function.comp_apply]

theorem skipped_describe (c : Config) (inputs : Inputs) (isDirectory : String → Bool)
    (op : IndexedOperation) :
    (plannerOf c inputs isDirectory).skipped (describe inputs.schema c.fieldNames op) =
      if Text.blank (fieldFor c op) ∨ inputs.templates.get? op.id = none then
        some (unroutedFor c inputs.schema op)
      else none := by
  have hid : (describe inputs.schema c.fieldNames op).id = op.id := rfl
  rw [Planner.skipped, hasField_describe, hid, unroutedFor, ← fieldFor]
  cases hblank : Text.blank (fieldFor c op) with
  | true => simp
  | false => cases htemplates : inputs.templates.get? op.id <;> simp [plannerOf, htemplates]

theorem mentions_append (first second : List Diagnostic) (op : IndexedOperation) :
    mentions (first ++ second) op = mentions first op + mentions second op :=
  List.countP_append

theorem operation_unroutedFor (c : Config) (schema : SchemaIndex) (op : IndexedOperation) :
    (unroutedFor c schema op).operation = some op.id := by
  rw [unroutedFor]
  split <;> rfl

theorem isWarning_unroutedFor (c : Config) (schema : SchemaIndex) (op : IndexedOperation) :
    (unroutedFor c schema op).isWarning = true := by
  rw [unroutedFor]
  split <;> rfl

/-- Warnings that name their operations mention each of them once. -/
theorem mentions_map_filter (hdistinct : DistinctIds ops) (hop : op ∈ ops)
    (q : IndexedOperation → Bool) {warn : IndexedOperation → Diagnostic}
    (hwarn : ∀ op, (warn op).operation = some op.id) :
    mentions ((ops.filter q).map warn) op = if q op then 1 else 0 := by
  -- of the operations of this id there is but the one itself
  have hsame : (ops.filter q).filter (fun other => other.id = op.id) = [op].filter q := by
    rw [← hdistinct.filter_eq hop, List.filter_filter, List.filter_filter]
    simp only [Bool.and_comm]
  rw [mentions, List.countP_map]
  simp only [Function.comp_def, hwarn, Option.some.injEq]
  rw [List.countP_eq_length_filter, hsame]
  cases hq : q op <;> simp [hq]

end Warnings

section Builds

variable {z : Archive.Compressor} {c : Config} {inputs : Inputs} {isDirectory : String → Bool}
  {provision : Provisioner} {m : Manifest} {s : Progress} {ops : List IndexedOperation}
  {batches : List (Batch Operation)}

theorem routable_iff {op : IndexedOperation} : Routable c inputs op.id ↔
    ¬ (Text.blank (fieldFor c op) = true ∨ inputs.templates.get? op.id = none) := by
  constructor
  · rintro ⟨hfield, htemplates⟩ (hblank | hnone)
    · cases hfield.symm.trans hblank
    · rw [hnone] at htemplates
      cases htemplates
  · intro h
    obtain ⟨hblank, hsome⟩ := not_or.mp h
    exact ⟨(Bool.not_eq_true _).mp hblank, Option.isSome_iff_ne_none.mpr hsome⟩

namespace Stages

/-- An operation is in no table for want of a field or of templates. -/
theorem batchFor_eq_none_iff (r : Stages z c inputs isDirectory provision ops batches m s)
    {op : IndexedOperation} (hop : op ∈ ops) : m.tables.batchFor op.id = none ↔
      Text.blank (fieldFor c op) = true ∨ inputs.templates.get? op.id = none := by
  constructor
  · intro hnone
    refine Classical.byContradiction fun hserved => ?_
    obtain ⟨i, hi⟩ := List.mem_iff_getElem?.mp hop
    have hrouted := (r.batchFor_iff op.id (i / c.maxResources)).mpr
      ⟨i, op, hi, rfl, rfl, routable_iff.mpr hserved⟩
    cases hnone.symm.trans hrouted
  · intro hlost
    refine Option.eq_none_iff_forall_ne_some.mpr fun b hb => ?_
    obtain ⟨-, -, -, -, -, hroutable⟩ := (r.batchFor_iff op.id b).mp hb
    exact routable_iff.mp hroutable hlost

/-- What is skipped when surfaces are laid out is what is in no table in the end. -/
theorem filterMap_skipped (r : Stages z c inputs isDirectory provision ops batches m s) :
    (batches.flatMap (·.operations)).filterMap (plannerOf c inputs isDirectory).skipped =
      (ops.filter fun op => (m.tables.batchFor op.id).isNone).map
        (unroutedFor c inputs.schema) := by
  have hsame : ∀ op ∈ ops, (m.tables.batchFor op.id).isNone =
      decide (Text.blank (fieldFor c op) = true ∨ inputs.templates.get? op.id = none) := by
    intro op hop
    rw [Bool.eq_iff_iff, decide_eq_true_iff, Option.isNone_iff_eq_none, r.batchFor_eq_none_iff hop]
  rw [flatMap_operations_partition r.cut, List.filterMap_map, List.filter_congr hsame,
    ← List.filterMap_eq_map, List.filterMap_filter]
  simp only [Function.comp_def, skipped_describe, decide_eq_true_eq]

theorem diagnostics_eq (r : Stages z c inputs isDirectory provision ops batches m s) :
    m.diagnostics = (ops.filter (unknown c inputs.schema)).map (unknownField c) ++
      (ops.filter fun op => (m.tables.batchFor op.id).isNone).map
        (unroutedFor c inputs.schema) := by
  rw [← r.filterMap_skipped, ← warnings_classifyAll, ← r.built.diagnostics_eq, r.diagnostics]

/-- Every operation is entered once or skipped. -/
theorem operationCount_eq_add (r : Stages z c inputs isDirectory provision ops batches m s) :
    m.operationCount = m.tables.operations.size +
      (ops.filter fun op => (m.tables.batchFor op.id).isNone).length := by
  have hskipped := congrArg List.length r.filterMap_skipped
  have hrouted := r.built.size_operations
  have hall := Planner.length_routedIds_add (p := plannerOf c inputs isDirectory)
    (batches.flatMap (·.operations))
  have hops := congrArg List.length (flatMap_operations_partition r.cut)
  have hempty : ({ diagnostics := (classifyAll inputs.schema c.fieldNames ops).2 } :
      Progress).tables.operations.size = 0 := rfl
  have hcount := r.operationCount_eq
  rw [List.length_map] at hskipped hops
  rw [hempty, ← r.tables] at hrouted
  omega

/-- Every operation of a build that succeeds is accounted for. -/
theorem accounted (r : Stages z c inputs isDirectory provision ops batches m s) :
    Accounted c inputs ops (ops.filter fun op => (m.tables.batchFor op.id).isNone) m := by
  have hdistinct := distinctIds_indexOperations r.indexed
  have hwarnings : ∀ d ∈ m.diagnostics, d.isWarning = true := by
    intro d hd
    rw [r.diagnostics_eq] at hd
    rcases List.mem_append.mp hd with hd | hd
    · obtain ⟨op, -, rfl⟩ := List.mem_map.mp hd
      rfl
    · obtain ⟨op, -, rfl⟩ := List.mem_map.mp hd
      exact isWarning_unroutedFor c inputs.schema op
  have hmentions : ∀ op ∈ ops, mentions m.diagnostics op =
      (if unknown c inputs.schema op then 1 else 0) +
        (if (m.tables.batchFor op.id).isNone then 1 else 0) := by
    intro op hop
    rw [r.diagnostics_eq, mentions_append, mentions_map_filter hdistinct hop _ fun _ => rfl,
      mentions_map_filter hdistinct hop _ (operation_unroutedFor c inputs.schema)]
  exact {
    unrouted_eq := rfl
    unrouted_iff := fun op hop => r.batchFor_eq_none_iff hop
    diagnostics := r.diagnostics_eq
    warnings := hwarnings
    operationCount := r.operationCount_eq_add
    unroutedCount := by
      rw [Manifest.unrouted, r.operationCount_eq_add, Nat.add_sub_cancel_left]
    warningCount := by
      rw [Manifest.warningCount, List.countP_eq_length.mpr hwarnings, r.diagnostics_eq,
        List.length_append, List.length_map, List.length_map]
    blank := fun op hop hblank => by
      have hnone := (r.batchFor_eq_none_iff hop).mpr (.inl hblank)
      simp [hmentions op hop, unknown, hblank, hnone]
    routed := fun op hop hbatch => by
      rw [hmentions op hop, if_neg (mt Option.isNone_iff_eq_none.mp hbatch)]
      split <;> decide }

end Stages

/-- The warnings of a build name the operations whose fields the schema does not know, and then
those that are in no table, each once and in the order of the description. -/
theorem run_accounted (h : run z c inputs isDirectory provision = (.ok m, s)) :
    ∃ ops unrouted, indexOperations inputs.description = .ok ops ∧
      Accounted c inputs ops unrouted m := by
  obtain ⟨ops, batches, stages⟩ := run_eq_ok h
  exact ⟨ops, _, stages.indexed, stages.accounted⟩

/-- The field of the first of two operations has no name. -/
def blankFirst : Config where
  maxResources := 1
  fieldNames := SortedMap.ofList [("a", " ")]

/-- The operation without a field is in no table, and one warning says so. -/
theorem run_accounted_blankFirst :
    ∃ m s, run .fixedCode blankFirst oneTemplate (fun _ => false)
        (fun _ _ => .ok "fn://h") = (.ok m, s) ∧
      m.tables.batchFor "a" = none ∧ mentions m.diagnostics ⟨"/a", .get, "a"⟩ = 1 := by
  obtain ⟨m, h⟩ := exists_eq_ok (x := run .fixedCode blankFirst oneTemplate (fun _ => false)
    fun _ _ => .ok "fn://h") (by decide +kernel)
  obtain ⟨ops, unrouted, hops, hall⟩ := run_accounted h
  have htwo : indexOperations oneTemplate.description =
      .ok [⟨"/a", .get, "a"⟩, ⟨"/b", .get, "get b"⟩] := rfl
  cases hops.symm.trans htwo
  have hblank : Text.blank (fieldFor blankFirst ⟨"/a", .get, "a"⟩) = true := by decide +kernel
  exact ⟨m, _, h, (hall.unrouted_iff _ List.mem_cons_self).mpr (.inl hblank),
    hall.blank _ List.mem_cons_self hblank⟩

end Builds

end BatchedGateway.Build
