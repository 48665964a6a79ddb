/- A build that succeeds: the stages it went through, and a closed form of its tables. -/
import BatchedGateway.Build.Pipeline
import BatchedGateway.Proofs.Archive.Gzip
import BatchedGateway.Proofs.Operation.Partition
import BatchedGateway.Proofs.Surface.Materialize

namespace BatchedGateway

namespace FieldNames

/-- The field of an operation is the name that is given for its id, else the id. -/
theorem fieldOf_eq_iff {names : FieldNames} {id field : String} : names.fieldOf id = field ↔
    names.get? id = some field ∨ names.get? id = none ∧ id = field := by
  rw [fieldOf]
  cases names.get? id with
  | none => simp
  | some given => simp

/-- To give a name changes the field of one operation. -/
theorem fieldOf_insert (names : FieldNames) (id field other : String) :
    fieldOf (names.insert id field) other = if other = id then field else names.fieldOf other := by
  rw [fieldOf, SortedMap.get?_insert]
  split
  · rfl
  · rfl

example : fieldOf (SortedMap.ofList [("get b", "b")]) "get b" = "b" := by decide

end FieldNames

theorem classify_field (schema : SchemaIndex) (names : FieldNames) (id : String) :
    (classify schema names id).field = names.fieldOf id := by
  simp only [classify]
  repeat' split
  all_goals rfl

theorem hasField_describe (schema : SchemaIndex) (names : FieldNames) (op : IndexedOperation) :
    (describe schema names op).hasField = !Text.blank (names.fieldOf op.id) := by
  rw [Operation.hasField, describe, classify_field]

namespace Build
open Outcome

/-- An id can be routed: its field has a name, and there are templates for it. -/
structure Routable (c : Config) (inputs : Inputs) (id : String) : Prop where
  field : Text.blank (FieldNames.fieldOf c.fieldNames id) = false
  templates : (inputs.templates.get? id).isSome = true

/-- An id stands, as one that can be routed, at a position that falls to a batch. -/
def RoutedIn (c : Config) (inputs : Inputs) (ops : List IndexedOperation) (id : String)
    (batch : Nat) : Prop :=
  ∃ i op, ops[i]? = some op ∧ op.id = id ∧ i / c.maxResources = batch ∧ Routable c inputs id

/-- A call for the surface of a batch was answered with a URL. -/
def Answered (provision : Provisioner) (calls : List Surface) (batch : Nat) (url : String) : Prop :=
  ∃ n surface, calls[n]? = some surface ∧ surface.index = batch ∧ provision n surface = .ok url

/-- The stages of a build that succeeds, each with what it gave. -/
structure Stages (z : Archive.Compressor) (c : Config) (inputs : Inputs)
    (isDirectory : String → Bool) (provision : Provisioner) (ops : List IndexedOperation)
    (batches : List (Batch Operation)) (m : Manifest) (s : Progress) : Prop where
  valid : c.validate = .ok ()
  indexed : indexOperations inputs.description = .ok ops
  cut : partition (ops.map (describe inputs.schema c.fieldNames)) c.maxResources = .ok batches
  built : MaterializedAll (plannerOf c inputs isDirectory) provision c.surfaceName batches
    { diagnostics := (classifyAll inputs.schema c.fieldNames ops).2 } m.batches s
  packed : Payload.encode z s.tables = .ok m.payload
  manifest : m = manifestOf c inputs.schema ops.length m.batches s m.payload

variable {z : Archive.Compressor} {c : Config} {inputs : Inputs} {isDirectory : String → Bool}
  {provision : Provisioner} {m : Manifest} {s : Progress}

theorem run_eq_ok (h : run z c inputs isDirectory provision = (.ok m, s)) :
    ∃ ops batches, Stages z c inputs isDirectory provision ops batches m s := by
  rw [run] at h
  split at h
  · cases h
  · rename_i ops batches warnings hstart
    -- what comes before the batches are built, in the order in which it can fail
    obtain ⟨_, hvalid, hstart⟩ := bind_eq_ok.mp hstart
    obtain ⟨ops', hops, hstart⟩ := bind_eq_ok.mp hstart
    obtain ⟨⟨batches', warnings'⟩, hbatches, hstart⟩ := bind_eq_ok.mp hstart
    cases hstart
    obtain ⟨cut, hcut, hbatches⟩ := bind_eq_ok.mp hbatches
    cases hbatches
    obtain ⟨hresult, rfl⟩ := Prod.mk.inj h
    obtain ⟨builts, hbuilts, hfinish⟩ := bind_eq_ok.mp hresult
    obtain ⟨payload, hpacked, rfl⟩ := map_eq_ok.mp hfinish
    exact ⟨ops, batches, mapError_eq_ok.mp hvalid, mapError_eq_ok.mp hops, mapError_eq_ok.mp hcut,
      materializeAll_eq_ok (Prod.ext hbuilts rfl), mapError_eq_ok.mp hpacked, rfl⟩

namespace Stages

variable {ops : List IndexedOperation} {batches : List (Batch Operation)}

theorem tables (r : Stages z c inputs isDirectory provision ops batches m s) :
    m.tables = s.tables := by
  rw [r.manifest]
  rfl

theorem operationCount_eq (r : Stages z c inputs isDirectory provision ops batches m s) :
    m.operationCount = ops.length := by
  rw [r.manifest]
  rfl

theorem diagnostics (r : Stages z c inputs isDirectory provision ops batches m s) :
    m.diagnostics = s.diagnostics := by
  rw [r.manifest]
  rfl

theorem routedIn_iff (r : Stages z c inputs isDirectory provision ops batches m s) {id : String}
    {b : Nat} : RoutedIn c inputs ops id b ↔ ∃ batch, batches[b]? = some batch ∧
      id ∈ (plannerOf c inputs isDirectory).routedIds batch.operations := by
  have hdescribed : ∀ i, (ops.map (describe inputs.schema c.fieldNames))[i]? =
      ops[i]?.map (describe inputs.schema c.fieldNames) := fun i => List.getElem?_map
  constructor
  · rintro ⟨i, op, hop, rfl, rfl, hfield, htemplates⟩
    have hlt : i / c.maxResources < batches.length := by
      rw [lt_length_partition r.cut, List.length_map]
      exact Nat.lt_of_le_of_lt (Nat.div_mul_le_self i _) (List.getElem?_eq_some_iff.mp hop).1
    have hbatch := List.getElem?_eq_getElem hlt
    refine ⟨_, hbatch, Planner.mem_routedIds.mpr
      ⟨describe inputs.schema c.fieldNames op, ?_, rfl, ?_, htemplates⟩⟩
    · rw [mem_partition_iff r.cut hbatch]
      exact ⟨i, by rw [hdescribed, hop]; rfl, rfl⟩
    · rw [hasField_describe, hfield]
      rfl
  · rintro ⟨batch, hbatch, hid⟩
    obtain ⟨described, hmem, rfl, hfield, htemplates⟩ := Planner.mem_routedIds.mp hid
    obtain ⟨i, hi, rfl⟩ := (mem_partition_iff r.cut hbatch described).mp hmem
    rw [hdescribed] at hi
    obtain ⟨op, hop, rfl⟩ := Option.map_eq_some_iff.mp hi
    rw [hasField_describe, Bool.not_eq_true'] at hfield
    exact ⟨i, op, hop, rfl, rfl, hfield, htemplates⟩

theorem getElem?_batches (r : Stages z c inputs isDirectory provision ops batches m s) (b : Nat) :
    m.batches[b]?.map (·.surface) = batches[b]?.map fun batch =>
      (plannerOf c inputs isDirectory).surfaceOf batch (c.surfaceName batch.index) := by
  rw [← List.getElem?_map, r.built.map_surface, List.getElem?_map]

theorem surface_eq (r : Stages z c inputs isDirectory provision ops batches m s) {b : Nat}
    {built : BuiltBatch} (hb : m.batches[b]? = some built) :
    ∃ batch, batches[b]? = some batch ∧ built.surface =
      (plannerOf c inputs isDirectory).surfaceOf batch (c.surfaceName batch.index) := by
  have hsurface := r.getElem?_batches b
  rw [hb, Option.map_some, eq_comm, Option.map_eq_some_iff] at hsurface
  obtain ⟨batch, hbatch, hsurface⟩ := hsurface
  exact ⟨batch, hbatch, hsurface.symm⟩

theorem length_batches (r : Stages z c inputs isDirectory provision ops batches m s) :
    m.batches.length = (ops.length + c.maxResources - 1) / c.maxResources := by
  have hlengths := congrArg List.length (r.built.map_surface)
  rw [List.length_map, List.length_map] at hlengths
  rw [hlengths, length_partition r.cut, List.length_map]

theorem index_eq (r : Stages z c inputs isDirectory provision ops batches m s) {b : Nat}
    {built : BuiltBatch} (hb : m.batches[b]? = some built) : built.surface.index = b := by
  obtain ⟨batch, hbatch, hsurface⟩ := r.surface_eq hb
  rw [hsurface]
  exact index_partition r.cut hbatch

theorem batchFor_iff (r : Stages z c inputs isDirectory provision ops batches m s) (id : String)
    (b : Nat) : m.tables.batchFor id = some b ↔ RoutedIn c inputs ops id b := by
  have hempty : ({ diagnostics := (classifyAll inputs.schema c.fieldNames ops).2 } :
      Progress).tables.batchFor id ≠ some b := nofun
  rw [r.tables, r.built.batchFor_iff, r.routedIn_iff, or_iff_right hempty]
  constructor
  · rintro ⟨batch, hmem, hindex, hid⟩
    exact ⟨batch, (getElem?_partition_iff r.cut).mpr ⟨hmem, hindex⟩, hid⟩
  · rintro ⟨batch, hbatch, hid⟩
    obtain ⟨hmem, hindex⟩ := (getElem?_partition_iff r.cut).mp hbatch
    exact ⟨batch, hmem, hindex, hid⟩

theorem endpointFor_eq (r : Stages z c inputs isDirectory provision ops batches m s) {b : Nat}
    {built : BuiltBatch} (hb : m.batches[b]? = some built) :
    m.tables.endpointFor b = built.baseUrl := by
  rw [r.tables, ← r.index_eq hb]
  exact r.built.endpointFor_eq (nodup_index_partition r.cut) (fun _ _ => rfl) built
    (List.mem_of_getElem? hb)

theorem calls_eq (r : Stages z c inputs isDirectory provision ops batches m s) :
    s.calls = (served m.batches).map (·.1) := r.built.calls_eq

theorem answers (r : Stages z c inputs isDirectory provision ops batches m s) {n : Nat}
    {e : Surface × String} (h : (served m.batches)[n]? = some e) : provision n e.1 = .ok e.2 := by
  have hanswer := r.built.answers n e h
  rwa [List.length_nil, Nat.zero_add] at hanswer

theorem endpointFor_eq_none (r : Stages z c inputs isDirectory provision ops batches m s) {b : Nat}
    (hb : m.batches[b]? = none) : m.tables.endpointFor b = none := by
  have hsurface := r.getElem?_batches b
  rw [hb, Option.map_none, eq_comm, Option.map_eq_none_iff] at hsurface
  rw [r.tables, r.built.endpointFor_of_ne fun batch hmem hindex => ?_]
  · rfl
  · rw [(getElem?_partition_iff r.cut).mpr ⟨hmem, hindex⟩] at hsurface
    cases hsurface

/-- The endpoint of a batch is what the call for its surface was answered with. -/
theorem endpointFor_iff (r : Stages z c inputs isDirectory provision ops batches m s) (b : Nat)
    (url : String) : m.tables.endpointFor b = some url ↔ Answered provision s.calls b url := by
  rw [Answered, r.calls_eq]
  constructor
  · intro h
    cases hb : m.batches[b]? with
    | none =>
        rw [r.endpointFor_eq_none hb] at h
        cases h
    | some built =>
        obtain ⟨surface, baseUrl⟩ := built
        rw [r.endpointFor_eq hb] at h
        cases h
        obtain ⟨n, hn⟩ := List.mem_iff_getElem?.mp (mem_served.mpr (List.mem_of_getElem? hb))
        refine ⟨n, surface, ?_, r.index_eq hb, r.answers hn⟩
        rw [List.getElem?_map, hn]
        rfl
  · rintro ⟨n, surface, hn, hindex, hanswer⟩
    rw [List.getElem?_map] at hn
    obtain ⟨⟨_, url'⟩, he, rfl⟩ := Option.map_eq_some_iff.mp hn
    have hurl := r.answers he
    rw [hanswer] at hurl
    cases hurl
    obtain ⟨k, hk⟩ := List.mem_iff_getElem?.mp (mem_served.mp (List.mem_of_getElem? he))
    have hkb : k = b := (r.index_eq hk).symm.trans hindex
    rw [← hkb, r.endpointFor_eq hk]

/-- A batch that has an endpoint has a route. -/
theorem routedIn_of_endpointFor (r : Stages z c inputs isDirectory provision ops batches m s)
    {b : Nat} {url : String} (h : m.tables.endpointFor b = some url) :
    ∃ id, RoutedIn c inputs ops id b := by
  cases hb : m.batches[b]? with
  | none =>
      rw [r.endpointFor_eq_none hb] at h
      cases h
  | some built =>
      rw [r.endpointFor_eq hb] at h
      have hserved : built.baseUrl.isSome = true := by rw [h]; rfl
      obtain ⟨batch, hbatch, hsurface⟩ := r.surface_eq hb
      have hids :=
        (r.built.isSome_baseUrl built (List.mem_of_getElem? hb)).mp hserved
      rw [hsurface, Planner.operations_surfaceOf] at hids
      obtain ⟨id, hid⟩ := List.exists_mem_of_ne_nil _ hids
      exact ⟨id, r.routedIn_iff.mpr ⟨batch, hbatch, hid⟩⟩

end Stages

/-- The tables of a build, read off its inputs and the answers it got. -/
theorem run_tables (h : run z c inputs isDirectory provision = (.ok m, s)) :
    ∃ ops, indexOperations inputs.description = .ok ops ∧
      (∀ id b, m.tables.batchFor id = some b ↔ RoutedIn c inputs ops id b) ∧
      (∀ b url, m.tables.endpointFor b = some url ↔
        (∃ id, RoutedIn c inputs ops id b) ∧ Answered provision s.calls b url) ∧
      m.batches.length = (ops.length + c.maxResources - 1) / c.maxResources ∧
      ∀ b built, m.batches[b]? = some built →
        built.surface.index = b ∧ built.baseUrl = m.tables.endpointFor b := by
  obtain ⟨ops, batches, r⟩ := run_eq_ok h
  refine ⟨ops, r.indexed, r.batchFor_iff, fun b url => ?_, r.length_batches, fun b built hb => ?_⟩
  · constructor
    · intro hurl
      exact ⟨r.routedIn_of_endpointFor hurl, (r.endpointFor_iff b url).mp hurl⟩
    · rintro ⟨-, hanswered⟩
      exact (r.endpointFor_iff b url).mpr hanswered
  · exact ⟨r.index_eq hb, (r.endpointFor_eq hb).symm⟩

/-- Two operations, of which only the second has templates. -/
def oneTemplate : Inputs where
  description := .obj [("paths", .obj [
    ("/a", .obj [("get", .obj [("operationId", .str "a")])]),
    ("/b", .obj [("get", .obj [("operationId", .str "get b")])])])]
  schema := SchemaIndex.ofFields ["a", "b"] []
  templates := SortedMap.ofList [("get b", ⟨"in", "out"⟩)]

/-- A batch that is left out keeps its number, and the next one is built by the first call. -/
theorem run_tables_oneTemplate :
    ∃ m s, run .fixedCode { maxResources := 1 } oneTemplate (fun _ => false)
        (fun n _ => .ok (["first", "second"].getD n "")) = (.ok m, s) ∧
      m.batches.length = 2 ∧ m.tables.batchFor "get b" = some 1 ∧
      m.tables.endpointFor 1 = some "first" := by
  obtain ⟨m, h⟩ := exists_eq_ok (x := run .fixedCode { maxResources := 1 } oneTemplate
    (fun _ => false) fun n _ => .ok (["first", "second"].getD n "")) (by decide +kernel)
  obtain ⟨ops, hops, hids, hurls, hlength, -⟩ := run_tables h
  have htwo : indexOperations oneTemplate.description =
      .ok [⟨"/a", .get, "a"⟩, ⟨"/b", .get, "get b"⟩] := rfl
  cases hops.symm.trans htwo
  have hb : RoutedIn { maxResources := 1 } oneTemplate
      [⟨"/a", .get, "a"⟩, ⟨"/b", .get, "get b"⟩] "get b" 1 :=
    ⟨1, ⟨"/b", .get, "get b"⟩, rfl, rfl, rfl, by decide, by decide⟩
  refine ⟨m, _, h, hlength, (hids "get b" 1).mpr hb, (hurls 1 _).mpr ⟨⟨"get b", hb⟩, ?_⟩⟩
  exact ⟨0, _, rfl, rfl, rfl⟩

end Build

end BatchedGateway
