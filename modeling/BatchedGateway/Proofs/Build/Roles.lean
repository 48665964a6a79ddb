/- The roles and root types of a build: what it says of the field of an operation is borne out by
the index of the schema, wherever that came from. -/
import BatchedGateway.Proofs.Build.Diagnostics

namespace BatchedGateway

namespace SchemaIndex

/-- The ways to come by an index: a text in one of its forms, the value of an introspection, or
nothing but names of fields. -/
inductive Obtained : SchemaIndex → Prop
  | text {text : String} {format : SchemaFormat} {s : SchemaIndex}
      (h : parse text format = .ok s) : Obtained s
  | introspection {v : Json} {s : SchemaIndex} (h : ofIntrospection v = .ok s) : Obtained s
  | fields (query mutation : List String) : Obtained (ofFields query mutation)

/-- The fields of the root type for a role. -/
def fields (s : SchemaIndex) : Role → NameSet
  | .query => s.queryFields
  | .mutation => s.mutationFields

/-- The name of the root type for a role. -/
def root (s : SchemaIndex) : Role → Option String
  | .query => s.queryType
  | .mutation => s.mutationType

/-- A root type that has fields has a name. -/
def Rooted (s : SchemaIndex) : Prop := ∀ role, s.fields role ≠ ∅ → (s.root role).isSome = true

variable {s : SchemaIndex}

/-- Where no name means no fields, fields mean that there is a name. -/
theorem isSome_of_fields_ne (fieldsOn : Option String → NameSet) (hnone : fieldsOn none = ∅)
    {name : Option String} (h : fieldsOn name ≠ ∅) : name.isSome = true := by
  cases name with
  | none => exact absurd hnone h
  | some name => rfl

theorem rooted_ofIntrospection {v : Json} (h : ofIntrospection v = .ok s) : s.Rooted := by
  rw [ofIntrospection] at h
  split at h
  · cases h
  · split at h
    · cases h
    · cases h
      rintro (_ | _) hfields
      · exact isSome_of_fields_ne (fieldsOf _) rfl hfields
      · exact isSome_of_fields_ne (fieldsOf _) rfl hfields

theorem rooted_ofSdl {text : String} (h : ofSdl text = .ok s) : s.Rooted := by
  rw [ofSdl] at h
  split at h
  · cases h
  · cases h
    rintro (_ | _) hfields
    · exact isSome_of_fields_ne (rootFields _) rfl hfields
    · exact isSome_of_fields_ne (rootFields _) rfl hfields

theorem rooted_ofIntrospectionText {text : String} (h : ofIntrospectionText text = .ok s) :
    s.Rooted := by
  rw [ofIntrospectionText] at h
  split at h
  · cases h
  · exact rooted_ofIntrospection h

theorem Obtained.rooted (h : s.Obtained) : s.Rooted := by
  cases h with
  | @text text format _ h =>
      cases format with
      | sdl => exact rooted_ofSdl h
      | introspection => exact rooted_ofIntrospectionText h
      | auto =>
          rw [parse] at h
          split at h
          · exact rooted_ofIntrospectionText h
          · exact rooted_ofSdl h
  | introspection h => exact rooted_ofIntrospection h
  | fields query mutation =>
      intro role _
      cases role with
      | query => rfl
      | mutation => rfl

/-- The root type of a field that the index has has a name. -/
theorem Rooted.exists_root (h : s.Rooted) (role : Role) {field : String}
    (hfield : (s.fields role).contains field = true) : ∃ name, s.root role = some name := by
  refine Option.isSome_iff_exists.mp (h role fun hempty => ?_)
  rw [hempty] at hfield
  cases hfield

end SchemaIndex

theorem classify_role_mutation {schema : SchemaIndex} {names : FieldNames} {id : String}
    (h : (classify schema names id).role = .mutation) :
    schema.hasMutation (names.fieldOf id) = true ∧ schema.hasQuery (names.fieldOf id) = false := by
  rw [classify] at h
  split at h
  · cases h
  · rename_i hquery
    split at h
    · rename_i hmutation
      exact ⟨hmutation, (Bool.not_eq_true _).mp hquery⟩
    · split at h <;> cases h

theorem classify_role_query {schema : SchemaIndex} {names : FieldNames} {id : String}
    (h : (classify schema names id).role = .query) : schema.hasQuery (names.fieldOf id) = true ∨
      schema.hasQuery (names.fieldOf id) = false ∧
        schema.hasMutation (names.fieldOf id) = false := by
  rw [classify] at h
  split at h
  · rename_i hquery
    exact .inl hquery
  · rename_i hquery
    split at h
    · cases h
    · rename_i hmutation
      exact .inr ⟨(Bool.not_eq_true _).mp hquery, (Bool.not_eq_true _).mp hmutation⟩

namespace Manifest

def resources (m : Manifest) : List Resource := m.batches.flatMap (·.surface.resources)

def resolvers (m : Manifest) : List ResolverBinding := m.batches.flatMap (·.surface.resolvers)

end Manifest

namespace Build
open Outcome

/-- The role of an operation. -/
def roleFor (c : Config) (schema : SchemaIndex) (id : String) : Role :=
  (classify schema c.fieldNames id).role

/-- An operation is served by a field in a role. A resource says so itself; a resolver does not name
the role, and has that of its operation. -/
inductive Served (c : Config) (schema : SchemaIndex) (m : Manifest) : String → Role → String → Prop
  | resource {r : Resource} (h : r ∈ m.resources) :
      Served c schema m r.operation r.integration.role r.integration.field
  | resolver {b : ResolverBinding} (h : b ∈ m.resolvers) :
      Served c schema m b.operation (roleFor c schema b.operation) b.field

/-- A warning says that the schema does not know the field of an operation. -/
def Unfound (m : Manifest) (operation field : String) : Prop :=
  Diagnostic.warning operation ("field '" ++ field ++ "' not found in schema; defaulting to Query")
    ∈ m.diagnostics

/-- What a build says of the fields of operations is borne out by the schema. -/
structure Justified (c : Config) (schema : SchemaIndex) (m : Manifest) : Prop where
  mutation : ∀ operation field, Served c schema m operation .mutation field →
    schema.hasMutation field = true ∧ schema.hasQuery field = false
  query : ∀ operation field, Served c schema m operation .query field →
    schema.hasQuery field = true ∨ Unfound m operation field
  same : ∀ operation role role' field field', Served c schema m operation role field →
    Served c schema m operation role' field' → role = role' ∧ field = field'
  mutationType : ∀ b ∈ m.resolvers, roleFor c schema b.operation = .mutation →
    schema.mutationType = some b.typeName
  queryType : ∀ b ∈ m.resolvers, roleFor c schema b.operation = .query →
    schema.queryType = some b.typeName ∨
      schema.queryType = none ∧ b.typeName = "Query" ∧ Unfound m b.operation b.field

section Builds

variable {z : Archive.Compressor} {c : Config} {inputs : Inputs} {isDirectory : String → Bool}
  {provision : Provisioner} {m : Manifest} {s : Progress} {ops : List IndexedOperation}
  {batches : List (Batch Operation)} {op : IndexedOperation}

/-- The name of the root type that resolvers for a role are put on. -/
def typeFor (schema : SchemaIndex) (role : Role) : String := (schema.root role).getD role.typeName

theorem rootType_plannerOf (role : Role) :
    (plannerOf c inputs isDirectory).rootType role = typeFor inputs.schema role := by
  cases role <;> rfl

namespace Stages

/-- What a batch that is built was laid out for: operations of the description. -/
theorem laidOut (r : Stages z c inputs isDirectory provision ops batches m s) {built : BuiltBatch}
    (hbuilt : built ∈ m.batches) : ∃ batch : Batch Operation, built.surface =
      (plannerOf c inputs isDirectory).surfaceOf batch (c.surfaceName batch.index) ∧
      ∀ described ∈ batch.operations, ∃ op ∈ ops,
        describe inputs.schema c.fieldNames op = described := by
  obtain ⟨b, hb⟩ := List.mem_iff_getElem?.mp hbuilt
  obtain ⟨batch, hbatch, hsurface⟩ := r.surface_eq hb
  refine ⟨batch, hsurface, fun described hmem => ?_⟩
  have hall := List.mem_flatMap.mpr ⟨batch, List.mem_of_getElem? hbatch, hmem⟩
  rw [flatMap_operations_partition r.cut] at hall
  exact List.mem_map.mp hall

theorem exists_of_mem_resources (r : Stages z c inputs isDirectory provision ops batches m s)
    {resource : Resource} (h : resource ∈ m.resources) : ∃ op ∈ ops,
      describe inputs.schema c.fieldNames op = Planner.sourceOf resource ∧
        Text.blank (fieldFor c op) = false := by
  obtain ⟨built, hbuilt, hresource⟩ := List.mem_flatMap.mp h
  obtain ⟨batch, hsurface, hdescribed⟩ := r.laidOut hbuilt
  rw [hsurface] at hresource
  obtain ⟨hmem, hfield⟩ := Planner.sourceOf_mem hresource
  obtain ⟨op, hop, hsource⟩ := hdescribed _ hmem
  rw [← hsource, hasField_describe, Bool.not_eq_true'] at hfield
  exact ⟨op, hop, hsource, hfield⟩

theorem exists_of_mem_resolvers (r : Stages z c inputs isDirectory provision ops batches m s)
    {b : ResolverBinding} (h : b ∈ m.resolvers) : ∃ op ∈ ops, op.id = b.operation ∧
      b.typeName = typeFor inputs.schema (roleFor c inputs.schema op.id) ∧
        fieldFor c op = b.field ∧ Text.blank (fieldFor c op) = false := by
  obtain ⟨built, hbuilt, hresolver⟩ := List.mem_flatMap.mp h
  obtain ⟨batch, hsurface, hdescribed⟩ := r.laidOut hbuilt
  rw [hsurface] at hresolver
  obtain ⟨described, hmem, hfield, hbinding⟩ := Planner.mem_bindings.mp hresolver
  obtain ⟨op, hop, rfl⟩ := hdescribed _ hmem
  obtain ⟨hid, htype, hname⟩ := Planner.resolver_eq_some hbinding
  rw [hasField_describe, Bool.not_eq_true'] at hfield
  exact ⟨op, hop, hid.symm, htype.trans (rootType_plannerOf _),
    (hname.trans (classify_field inputs.schema c.fieldNames op.id)).symm, hfield⟩

/-- Whatever serves an operation has the field and the role of that operation. -/
theorem exists_of_served (r : Stages z c inputs isDirectory provision ops batches m s)
    {operation field : String} {role : Role} (h : Served c inputs.schema m operation role field) :
    ∃ op ∈ ops, op.id = operation ∧ roleFor c inputs.schema op.id = role ∧
      fieldFor c op = field ∧ Text.blank (fieldFor c op) = false := by
  cases h with
  | @resource resource h =>
      obtain ⟨op, hop, hsource, hfield⟩ := r.exists_of_mem_resources h
      have hname : fieldFor c op = resource.integration.field :=
        (classify_field inputs.schema c.fieldNames op.id).symm.trans
          (congrArg Operation.field hsource)
      exact ⟨op, hop, congrArg Operation.id hsource, congrArg Operation.role hsource, hname, hfield⟩
  | @resolver b h =>
      obtain ⟨op, hop, hid, -, hname, hfield⟩ := r.exists_of_mem_resolvers h
      exact ⟨op, hop, hid, congrArg _ hid, hname, hfield⟩

theorem unfound (r : Stages z c inputs isDirectory provision ops batches m s) (hop : op ∈ ops)
    (hunknown : unknown c inputs.schema op = true) : Unfound m op.id (fieldFor c op) := by
  rw [Unfound, r.diagnostics_eq]
  exact List.mem_append_left _
    (List.mem_map.mpr ⟨op, List.mem_filter.mpr ⟨hop, hunknown⟩, rfl⟩)

/-- A field that serves queries is one of them, unless a warning says that it was not found. -/
theorem query_or_unfound (r : Stages z c inputs isDirectory provision ops batches m s)
    (hop : op ∈ ops) (hrole : roleFor c inputs.schema op.id = .query)
    (hfield : Text.blank (fieldFor c op) = false) :
    inputs.schema.hasQuery (fieldFor c op) = true ∨ Unfound m op.id (fieldFor c op) := by
  refine (classify_role_query hrole).imp_right fun hneither => r.unfound hop ?_
  obtain ⟨hquery, hmutation⟩ := hneither
  rw [unknown, hfield, fieldFor, hquery, hmutation]
  rfl

/-- A build over an index whose root types have names is borne out by it. -/
theorem justified (r : Stages z c inputs isDirectory provision ops batches m s)
    (hrooted : inputs.schema.Rooted) : Justified c inputs.schema m where
  mutation operation field h := by
    obtain ⟨op, -, -, hrole, rfl, -⟩ := r.exists_of_served h
    exact classify_role_mutation hrole
  query operation field h := by
    obtain ⟨op, hop, rfl, hrole, rfl, hfield⟩ := r.exists_of_served h
    exact r.query_or_unfound hop hrole hfield
  same operation role role' field field' h h' := by
    obtain ⟨op, -, hid, rfl, rfl, -⟩ := r.exists_of_served h
    obtain ⟨op', -, hid', rfl, rfl, -⟩ := r.exists_of_served h'
    rw [fieldFor, fieldFor, hid, hid']
    exact ⟨rfl, rfl⟩
  mutationType b hb hrole := by
    obtain ⟨op, -, hid, htype, -, -⟩ := r.exists_of_mem_resolvers hb
    rw [← hid] at hrole
    obtain ⟨name, hname⟩ := hrooted.exists_root .mutation (classify_role_mutation hrole).1
    rw [htype, typeFor, hrole, hname]
    exact hname
  queryType b hb hrole := by
    obtain ⟨op, hop, hid, htype, hfield, hblank⟩ := r.exists_of_mem_resolvers hb
    rw [← hid] at hrole
    rw [htype, typeFor, hrole, ← hid, ← hfield]
    cases hroot : inputs.schema.root .query with
    | some name => exact .inl hroot
    | none =>
        have hwarned := r.query_or_unfound hop hrole hblank
        refine .inr ⟨hroot, rfl, hwarned.resolve_left fun hquery => ?_⟩
        obtain ⟨name, hname⟩ := hrooted.exists_root .query hquery
        cases hroot.symm.trans hname

end Stages

end Builds

/-- A root type that has fields has a name in every index that one can come by, and what a build
over such an index says of the fields of operations is borne out by it. -/
theorem run_justified : (∀ schema : SchemaIndex, schema.Obtained → schema.Rooted) ∧
    ∀ (z : Archive.Compressor) (c : Config) (inputs : Inputs) (isDirectory : String → Bool)
      (provision : Provisioner) (m : Manifest) (s : Progress), inputs.schema.Obtained →
        run z c inputs isDirectory provision = (.ok m, s) → Justified c inputs.schema m := by
  refine ⟨fun _ hschema => hschema.rooted,
    fun z c inputs isDirectory provision m s hschema h => ?_⟩
  obtain ⟨ops, batches, r⟩ := run_eq_ok h
  exact r.justified hschema.rooted

/-- The index of a schema that has no queries. -/
def mutationsOnly : SchemaIndex := ⟨none, some "Mutation", ∅, NameSet.ofNames ["b"]⟩

/-- A build with resolvers, in which the field of an operation has a name of its own. -/
def renamedField : Config where
  resolverDir := some "r"
  fieldNames := SortedMap.ofList [("get b", "b")]

/-- Where there are no queries, the field that is not found is put on a root type of the default
name. -/
theorem run_justified_mutationsOnly :
    ∃ m s, mutationsOnly.Obtained ∧
      run .fixedCode renamedField { oneTemplate with schema := mutationsOnly } (fun _ => true)
        (fun _ _ => .ok "fn://h") = (.ok m, s) ∧
      m.resolvers = [⟨"a", "Query", "a", "r/a"⟩, ⟨"get b", "Mutation", "b", "r/get b"⟩] ∧
      Unfound m "a" "a" ∧ mutationsOnly.mutationType = some "Mutation" := by
  have hobtained : mutationsOnly.Obtained := by
    have hparse : (SchemaIndex.parse "type Mutation { b: Int }" .auto).toOption =
        some mutationsOnly := by decide +kernel
    cases htext : SchemaIndex.parse "type Mutation { b: Int }" .auto with
    | error e =>
        rw [htext] at hparse
        cases hparse
    | ok schema =>
        rw [htext] at hparse
        cases hparse
        exact .text htext
  obtain ⟨m, h⟩ := exists_eq_ok (x := run .fixedCode renamedField
    { oneTemplate with schema := mutationsOnly } (fun _ => true) fun _ _ => .ok "fn://h")
    (by decide +kernel)
  have hresolvers : (run .fixedCode renamedField { oneTemplate with schema := mutationsOnly }
      (fun _ => true) fun _ _ => .ok "fn://h").1.toOption.map (·.resolvers) =
      some [⟨"a", "Query", "a", "r/a"⟩, ⟨"get b", "Mutation", "b", "r/get b"⟩] := by
    decide +kernel
  rw [h] at hresolvers
  have hresolvers := Option.some.inj hresolvers
  have hall := run_justified.2 _ renamedField { oneTemplate with schema := mutationsOnly }
    (fun _ => true) (fun _ _ => .ok "fn://h") m _ hobtained h
  have hfirst : ⟨"a", "Query", "a", "r/a"⟩ ∈ m.resolvers := by simp [hresolvers]
  have hsecond : ⟨"get b", "Mutation", "b", "r/get b"⟩ ∈ m.resolvers := by simp [hresolvers]
  refine ⟨m, _, hobtained, h, hresolvers, ?_, hall.mutationType _ hsecond (by decide +kernel)⟩
  rcases hall.queryType _ hfirst (by decide +kernel) with hquery | ⟨-, -, hunfound⟩
  · cases hquery
  · exact hunfound

end Build

end BatchedGateway
