/- One schema in both of its forms: its definitions and its introspection give one index, and so
every operation is classified alike under both. -/
import BatchedGateway.Operation.Classify
import BatchedGateway.Proofs.Json.Parsing
import BatchedGateway.Proofs.Sdl.Assembly
import BatchedGateway.Proofs.Sdl.Printing
import BatchedGateway.Schema.Reading

namespace BatchedGateway
open Outcome

/-- A name that is not kept for the schema itself. -/
structure IsOwnName (s : String) : Prop extends Sdl.IsName s where
  own : s.toList.take 2 ≠ ['_', '_']

/-- An object type whose fields are of type `String`. -/
structure PlainType where
  name : String
  fields : List String
  isOwn : IsOwnName name
  notScalar : name ∉ Sdl.Assembly.scalarNames
  nonempty : fields ≠ []
  distinct : fields.Nodup
  areOwn : ∀ f ∈ fields, IsOwnName f

/-- A schema of such types, with the names of its root types. -/
structure PlainSchema where
  query : String
  mutation : Option String
  types : List PlainType
  distinct : (types.map (·.name)).Nodup
  query_mem : query ∈ types.map (·.name)
  mutation_mem : ∀ m, mutation = some m → m ∈ types.map (·.name)
  mutation_ne : mutation ≠ some query

namespace PlainSchema

/-- The types with their fields. -/
def listing (s : PlainSchema) : List (String × List String) :=
  s.types.map fun t => (t.name, t.fields)

def roots (s : PlainSchema) : Sdl.Roots :=
  (.query, s.query) :: s.mutation.toList.map fun m => (.mutation, m)

/-- The root types are those that a document without a schema definition has. -/
structure Conventional (s : PlainSchema) : Prop where
  query : s.query = "Query"
  mutation : ∀ m, s.mutation = some m → m = "Mutation"
  none : s.mutation = none → "Mutation" ∉ s.types.map (·.name)

/-- The definitions of the schema, with or without one of the schema itself. -/
def definitions (s : PlainSchema) (explicit : Bool) : List Sdl.Definition :=
  Sdl.document (if explicit then some s.roots else none) s.listing

/-- The tokens of its definitions. -/
def tokens (s : PlainSchema) (explicit : Bool) : List Sdl.Token :=
  (s.definitions explicit).flatMap (·.tokens)

def fieldJson (f : String) : Json := .obj [
  ("name", .str f), ("type", .obj [("kind", .str "SCALAR"), ("name", .str "String")])]

def typeJson (t : PlainType) : Json := .obj [
  ("kind", .str "OBJECT"), ("name", .str t.name), ("fields", .arr (t.fields.map fieldJson))]

def rootJson (n : String) : Json := .obj [("name", .str n)]

def schemaJson (s : PlainSchema) : Json := .obj [
  ("queryType", rootJson s.query), ("mutationType", s.mutation.elim .null rootJson),
  ("types", .arr (s.types.map typeJson))]

/-- The members of an introspection, alone or as the data of a response. -/
def introspection (s : PlainSchema) (wrapped : Bool) : Json.Members :=
  if wrapped then [("data", .obj [("__schema", s.schemaJson)])] else [("__schema", s.schemaJson)]

/-- The fields that the index has for a root type. -/
def fieldsOf (s : PlainSchema) (n : String) : NameSet :=
  NameSet.ofNames (Sdl.fieldsIn s.listing n)

def index (s : PlainSchema) : SchemaIndex :=
  ⟨some s.query, s.mutation, s.fieldsOf s.query, s.mutation.elim ∅ s.fieldsOf⟩

theorem names_listing (s : PlainSchema) : s.listing.map (·.1) = s.types.map (·.name) := by
  rw [listing, List.map_map]
  rfl

theorem composable (s : PlainSchema) : Sdl.Composable s.listing where
  distinct := by
    rw [s.names_listing]
    exact s.distinct
  own := List.forall_mem_map.mpr fun t _ => Sdl.Assembly.get?_builtIn t.notScalar t.isOwn.own
  nonempty := List.forall_mem_map.mpr fun t _ => t.nonempty
  fields := List.forall_mem_map.mpr fun t _ => t.distinct

section Definitions

variable (s : PlainSchema) (explicit : Bool)

theorem roots_of_explicit {rs : Sdl.Roots}
    (h : (if explicit then some s.roots else none) = some rs) :
    rs ≠ [] ∧ (rs.map (·.1)).Nodup := by
  cases explicit with
  | false => cases h
  | true =>
      cases h
      refine ⟨List.cons_ne_nil _ _, ?_⟩
      cases hm : s.mutation <;> simp [roots, hm]

theorem plain_definitions : ∀ d ∈ s.definitions explicit, d.Plain :=
  Sdl.plain_document (fun _ hrs => (s.roots_of_explicit explicit hrs).1) s.composable.nonempty

theorem isName_of_mem {n : String} (h : n ∈ s.types.map (·.name)) : Sdl.IsName n := by
  obtain ⟨t, -, rfl⟩ := List.mem_map.mp h
  exact t.isOwn.toIsName

theorem isName_roots : ∀ r ∈ s.roots, Sdl.IsName r.2 := by
  intro r hr
  rcases List.mem_cons.mp hr with rfl | hr
  · exact s.isName_of_mem s.query_mem
  · obtain ⟨m, hm, rfl⟩ := List.mem_map.mp hr
    exact s.isName_of_mem (s.mutation_mem m (Option.mem_toList.mp hm))

theorem isName_definitions : ∀ d ∈ s.definitions explicit, ∀ n ∈ d.names, Sdl.IsName n := by
  intro d hd n hn
  rcases List.mem_append.mp hd with hd | hd
  · obtain ⟨rs, hrs, rfl⟩ := List.mem_map.mp hd
    obtain ⟨r, hr, rfl⟩ := List.mem_map.mp hn
    cases explicit with
    | false => cases hrs
    | true =>
        cases Option.mem_toList.mp hrs
        exact s.isName_roots r hr
  · obtain ⟨_, ht, rfl⟩ := List.mem_map.mp hd
    obtain ⟨t, -, rfl⟩ := List.mem_map.mp ht
    rcases List.mem_cons.mp hn with rfl | hn
    · exact t.isOwn.toIsName
    · exact (t.areOwn n hn).toIsName

/-- There is a definition at least for the query type. -/
theorem definitions_ne_nil : s.definitions explicit ≠ [] := by
  obtain ⟨t, ht, -⟩ := List.mem_map.mp s.query_mem
  have hlisted : (t.name, t.fields) ∈ s.listing := List.mem_map.mpr ⟨t, ht, rfl⟩
  exact List.ne_nil_of_mem (List.mem_append_right _ (List.mem_map.mpr ⟨_, hlisted, rfl⟩))

/-- Printed definitions spell their tokens. -/
theorem spells_definitions :
    Sdl.Spells (Sdl.print (s.definitions explicit)).toList (s.tokens explicit) :=
  Sdl.spells_print (s.plain_definitions explicit) (s.isName_definitions explicit)

theorem head?_tokens : ∃ n, (s.tokens explicit).head? = some (.name n) := by
  obtain ⟨d, rest, hcons⟩ := List.exists_cons_of_ne_nil (s.definitions_ne_nil explicit)
  have hplain := s.plain_definitions explicit d (hcons ▸ List.mem_cons_self)
  obtain ⟨n, hn⟩ := hplain.head?
  refine ⟨n, ?_⟩
  rw [tokens, hcons, List.flatMap_cons, List.head?_append, hn, Option.some_or]

end Definitions

section Assembled

variable (s : PlainSchema)

/-- The table of its types. -/
def table (s : PlainSchema) : SortedMap String Sdl.TypeEntry :=
  Sdl.Assembly.enter Sdl.Assembly.builtIn s.listing

theorem get?_table {n : String} (h : n ∈ s.types.map (·.name)) :
    s.table.get? n = some (Sdl.Assembly.object (Sdl.fieldsIn s.listing n)) :=
  s.composable.get?_enter (s.names_listing ▸ h)

theorem isObject_table {n : String} (h : n ∈ s.types.map (·.name)) :
    Sdl.Assembly.isObject s.table n = true := by
  rw [Sdl.Assembly.isObject, s.get?_table h]
  rfl

/-- Without a schema definition a conventional schema has the same root types. -/
theorem lookup_implicitRoots (h : s.Conventional) :
    (Sdl.Assembly.implicitRoots s.table).lookup .query = some s.query ∧
      (Sdl.Assembly.implicitRoots s.table).lookup .mutation = s.mutation := by
  obtain ⟨hquery, hmutation⟩ := Sdl.Assembly.lookup_implicitRoots s.table
  rw [hquery, hmutation, s.isObject_table (h.query ▸ s.query_mem), h.query]
  refine ⟨rfl, ?_⟩
  cases hm : s.mutation with
  | none =>
      have hnone : Sdl.Assembly.isObject s.table "Mutation" = false := by
        rw [Sdl.Assembly.isObject, table,
          s.composable.get?_enter_of_not_mem (s.names_listing ▸ h.none hm),
          Sdl.Assembly.get?_builtIn (by decide) (by decide)]
        rfl
      rw [hnone]
      rfl
  | some m =>
      have hmem := s.mutation_mem m hm
      rw [h.mutation m hm] at hmem ⊢
      rw [s.isObject_table hmem]
      rfl

/-- What putting the definitions together gives. -/
def assembled (explicit : Bool) : Sdl.Assembled :=
  ⟨s.table, if explicit then s.roots else Sdl.Assembly.implicitRoots s.table⟩

theorem assemble_definitions (explicit : Bool) :
    Sdl.assemble (s.definitions explicit) = .ok (s.assembled explicit) := by
  rw [definitions, s.composable.assemble_document fun _ => s.roots_of_explicit explicit]
  cases explicit <;> rfl

theorem roots_assembled {explicit : Bool} (h : explicit = true ∨ s.Conventional) :
    (s.assembled explicit).root? .query = some s.query ∧
      (s.assembled explicit).root? .mutation = s.mutation := by
  cases explicit with
  | true =>
      refine ⟨rfl, ?_⟩
      rw [Sdl.Assembled.root?, assembled, if_pos rfl, roots]
      cases s.mutation <;> rfl
  | false =>
      rcases h with h | h
      · cases h
      · exact s.lookup_implicitRoots h

theorem rootFields_assembled (explicit : Bool) {n : String} (h : n ∈ s.types.map (·.name)) :
    SchemaIndex.rootFields (s.assembled explicit) (some n) = s.fieldsOf n := by
  have hfields : (s.assembled explicit).fields n = Sdl.fieldsIn s.listing n := by
    simp only [Sdl.Assembled.fields, assembled, s.get?_table h, Sdl.Assembly.object]
  rw [SchemaIndex.rootFields, Option.map_some, hfields]
  rfl

/-- Every text of the definitions gives the index of the schema. -/
theorem ofSdl_eq_ok {explicit : Bool} (h : explicit = true ∨ s.Conventional) {text : String}
    (htext : Sdl.Spells text.toList (s.tokens explicit)) :
    SchemaIndex.ofSdl text = .ok s.index := by
  have hparse := Sdl.parse_of_spells (s.plain_definitions explicit)
    (s.definitions_ne_nil explicit) htext
  obtain ⟨hquery, hmutation⟩ := s.roots_assembled h
  rw [SchemaIndex.ofSdl, hparse, ok_bind, s.assemble_definitions explicit]
  simp only [hquery, hmutation, s.rootFields_assembled explicit s.query_mem]
  cases hm : s.mutation with
  | none =>
      simp only [index, hm, Option.elim_none]
      rfl
  | some m =>
      have hfields := s.rootFields_assembled explicit (s.mutation_mem m hm)
      simp only [index, hm, Option.elim_some, hfields]

end Assembled

section Introspection

variable (s : PlainSchema)

theorem tidy_fieldJson (f : String) : (fieldJson f).tidy = fieldJson f := by
  simp [fieldJson, Json.tidy_obj]

theorem tidy_typeJson (t : PlainType) : (typeJson t).tidy = typeJson t := by
  simp [typeJson, Json.tidy_obj, Json.tidy_arr, tidy_fieldJson]

theorem tidy_rootJson (n : String) : (rootJson n).tidy = rootJson n := by
  simp [rootJson, Json.tidy_obj]

theorem tidy_schemaJson : s.schemaJson.tidy = s.schemaJson := by
  have hmutation : (s.mutation.elim .null rootJson).tidy = s.mutation.elim .null rootJson := by
    cases s.mutation with
    | none => simp [Json.tidy]
    | some m => exact tidy_rootJson m
  simp [schemaJson, Json.tidy_obj, Json.tidy_arr, tidy_typeJson, tidy_rootJson, hmutation]

theorem tidy_introspection (wrapped : Bool) :
    (Json.obj (s.introspection wrapped)).tidy = .obj (s.introspection wrapped) := by
  cases wrapped <;> simp [introspection, Json.tidy_obj, tidy_schemaJson]

theorem within_typeJson (room : Nat) (t : PlainType) : (typeJson t).Within (room + 4) := by
  simp [typeJson, fieldJson, Json.within_obj, Json.within_arr]

theorem within_schemaJson (room : Nat) : s.schemaJson.Within (room + 6) := by
  have hmutation : (s.mutation.elim .null rootJson).Within (room + 5) := by
    cases s.mutation <;> simp [rootJson, Json.within_obj, Json.Within]
  have htypes : ∀ t ∈ s.types, (typeJson t).Within (room + 4) :=
    fun t _ => within_typeJson room t
  simpa [schemaJson, rootJson, Json.within_obj, Json.within_arr] using ⟨hmutation, htypes⟩

theorem within_introspection (wrapped : Bool) :
    (Json.obj (s.introspection wrapped)).Within Json.depthLimit := by
  have hbare := s.within_schemaJson 119
  have hdeep := s.within_schemaJson 120
  cases wrapped <;> simpa [introspection, Json.depthLimit, Json.within_obj]

/-- A type is found in an introspection as in the listing of the schema. -/
theorem fieldsOf_types (n : String) :
    SchemaIndex.fieldsOf (s.types.map typeJson) (some n) = s.fieldsOf n := by
  have hname : ∀ t : PlainType, SchemaIndex.nameOf? (typeJson t) = some t.name := fun _ => rfl
  have hfields : ∀ fs : List String, (fs.map fieldJson).filterMap SchemaIndex.nameOf? = fs := by
    intro fs
    rw [List.filterMap_map]
    exact List.filterMap_some
  have hfind : (s.types.map typeJson).find? (fun t => SchemaIndex.nameOf? t == some n) =
      (s.types.find? (·.name == n)).map typeJson := by
    rw [List.find?_map]
    congr 1
  have hlisted : s.listing.find? (·.1 == n) =
      (s.types.find? (·.name == n)).map fun t => (t.name, t.fields) := by
    rw [listing, List.find?_map]
    rfl
  rw [fieldsOf, Sdl.fieldsIn, hlisted]
  simp only [SchemaIndex.fieldsOf, hfind]
  cases s.types.find? (·.name == n) with
  | none => rfl
  | some t =>
      have hlist : ((typeJson t).get? "fields").bind Json.asArray? =
          some (t.fields.map fieldJson) := rfl
      simp only [Option.map_some, hlist, hfields, Option.getD_some]

theorem ofIntrospection_eq_ok (wrapped : Bool) :
    SchemaIndex.ofIntrospection (.obj (s.introspection wrapped)) = .ok s.index := by
  have hobject : SchemaIndex.schemaObject? (.obj (s.introspection wrapped)) =
      some s.schemaJson := by
    cases wrapped <;> rfl
  have htypes : (s.schemaJson.get? "types").bind Json.asArray? = some (s.types.map typeJson) := rfl
  have hquery : SchemaIndex.rootName? s.schemaJson "queryType" = some s.query := rfl
  have hmutation : s.schemaJson.get? "mutationType" = some (s.mutation.elim .null rootJson) := rfl
  simp only [SchemaIndex.ofIntrospection, hobject, htypes, hquery, hmutation, Option.getD_some,
    s.fieldsOf_types]
  cases hm : s.mutation with
  | none =>
      simp only [index, hm, Option.elim_none]
      rfl
  | some m =>
      have hfields := s.fieldsOf_types m
      simp only [index, hm, Option.elim_some]
      rw [← hfields]
      rfl

/-- The text of the introspection, in either layout, gives the index of the schema. -/
theorem ofIntrospectionText_eq_ok (wrapped : Bool) (layout : Json.Layout) {blanks : String}
    (hblanks : blanks.toList.all Json.Written.isSpace) :
    SchemaIndex.ofIntrospectionText (blanks ++ layout.print (.obj (s.introspection wrapped))) =
      .ok s.index := by
  have hparse := Json.parse_print layout hblanks (s.within_introspection wrapped)
  rw [SchemaIndex.ofIntrospectionText, hparse, s.tidy_introspection]
  exact s.ofIntrospection_eq_ok wrapped

end Introspection

section Formats

variable (s : PlainSchema)

theorem parse_definitions {explicit : Bool} (h : explicit = true ∨ s.Conventional) {text : String}
    (htext : Sdl.Spells text.toList (s.tokens explicit)) {f : SchemaFormat}
    (hf : f = .sdl ∨ f = .auto) : SchemaIndex.parse text f = .ok s.index := by
  have hsdl := s.ofSdl_eq_ok h htext
  obtain ⟨n, hn⟩ := s.head?_tokens explicit
  have hink := htext.firstInk_ne (by simp [hn])
  rcases hf with rfl | rfl
  · exact hsdl
  · rw [SchemaIndex.parse, if_neg hink, hsdl]

theorem parse_introspection (wrapped : Bool) (layout : Json.Layout) {f : SchemaFormat}
    (hf : f = .introspection ∨ f = .auto) :
    SchemaIndex.parse (layout.print (.obj (s.introspection wrapped))) f = .ok s.index := by
  have hblanks : "".toList.all Json.Written.isSpace := rfl
  have htext := s.ofIntrospectionText_eq_ok wrapped layout hblanks
  have hink := Json.firstInk_print layout hblanks (s.introspection wrapped)
  rw [String.empty_append] at htext hink
  rcases hf with rfl | rfl
  · exact htext
  · rw [SchemaIndex.parse, if_pos hink, htext]

end Formats

end PlainSchema

/-- The classification of an operation when its field has the name that a function gives. -/
def classifyUnder (schema : SchemaIndex) (translate : String → String) (id : String) :
    Classification := classify schema (SortedMap.ofList [(id, translate id)]) id

theorem classifyUnder_fieldOf (schema : SchemaIndex) (names : FieldNames) (id : String) :
    classifyUnder schema names.fieldOf id = classify schema names id := by
  have hfield : FieldNames.fieldOf (SortedMap.ofList [(id, names.fieldOf id)]) id =
      names.fieldOf id := by
    simp [FieldNames.fieldOf, SortedMap.ofList]
  simp only [classifyUnder, classify, hfield]

/-- A schema printed as definitions, with a definition of itself or, under the default names of its
root types, without one, has the same index as the schema printed as an introspection. Each text can
be said to be in its form or left to be recognized, and the definitions can be spaced in any way. -/
theorem PlainSchema.parse_agrees (s : PlainSchema) (explicit : Bool)
    (h : explicit = true ∨ s.Conventional) :
    Sdl.Spells (Sdl.print (s.definitions explicit)).toList (s.tokens explicit) ∧
    ∀ text : String, Sdl.Spells text.toList (s.tokens explicit) →
      ∀ f g : SchemaFormat, f = .sdl ∨ f = .auto → g = .introspection ∨ g = .auto →
        ∀ (wrapped : Bool) (layout : Json.Layout), ∃ i j,
          SchemaIndex.parse text f = .ok i ∧
          SchemaIndex.parse (layout.print (.obj (s.introspection wrapped))) g = .ok j ∧
          i = j ∧ j = s.index ∧
          ∀ translate id, classifyUnder i translate id = classifyUnder j translate id :=
  ⟨s.spells_definitions explicit, fun _ htext _ _ hf hg wrapped layout =>
    ⟨s.index, s.index, s.parse_definitions h htext hf, s.parse_introspection wrapped layout hg, rfl,
      rfl, fun _ _ => rfl⟩⟩

/-- Types and fields that are named like keywords. -/
def keywordSchema : PlainSchema where
  query := "query"
  mutation := some "type"
  types := [
    { name := "type"
      fields := ["schema", "a"]
      isOwn := ⟨⟨by decide, by decide⟩, by decide⟩
      notScalar := by decide
      nonempty := by decide
      distinct := by decide
      areOwn := by
        intro f hf
        simp only [List.mem_cons, List.not_mem_nil, or_false] at hf
        rcases hf with rfl | rfl <;> exact ⟨⟨by decide, by decide⟩, by decide⟩ },
    { name := "query"
      fields := ["_b"]
      isOwn := ⟨⟨by decide, by decide⟩, by decide⟩
      notScalar := by decide
      nonempty := by decide
      distinct := by decide
      areOwn := by
        intro f hf
        rw [List.mem_singleton] at hf
        subst hf
        exact ⟨⟨by decide, by decide⟩, by decide⟩ }]
  distinct := by decide
  query_mem := by decide
  mutation_mem := by
    intro m hm
    cases hm
    decide
  mutation_ne := by decide

theorem PlainSchema.parse_agrees_keywordSchema :
    let sdl := "schema \x7b\n  query: query\n  mutation: type\n\x7d\n" ++
      "type type \x7b\n  schema: String\n  a: String\n\x7d\n" ++
      "type query \x7b\n  _b: String\n\x7d\n"
    ∃ i, SchemaIndex.parse sdl .auto = .ok i ∧
      SchemaIndex.parse (Json.obj (keywordSchema.introspection true)).pretty .auto = .ok i ∧
      i.queryType = some "query" ∧ i.hasMutation "a" = true := by
  intro sdl
  have hprinted : Sdl.print (keywordSchema.definitions true) = sdl := by decide +kernel
  obtain ⟨hspells, hagree⟩ := keywordSchema.parse_agrees true (.inl rfl)
  rw [hprinted] at hspells
  obtain ⟨i, _, hi, hj, rfl, rfl, -⟩ :=
    hagree sdl hspells .auto .auto (.inr rfl) (.inr rfl) true .pretty
  exact ⟨_, hi, hj, rfl, by decide +kernel⟩

end BatchedGateway
