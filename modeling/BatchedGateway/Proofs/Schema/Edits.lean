/- Introspections that differ in what carries no meaning: whatever is put in, repeated or put in
another order, the index stays as it is. -/
import BatchedGateway.Proofs.Sorted
import BatchedGateway.Schema.Reading
import Mathlib.Data.List.Nodup
import Mathlib.Logic.Relation

namespace BatchedGateway

namespace Json

variable {key other : String} {value : Json} {before after : Members}

theorem Members.find?_append : Members.find? key (before ++ after) =
    (Members.find? key before).or (Members.find? key after) := by
  induction before with
  | nil => rfl
  | cons m rest ih =>
      obtain ⟨k, v⟩ := m
      rw [List.cons_append, Members.find?, Members.find?]
      split
      · rfl
      · exact ih

/-- A member is found behind those that stand before it. -/
theorem get?_insert_self : (obj (before ++ (key, value) :: after)).get? key =
    (Members.find? key before).or (some value) := by
  rw [get?, Members.find?_append, Members.find?_cons_self]

theorem get?_insert_of_ne (h : key ≠ other) :
    (obj (before ++ (other, value) :: after)).get? key = (obj (before ++ after)).get? key := by
  rw [get?, get?, Members.find?_append, Members.find?_append, Members.find?, if_neg h.symm]

end Json

namespace SchemaIndex

/-- Changes to the fields of a type that leave their names: another order, a field once more, and
one without a name. -/
inductive FieldsEdit : List Json → List Json → Prop
  | permuted {fields fields' : List Json} (h : fields.Perm fields') : FieldsEdit fields fields'
  | repeated {front back : List Json} {f : Json} (h : f ∈ front ++ back) :
      FieldsEdit (front ++ back) (front ++ f :: back)
  | nameless {front back : List Json} {f : Json} (h : nameOf? f = none) :
      FieldsEdit (front ++ back) (front ++ f :: back)

/-- The name of a root type. -/
def IsRoot (index : SchemaIndex) (name : String) : Prop :=
  index.queryType = some name ∨ index.mutationType = some name

/-- Changes to the types of a schema: another order, one more that is no root, and a change to the
fields of one. -/
inductive TypesEdit (index : SchemaIndex) : List Json → List Json → Prop
  | permuted {types types' : List Json} (h : types.Perm types') : TypesEdit index types types'
  | added {front back : List Json} {t : Json}
      (h : ∀ name, nameOf? t = some name → ¬ index.IsRoot name) :
      TypesEdit index (front ++ back) (front ++ t :: back)
  | fields {front back : List Json} {before after : Json.Members} {fields fields' : List Json}
      (h : FieldsEdit fields fields') :
      TypesEdit index (front ++ .obj (before ++ ("fields", .arr fields) :: after) :: back)
        (front ++ .obj (before ++ ("fields", .arr fields') :: after) :: back)

/-- Changes to a schema: one to its types, or a member that is not asked for. -/
inductive Edit (index : SchemaIndex) : Json → Json → Prop
  | types {before after : Json.Members} {types types' : List Json}
      (h : TypesEdit index types types') :
      Edit index (.obj (before ++ ("types", .arr types) :: after))
        (.obj (before ++ ("types", .arr types') :: after))
  | added {before after : Json.Members} {key : String} {value : Json}
      (h : key ∉ ["queryType", "mutationType", "types"]) :
      Edit index (.obj (before ++ after)) (.obj (before ++ (key, value) :: after))

/-- No two types of a schema have one name. -/
def NamedApart (schema : Json) : Prop :=
  ∀ types, schema.get? "types" = some (.arr types) → (types.filterMap nameOf?).Nodup

/-- The schema in a value: the one in its data if there is one, whatever it is, else the one at the
top. -/
inductive Selects (v : Json) : Json → Prop
  | wrapped {data schema : Json} (hdata : v.get? "data" = some data)
      (h : data.get? "__schema" = some schema) : Selects v schema
  | bare {schema : Json} (hnone : ∀ data, v.get? "data" = some data → data.get? "__schema" = none)
      (h : v.get? "__schema" = some schema) : Selects v schema

section Fields

variable {fields fields' types types' : List Json} {name : String} {index : SchemaIndex}

/-- The names of the fields of a type. -/
def fieldNames (t : Json) : List String :=
  (((t.get? "fields").bind Json.asArray?).getD []).filterMap nameOf?

theorem FieldsEdit.mem_names (h : FieldsEdit fields fields') (n : String) :
    n ∈ fields.filterMap nameOf? ↔ n ∈ fields'.filterMap nameOf? := by
  cases h with
  | permuted h => exact (h.filterMap nameOf?).mem_iff
  | @repeated front back f hf =>
      simp only [List.mem_filterMap]
      refine exists_congr fun g => and_congr_left fun _ => ?_
      constructor
      · exact fun hg => (List.perm_middle.mem_iff).mpr (List.mem_cons_of_mem _ hg)
      · intro hg
        rcases List.mem_cons.mp (List.perm_middle.mem_iff.mp hg) with rfl | hg
        · exact hf
        · exact hg
  | @nameless front back f hf => simp [hf]

/-- A change to its fields does not change the name of a type, nor which names its fields have. -/
theorem FieldsEdit.type_eq (h : FieldsEdit fields fields') (before after : Json.Members) :
    nameOf? (.obj (before ++ ("fields", .arr fields') :: after)) =
        nameOf? (.obj (before ++ ("fields", .arr fields) :: after)) ∧
      NameSet.ofNames (fieldNames (.obj (before ++ ("fields", .arr fields') :: after))) =
        NameSet.ofNames (fieldNames (.obj (before ++ ("fields", .arr fields) :: after))) := by
  constructor
  · rw [nameOf?, nameOf?, Json.get?_insert_of_ne (by decide), Json.get?_insert_of_ne (by decide)]
  · rw [fieldNames, fieldNames, Json.get?_insert_self, Json.get?_insert_self]
    cases Json.Members.find? "fields" before with
    | some v => rfl
    | none => exact NameSet.ofNames_congr fun n => (h.mem_names n).symm

/-- The types of a name. -/
def ofName (types : List Json) (name : String) : List Json :=
  types.filter fun t => nameOf? t == some name

theorem fieldsOf_some (types : List Json) (name : String) : fieldsOf types (some name) =
    NameSet.ofNames (((ofName types name).head?.map fieldNames).getD []) := by
  rw [fieldsOf, ofName, List.head?_filter]
  cases types.find? fun t => nameOf? t == some name with
  | none => rfl
  | some t =>
      simp only [Option.map_some, Option.getD_some, fieldNames]
      cases (t.get? "fields").bind Json.asArray? <;> rfl

theorem eq_of_perm_of_length_le {l l' : List Json} (h : l.Perm l') (hlength : l.length ≤ 1) :
    l = l' := by
  cases l with
  | nil => exact h.nil_eq
  | cons t rest =>
      obtain rfl : rest = [] := List.eq_nil_of_length_eq_zero (by simpa using hlength)
      exact h.singleton_eq

/-- Where a name stands once, a change leaves one type there, with the same fields. -/
theorem TypesEdit.ofName_eq (h : TypesEdit index types types') (hroot : index.IsRoot name)
    (honce : (ofName types name).length ≤ 1) :
    (ofName types' name).length ≤ 1 ∧ fieldsOf types' (some name) = fieldsOf types (some name) := by
  rw [fieldsOf_some, fieldsOf_some]
  cases h with
  | permuted h =>
      have hsame : ofName types name = ofName types' name :=
        eq_of_perm_of_length_le (h.filter _) honce
      rw [← hsame]
      exact ⟨honce, rfl⟩
  | @added front back t ht =>
      have hsame : ofName (front ++ t :: back) name = ofName (front ++ back) name := by
        have hnot : nameOf? t ≠ some name := fun heq => ht name heq hroot
        simp [ofName, hnot]
      rw [hsame]
      exact ⟨honce, rfl⟩
  | @fields front back before after fields fields' h =>
      obtain ⟨hname, hfields⟩ := h.type_eq before after
      simp only [ofName, List.filter_append, List.filter_cons, hname] at honce ⊢
      split
      · rename_i hof
        rw [if_pos hof] at honce
        refine ⟨by simpa using honce, ?_⟩
        cases front.filter fun t => nameOf? t == some name with
        | nil => exact hfields
        | cons first rest => rfl
      · rename_i hnot
        rw [if_neg hnot] at honce
        exact ⟨honce, rfl⟩

end Fields

/-- The name of the mutation type, as a schema has it. -/
def mutationName? (schema : Json) : Option String :=
  match schema.get? "mutationType" with
  | some .null => none
  | some v => nameOf? v
  | none => some "Mutation"

/-- An index has the roots of a schema, and their fields from its types. -/
structure IndexOf (index : SchemaIndex) (schema : Json) (types : List Json) : Prop where
  listed : schema.get? "types" = some (.arr types)
  queryType : index.queryType = some ((rootName? schema "queryType").getD "Query")
  mutationType : index.mutationType = mutationName? schema
  queryFields : index.queryFields = fieldsOf types index.queryType
  mutationFields : index.mutationFields = fieldsOf types index.mutationType

/-- The roots of an index can be told from all other types. -/
def Told (index : SchemaIndex) (types : List Json) : Prop :=
  ∀ name, index.IsRoot name → (ofName types name).length ≤ 1

section Reading

variable {index : SchemaIndex} {types items : List Json} {schema v : Json} {key : String}

theorem asArray?_eq_some : v.asArray? = some items ↔ v = .arr items := by
  cases v <;> simp [Json.asArray?]

theorem arrayAt_eq_some :
    (v.get? key).bind Json.asArray? = some items ↔ v.get? key = some (.arr items) := by
  rw [Option.bind_eq_some_iff]
  constructor
  · rintro ⟨w, hw, hitems⟩
    rw [hw, asArray?_eq_some.mp hitems]
  · intro h
    exact ⟨_, h, rfl⟩

theorem selects_iff : Selects v schema ↔ schemaObject? v = some schema := by
  rw [schemaObject?]
  constructor
  · intro h
    cases h with
    | wrapped hdata h => simp only [hdata, Option.bind_some, h]
    | bare hnone h =>
        have hbare : ((v.get? "data").bind (·.get? "__schema")) = none :=
          Option.bind_eq_none_iff.mpr hnone
        simp only [hbare, h]
  · intro h
    cases hwrapped : (v.get? "data").bind (·.get? "__schema") with
    | some s =>
        rw [hwrapped] at h
        cases h
        obtain ⟨data, hdata, hschema⟩ := Option.bind_eq_some_iff.mp hwrapped
        exact .wrapped hdata hschema
    | none =>
        rw [hwrapped] at h
        exact .bare (Option.bind_eq_none_iff.mp hwrapped) h

theorem ofIntrospection_eq_ok_iff : ofIntrospection v = .ok index ↔
    ∃ schema types, Selects v schema ∧ index.IndexOf schema types := by
  simp only [selects_iff]
  rw [ofIntrospection]
  constructor
  · intro h
    split at h
    · cases h
    · rename_i schema hschema
      split at h
      · cases h
      · rename_i types htypes
        cases h
        exact ⟨schema, types, hschema, arrayAt_eq_some.mp htypes, rfl, rfl, rfl, rfl⟩
  · rintro ⟨schema, types, hschema, htypes, hquery, hmutation, hqueryFields, hmutationFields⟩
    rw [hquery] at hqueryFields
    rw [hmutation] at hmutationFields
    simp only [hschema, arrayAt_eq_some.mpr htypes]
    cases index
    subst hquery hmutation hqueryFields hmutationFields
    rfl

/-- There is no index without a schema, and none without a list of types. -/
theorem exists_error_iff (v : Json) : (∃ e, ofIntrospection v = .error e) ↔
    (∀ schema, ¬ Selects v schema) ∨
      ∃ schema, Selects v schema ∧ ∀ types, schema.get? "types" ≠ some (.arr types) := by
  simp only [selects_iff]
  rw [ofIntrospection]
  cases hschema : schemaObject? v with
  | none => exact iff_of_true ⟨_, rfl⟩ (.inl fun schema h => nomatch h)
  | some schema =>
      dsimp only
      cases htypes : (schema.get? "types").bind Json.asArray? with
      | none =>
          refine iff_of_true ⟨_, rfl⟩ (.inr ⟨schema, rfl, fun types h => ?_⟩)
          rw [arrayAt_eq_some.mpr h] at htypes
          cases htypes
      | some types =>
          refine iff_of_false (fun ⟨e, he⟩ => (nomatch he)) ?_
          rintro (hnone | ⟨other, hother, hno⟩)
          · exact hnone schema rfl
          · cases hother
            exact hno types (arrayAt_eq_some.mp htypes)

/-- A name that no two types have is that of one at most. -/
theorem length_ofName_le (h : (types.filterMap nameOf?).Nodup) (name : String) :
    (ofName types name).length ≤ 1 := by
  have hcount := List.nodup_iff_count_le_one.mp h name
  rw [List.count_filterMap, List.countP_eq_length_filter] at hcount
  exact hcount

end Reading

section Steps

variable {index : SchemaIndex} {types types' : List Json} {schema schema' : Json}

theorem TypesEdit.fieldsOf_root (h : TypesEdit index types types') (htold : index.Told types)
    {root : Option String} (hroot : ∀ name, root = some name → index.IsRoot name) :
    fieldsOf types' root = fieldsOf types root := by
  cases root with
  | none => rfl
  | some name =>
      have hname := hroot name rfl
      exact (h.ofName_eq hname (htold name hname)).2

/-- A change to the types leaves the roots apart, and their fields as they are. -/
theorem IndexOf.types_edit (h : index.IndexOf schema types) (htold : index.Told types)
    (hedit : TypesEdit index types types')
    (hquery : schema'.get? "queryType" = schema.get? "queryType")
    (hmutation : schema'.get? "mutationType" = schema.get? "mutationType")
    (htypes : schema'.get? "types" = some (.arr types')) :
    index.IndexOf schema' types' ∧ index.Told types' where
  left := {
    listed := htypes
    queryType := by rw [h.queryType, rootName?, rootName?, hquery]
    mutationType := by rw [h.mutationType, mutationName?, mutationName?, hmutation]
    queryFields := h.queryFields.trans (hedit.fieldsOf_root htold fun _ => .inl).symm
    mutationFields := h.mutationFields.trans (hedit.fieldsOf_root htold fun _ => .inr).symm }
  right name hroot := (hedit.ofName_eq hroot (htold name hroot)).1

/-- A change leaves the index as it is. -/
theorem IndexOf.edit (h : index.IndexOf schema types) (htold : index.Told types)
    (hedit : Edit index schema schema') :
    ∃ types', index.IndexOf schema' types' ∧ index.Told types' := by
  cases hedit with
  | @types before after listed listed' hedit =>
      have hsame : ∀ key, key ≠ "types" →
          (Json.obj (before ++ ("types", .arr listed') :: after)).get? key =
            (Json.obj (before ++ ("types", .arr listed) :: after)).get? key := by
        intro key hkey
        rw [Json.get?_insert_of_ne hkey, Json.get?_insert_of_ne hkey]
      have htypes := h.listed
      rw [Json.get?_insert_self] at htypes
      cases hbefore : Json.Members.find? "types" before with
      | some v =>
          rw [hbefore, Option.some_or] at htypes
          refine ⟨types, h.types_edit htold (.permuted (.refl types)) (hsame _ (by decide))
            (hsame _ (by decide)) ?_⟩
          rw [Json.get?_insert_self, hbefore, Option.some_or, htypes]
      | none =>
          rw [hbefore, Option.none_or] at htypes
          cases htypes
          refine ⟨listed', h.types_edit htold hedit (hsame _ (by decide)) (hsame _ (by decide)) ?_⟩
          rw [Json.get?_insert_self, hbefore, Option.none_or]
  | @added before after key value hkey =>
      have hsame : ∀ other ∈ ["queryType", "mutationType", "types"],
          (Json.obj (before ++ (key, value) :: after)).get? other =
            (Json.obj (before ++ after)).get? other := by
        intro other hother
        refine Json.get?_insert_of_ne ?_
        rintro rfl
        exact hkey hother
      refine ⟨types, h.types_edit htold (.permuted (.refl types)) (hsame _ (by simp))
        (hsame _ (by simp)) ?_⟩
      rw [hsame _ (by simp), h.listed]

/-- So do any number of changes, one after the other. -/
theorem IndexOf.edits (h : index.IndexOf schema types) (htold : index.Told types)
    (hedits : Relation.ReflTransGen (Edit index) schema schema') :
    ∃ types', index.IndexOf schema' types' ∧ index.Told types' := by
  induction hedits with
  | refl => exact ⟨types, h, htold⟩
  | tail _ hedit ih =>
      obtain ⟨types', h', htold'⟩ := ih
      exact h'.edit htold' hedit

end Steps

/-- Whether a schema stands at the top or in the data of a response, it is the one that is read. -/
theorem selects_placed (schema : Json) : Selects (.obj [("__schema", schema)]) schema ∧
    Selects (.obj [("data", .obj [("__schema", schema)])]) schema := by
  refine ⟨.bare (fun data hdata => ?_) rfl, .wrapped rfl rfl⟩
  simp [Json.get?, Json.Members.find?] at hdata

/-- Where no two types have one name, changes without a meaning leave the index as it is, also in
the data of a response. There is no index if and only if the schema is missing, or has no list of
types. -/
theorem ofIntrospection_edits :
    (∀ (schema schema' : Json) (index : SchemaIndex),
      ofIntrospection (.obj [("__schema", schema)]) = .ok index → NamedApart schema →
      Relation.ReflTransGen (Edit index) schema schema' →
        ofIntrospection (.obj [("__schema", schema')]) = .ok index ∧
        ofIntrospection (.obj [("data", .obj [("__schema", schema')])]) = .ok index) ∧
    ∀ v, (∃ e, ofIntrospection v = .error e) ↔ (∀ schema, ¬ Selects v schema) ∨
      ∃ schema, Selects v schema ∧ ∀ types, schema.get? "types" ≠ some (.arr types) := by
  refine ⟨fun schema schema' index h hapart hedits => ?_, exists_error_iff⟩
  obtain ⟨read, types, hselects, hindex⟩ := ofIntrospection_eq_ok_iff.mp h
  have hread : some read = some schema :=
    (selects_iff.mp hselects).symm.trans (selects_iff.mp (selects_placed schema).1)
  cases hread
  have htold : index.Told types := fun name _ => length_ofName_le (hapart types hindex.listed) name
  obtain ⟨types', hindex', -⟩ := hindex.edits htold hedits
  obtain ⟨hbare, hwrapped⟩ := selects_placed schema'
  exact ⟨ofIntrospection_eq_ok_iff.mpr ⟨schema', types', hbare, hindex'⟩,
    ofIntrospection_eq_ok_iff.mpr ⟨schema', types', hwrapped, hindex'⟩⟩

def fieldNamed (name : String) : Json := .obj [("name", .str name)]

def typeNamed (name : String) (fields : List Json) : Json :=
  .obj [("name", .str name), ("fields", .arr fields)]

def noMutations (types : List Json) : Json := .obj [("mutationType", .null), ("types", .arr types)]

/-- A type of the name that a mutation type would have comes in, which is no root where that is
null, then a field without a name, one that stands there already, and another order. -/
theorem ofIntrospection_edits_noMutations :
    let a := fieldNamed "a"
    let index : SchemaIndex := ⟨some "Query", none, NameSet.ofNames ["a"], ∅⟩
    ofIntrospection (.obj [("__schema", noMutations [typeNamed "Query" [a]])]) = .ok index ∧
    ofIntrospection (.obj [("data", .obj [("__schema",
      noMutations [typeNamed "Mutation" [a], typeNamed "Query" [a, .null, a]])])]) =
      .ok index := by
  intro a index
  have hread : ofIntrospection
      (.obj [("__schema", noMutations [typeNamed "Query" [a]])]) = .ok index := rfl
  have hapart : NamedApart (noMutations [typeNamed "Query" [a]]) := by
    intro types htypes
    cases htypes
    decide
  have hlift : ∀ {types types' : List Json}, TypesEdit index types types' →
      Edit index (noMutations types) (noMutations types') := fun h =>
    @Edit.types index [("mutationType", .null)] [] _ _ h
  have hfields : ∀ {fields fields' : List Json}, FieldsEdit fields fields' →
      TypesEdit index [typeNamed "Query" fields, typeNamed "Mutation" [a]]
        [typeNamed "Query" fields', typeNamed "Mutation" [a]] := fun h =>
    @TypesEdit.fields index [] [typeNamed "Mutation" [a]] [("name", .str "Query")] [] _ _ h
  have hadded : TypesEdit index [typeNamed "Query" [a]]
      [typeNamed "Query" [a], typeNamed "Mutation" [a]] := by
    refine @TypesEdit.added index [typeNamed "Query" [a]] [] _ fun name hname => ?_
    cases hname
    simp [IsRoot, index]
  have hnameless : FieldsEdit [a] [a, .null] := @FieldsEdit.nameless [a] [] .null rfl
  have hrepeated : FieldsEdit [a, .null] [a, .null, a] :=
    @FieldsEdit.repeated [a, .null] [] a List.mem_cons_self
  have hedits := (((Relation.ReflTransGen.single (hlift hadded)).tail
    (hlift (hfields hnameless))).tail (hlift (hfields hrepeated))).tail
    (hlift (.permuted (.swap _ _ _)))
  exact ⟨hread, (ofIntrospection_edits.1 _ _ index hread hapart hedits).2⟩

end SchemaIndex

end BatchedGateway
