/- Putting a plain document together: each object type has its fields, and the root operations are
those of the schema definition or, without one, the object types that have the default names. -/
import BatchedGateway.Proofs.Sdl.Grammar
import BatchedGateway.Proofs.Sorted
import BatchedGateway.Sdl.Assembly

namespace BatchedGateway.Sdl
open Outcome

/-- The definition of an object type with its fields. -/
def objectOf (t : String × List String) : Definition := .type ⟨.object, t.1, [], t.2⟩

/-- A document of object types, with or without a schema definition. -/
def document (roots : Option Roots) (types : List (String × List String)) : List Definition :=
  roots.toList.map .schema ++ types.map objectOf

theorem plain_document {roots : Option Roots} {types : List (String × List String)}
    (hroots : ∀ rs, roots = some rs → rs ≠ []) (hfields : ∀ t ∈ types, t.2 ≠ []) :
    ∀ d ∈ document roots types, d.Plain := by
  intro d hd
  rcases List.mem_append.mp hd with hd | hd
  · obtain ⟨rs, hrs, rfl⟩ := List.mem_map.mp hd
    exact .schema (hroots rs (Option.mem_toList.mp hrs))
  · obtain ⟨t, ht, rfl⟩ := List.mem_map.mp hd
    exact .object t.1 (hfields t ht)

namespace Assembly

section Plain

variable {ds : List Definition} (hplain : ∀ d ∈ ds, d.Plain)
include hplain

theorem checkDirectives_plain (seen : List String) : checkDirectives seen ds = .ok () := by
  induction ds with
  | nil => rfl
  | cons d rest ih =>
      have hrest := ih fun d hd => hplain d (List.mem_cons_of_mem _ hd)
      cases hplain d List.mem_cons_self <;> exact hrest

theorem extendTypes_plain (types : SortedMap String TypeEntry) :
    extendTypes types ds = .ok types := by
  induction ds with
  | nil => rfl
  | cons d rest ih =>
      have hrest := ih fun d hd => hplain d (List.mem_cons_of_mem _ hd)
      cases hplain d List.mem_cons_self <;> exact hrest

theorem schemaExtensions_plain : schemaExtensions ds = [] := by
  rw [schemaExtensions, List.filterMap_eq_nil_iff]
  intro d hd
  cases hplain d hd <;> rfl

end Plain

theorem schemas_document (roots : Option Roots) (types : List (String × List String)) :
    schemas (document roots types) = roots.toList := by
  have htypes : schemas (types.map objectOf) = [] := by
    rw [schemas, List.filterMap_map, List.filterMap_eq_nil_iff]
    exact fun t _ => rfl
  have hschemas : ∀ rs : List Roots, schemas (rs.map .schema) = rs := by
    intro rs
    rw [schemas, List.filterMap_map]
    exact List.filterMap_some
  rw [document, schemas, List.filterMap_append]
  rw [schemas] at htypes
  rw [htypes, List.append_nil]
  exact hschemas roots.toList

theorem addNames_eq_ok (owner : String) (present : List String) {names : List String}
    (h : (present ++ names).Nodup) : addNames owner present names = .ok (present ++ names) := by
  induction names generalizing present with
  | nil => simp [addNames]
  | cons n rest ih =>
      have hnew : n ∉ present := fun hmem =>
        (List.nodup_append.mp h).2.2 n hmem n List.mem_cons_self rfl
      have hsame : present ++ n :: rest = present ++ [n] ++ rest := by simp
      rw [addNames, if_neg (by simpa using hnew), hsame]
      exact ih _ (hsame ▸ h)

/-- A table after object types were entered. -/
def enter (table : SortedMap String TypeEntry) (types : List (String × List String)) :
    SortedMap String TypeEntry :=
  types.foldl (fun table t => table.insert t.1 (object t.2)) table

variable {table : SortedMap String TypeEntry} {types : List (String × List String)}

theorem get?_enter (hdistinct : (types.map (·.1)).Nodup) (n : String) :
    (enter table types).get? n =
      ((types.find? (·.1 == n)).map fun t => object t.2).or (table.get? n) := by
  induction types generalizing table with
  | nil => rfl
  | cons t rest ih =>
      obtain ⟨hfirst, hrest⟩ := List.nodup_cons.mp hdistinct
      have hstep : enter table (t :: rest) = enter (table.insert t.1 (object t.2)) rest := rfl
      rw [hstep, ih hrest, SortedMap.get?_insert]
      by_cases hn : t.1 = n
      · have hnone : rest.find? (·.1 == n) = none := by
          rw [List.find?_eq_none]
          intro other hother
          simpa using fun heq => hfirst (List.mem_map.mpr ⟨other, hother, heq.trans hn.symm⟩)
        rw [hnone, List.find?_cons_of_pos (by simpa using hn), if_pos hn.symm]
        rfl
      · rw [List.find?_cons_of_neg (by simpa using hn), if_neg (Ne.symm hn)]

theorem defineTypes_objects (hdistinct : (types.map (·.1)).Nodup)
    (hnew : ∀ t ∈ types, table.get? t.1 = none) (hfields : ∀ t ∈ types, t.2.Nodup) :
    defineTypes table (types.map objectOf) = .ok (enter table types) := by
  induction types generalizing table with
  | nil => rfl
  | cons t rest ih =>
      obtain ⟨hfirst, hrest⟩ := List.nodup_cons.mp hdistinct
      have hpart : addPart ⟨.object, t.1, [], t.2⟩ ⟨.object, [], []⟩ = .ok (object t.2) := by
        have hmembers := addNames_eq_ok t.1 [] (hfields t List.mem_cons_self)
        simp [addPart, addNames, hmembers, object]
      have hothers : ∀ other ∈ rest, (table.insert t.1 (object t.2)).get? other.1 = none := by
        intro other hother
        have hne : other.1 ≠ t.1 := fun heq => hfirst (List.mem_map.mpr ⟨other, hother, heq⟩)
        rw [SortedMap.get?_insert, if_neg hne]
        exact hnew other (List.mem_cons_of_mem _ hother)
      have hcontains : table.contains t.1 = false := by
        rw [SortedMap.contains, hnew t List.mem_cons_self]
        rfl
      rw [List.map_cons, objectOf, defineTypes]
      simp only [hcontains, Bool.false_eq_true, if_false, hpart, ok_bind]
      exact ih hrest hothers fun other hother => hfields other (List.mem_cons_of_mem _ hother)

theorem addRoots_eq_ok (present : Roots) {roots : Roots}
    (h : ((present ++ roots).map (·.1)).Nodup) :
    addRoots present roots = .ok (present ++ roots) := by
  induction roots generalizing present with
  | nil => simp [addRoots]
  | cons r rest ih =>
      have hnone : present.lookup r.1 = none := by
        rw [List.map_append] at h
        rw [List.lookup_eq_none_iff]
        intro p hp
        have hne := (List.nodup_append.mp h).2.2 p.1 (List.mem_map_of_mem hp) r.1
          (List.mem_map_of_mem List.mem_cons_self)
        simpa using hne.symm
      have hsame : present ++ r :: rest = present ++ [r] ++ rest := by simp
      rw [addRoots, hnone, if_neg (by simp), hsame]
      exact ih _ (hsame ▸ h)

theorem rootsOf_document {roots : Option Roots} (hplain : ∀ d ∈ document roots types, d.Plain)
    (hroots : ∀ rs, roots = some rs → (rs.map (·.1)).Nodup) :
    rootsOf table (document roots types) = .ok (roots.getD (implicitRoots table)) := by
  have hextensions := schemaExtensions_plain hplain
  have hschemas := schemas_document roots types
  cases roots with
  | none => simp [rootsOf, hschemas, hextensions]
  | some rs =>
      have hbase := addRoots_eq_ok [] (hroots rs rfl)
      simp [rootsOf, hschemas, hextensions, hbase]

/-- A type of the table is an object type. -/
def isObject (table : SortedMap String TypeEntry) (n : String) : Bool :=
  (table.get? n).any (·.kind = .object)

theorem lookup_implicitRoots (table : SortedMap String TypeEntry) :
    (implicitRoots table).lookup .query =
        (if isObject table "Query" then some "Query" else none) ∧
      (implicitRoots table).lookup .mutation =
        if isObject table "Mutation" then some "Mutation" else none := by
  have hfilter : implicitRoots table =
      [(.query, "Query"), (.mutation, "Mutation"), (.subscription, "Subscription")].filter
        fun root => isObject table root.2 := rfl
  rw [hfilter]
  simp only [List.filter_cons, List.filter_nil]
  cases isObject table "Query" <;> cases isObject table "Mutation" <;>
    cases isObject table "Subscription" <;> exact ⟨rfl, rfl⟩

/-- The names of the scalars that every schema has. -/
def scalarNames : List String := ["Int", "Float", "String", "Boolean", "ID"]

/-- Every built-in type is a scalar, or has a name with two underscores in front. -/
theorem get?_builtIn {n : String} (hscalar : n ∉ scalarNames)
    (hown : n.toList.take 2 ≠ ['_', '_']) : builtIn.get? n = none := by
  have hkeys : ∀ k ∈ builtIn.keys, k ∈ scalarNames ∨ k.toList.take 2 = ['_', '_'] := by
    decide +kernel
  cases h : builtIn.get? n with
  | none => rfl
  | some entry =>
      have hkey : n ∈ builtIn.keys :=
        List.mem_map.mpr ⟨(n, entry), SortedMap.mem_entries.mpr h, rfl⟩
      rcases hkeys n hkey with hscalar' | hown'
      · exact absurd hscalar' hscalar
      · exact absurd hown' hown

end Assembly

/-- Types of a document that can be put together: their names are distinct and new, and so are the
names of the fields of each. -/
structure Composable (types : List (String × List String)) : Prop where
  distinct : (types.map (·.1)).Nodup
  own : ∀ t ∈ types, Assembly.builtIn.get? t.1 = none
  nonempty : ∀ t ∈ types, t.2 ≠ []
  fields : ∀ t ∈ types, t.2.Nodup

/-- The fields that a list of types gives under a name. -/
def fieldsIn (types : List (String × List String)) (n : String) : List String :=
  ((types.find? (·.1 == n)).map (·.2)).getD []

namespace Composable

variable {types : List (String × List String)} {roots : Option Roots}

theorem assemble_document (h : Composable types) (hroots : ∀ rs, roots = some rs →
    rs ≠ [] ∧ (rs.map (·.1)).Nodup) :
    assemble (document roots types) = .ok ⟨Assembly.enter Assembly.builtIn types,
      roots.getD (Assembly.implicitRoots (Assembly.enter Assembly.builtIn types))⟩ := by
  have hplain := plain_document (fun rs hrs => (hroots rs hrs).1) h.nonempty
  have htypes : Assembly.defineTypes Assembly.builtIn (document roots types) =
      .ok (Assembly.enter Assembly.builtIn types) := by
    have hobjects := Assembly.defineTypes_objects h.distinct h.own h.fields
    cases roots with
    | none => exact hobjects
    | some rs => exact hobjects
  rw [assemble, Assembly.checkDirectives_plain hplain, ok_bind, htypes, ok_bind,
    Assembly.extendTypes_plain hplain, ok_bind,
    Assembly.rootsOf_document hplain fun rs hrs => (hroots rs hrs).2, ok_bind]

theorem get?_enter (h : Composable types) {n : String} (hn : n ∈ types.map (·.1)) :
    (Assembly.enter Assembly.builtIn types).get? n = some (Assembly.object (fieldsIn types n)) := by
  obtain ⟨t, ht, rfl⟩ := List.mem_map.mp hn
  have hfound : (types.find? (·.1 == t.1)).isSome := by
    rw [List.find?_isSome]
    exact ⟨t, ht, by simp⟩
  obtain ⟨t', ht'⟩ := Option.isSome_iff_exists.mp hfound
  rw [Assembly.get?_enter h.distinct, fieldsIn, ht']
  rfl

theorem get?_enter_of_not_mem (h : Composable types) {n : String} (hn : n ∉ types.map (·.1)) :
    (Assembly.enter Assembly.builtIn types).get? n = Assembly.builtIn.get? n := by
  have hnone : types.find? (·.1 == n) = none := by
    rw [List.find?_eq_none]
    intro t ht
    simpa using fun heq => hn (List.mem_map.mpr ⟨t, ht, heq⟩)
  rw [Assembly.get?_enter h.distinct, hnone]
  rfl

end Composable

end BatchedGateway.Sdl
