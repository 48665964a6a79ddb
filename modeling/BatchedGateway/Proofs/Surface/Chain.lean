/- Surfaces as they are laid out: what stands on one, in what order, how its resources hang
together, and what is said about the operations that are not on it. -/
import BatchedGateway.Proofs.Surface.Strict
import Mathlib.Data.List.Forall2
import Mathlib.Data.List.Induction
import Mathlib.Data.List.Nodup

namespace BatchedGateway

/-- The resources that are passed on the way back from a resource along what each depends on. The
way ends at one that depends on nothing. -/
inductive Visits (resources : List Resource) : Resource → List Resource → Prop
  | stop {r : Resource} (h : r.dependsOn = none) : Visits resources r [r]
  | go {r before : Resource} {way : List Resource} (h : r.dependsOn = some before.operation)
      (hmem : before ∈ resources) (hway : Visits resources before way) :
      Visits resources r (r :: way)

/-- Each resource depends on the one right before it, and the first on none. -/
def Linked (resources : List Resource) : Prop :=
  ∀ front r back, resources = front ++ r :: back →
    r.dependsOn = front.getLast?.map (·.operation)

section Links

variable {resources front back way : List Resource} {r other last : Resource}

theorem eq_of_operation_eq (hdistinct : (resources.map (·.operation)).Nodup)
    (hr : r ∈ resources) (hother : other ∈ resources) (h : r.operation = other.operation) :
    r = other :=
  List.inj_on_of_nodup_map hdistinct hr hother h

/-- From any resource there is one way back, over all resources before it. -/
theorem Linked.visits_iff (hlinked : Linked resources)
    (hdistinct : (resources.map (·.operation)).Nodup) (hcut : resources = front ++ r :: back) :
    Visits resources r way ↔ way = (front ++ [r]).reverse := by
  induction front using List.reverseRecOn generalizing r back way with
  | nil =>
      have hnone : r.dependsOn = none := hlinked [] r back hcut
      constructor
      · intro h
        cases h with
        | stop => rfl
        | go h => cases hnone.symm.trans h
      · rintro rfl
        exact .stop hnone
  | append_singleton front before ih =>
      have hbefore : r.dependsOn = some before.operation := by
        simpa using hlinked _ r back hcut
      have hcut' : resources = front ++ before :: r :: back := by simpa using hcut
      have hmem : before ∈ resources := by simp [hcut']
      constructor
      · intro h
        cases h with
        | stop h => cases hbefore.symm.trans h
        | @go _ other way h hother hway =>
            have hsame := Option.some.inj (hbefore.symm.trans h)
            obtain rfl := eq_of_operation_eq hdistinct hmem hother hsame
            rw [(ih hcut').mp hway]
            simp
      · rintro rfl
        have hway := (ih hcut').mpr rfl
        simpa using Visits.go hbefore hmem hway

/-- The way back from the last resource is the list in reverse. -/
theorem Linked.visits_last_iff (hlinked : Linked resources)
    (hdistinct : (resources.map (·.operation)).Nodup) (hlast : resources.getLast? = some last) :
    Visits resources last way ↔ way = resources.reverse := by
  obtain ⟨front, hfront⟩ := List.getLast?_eq_some_iff.mp hlast
  rw [hlinked.visits_iff hdistinct hfront, ← hfront]

end Links

namespace Planner

variable (p : Planner)

/-- An operation has a field and templates. -/
def serves (op : Operation) : Bool := op.hasField && (p.templates.get? op.id).isSome

/-- There is a directory for the resolver of an operation. -/
def hasDirectory (op : Operation) : Bool := (p.resolverPath op).any p.isDirectory

/-- A resource takes from an operation all that it says of one, and calls the backend with the
templates of that operation. -/
structure MadeOf (op : Operation) (r : Resource) : Prop where
  operation : r.operation = op.id
  pathPart : r.pathPart = op.id
  method : r.method = op.method
  descriptionPath : r.descriptionPath = op.path
  role : r.integration.role = op.role
  field : r.integration.field = op.field
  target : r.integration.target = p.options.backendUrl
  templates : p.templates.get? op.id =
    some ⟨r.integration.requestTemplate, r.integration.responseTemplate⟩

/-- A binding puts the directory of an operation on the root type for its role. -/
structure BoundTo (op : Operation) (b : ResolverBinding) : Prop where
  operation : b.operation = op.id
  typeName : b.typeName = p.rootType op.role
  field : b.field = op.field
  directory : p.resolverPath op = some b.directory
  isDirectory : p.isDirectory b.directory = true

/-- Why an operation is not on a surface. -/
def warningFor (op : Operation) : Diagnostic :=
  if op.hasField then noTemplates op else blankField op

/-- A surface holds the operations of a batch that can be served, in their order and linked, and the
resolvers of those that have a field, whatever templates there are. -/
structure LaidOut (batch : Batch Operation) (name : String) (s : Surface) : Prop where
  index : s.index = batch.index
  named : s.name = name
  resources : List.Forall₂ p.MadeOf (batch.operations.filter p.serves) s.resources
  linked : Linked s.resources
  way : (batch.operations.map (·.id)).Nodup → ∀ last ∈ s.resources.getLast?, ∀ way,
    Visits s.resources last way ↔ way = s.resources.reverse
  resolvers : List.Forall₂ p.BoundTo
    (batch.operations.filter fun op => op.hasField && p.hasDirectory op) s.resolvers
  anyTemplates : ∀ templates : Templates, ∃ other warnings,
    ({ p with templates }.withStrict false).plan batch name = (.ok other, warnings) ∧
      other.resolvers = s.resolvers

variable {p} {op : Operation} {ops front back : List Operation} {batch : Batch Operation}
  {name : String}

theorem linked_chain {before : Option Resource} {routes : List (Operation × TemplatePair)}
    {front back : List Resource} {r : Resource}
    (h : p.chain before routes = front ++ r :: back) :
    r.dependsOn = (front.getLast?.or before).map (·.operation) := by
  induction routes generalizing before front with
  | nil => simp [chain] at h
  | cons route rest ih =>
      rw [chain] at h
      cases front with
      | nil =>
          obtain ⟨rfl, -⟩ := List.cons.inj h
          rfl
      | cons first front =>
          obtain ⟨rfl, hrest⟩ := List.cons.inj h
          rw [ih hrest]
          cases hlast : front.getLast? with
          | none => simp [List.getLast?_cons, hlast]
          | some last => simp [List.getLast?_cons, hlast]

theorem linked_surfaceOf (batch : Batch Operation) (name : String) :
    Linked (p.surfaceOf batch name).resources := by
  intro front r back h
  rw [linked_chain h, Option.or_none]

theorem madeOf_chain {before : Option Resource} {routes : List (Operation × TemplatePair)}
    (h : ∀ route ∈ routes, p.templates.get? route.1.id = some route.2) :
    List.Forall₂ p.MadeOf (routes.map (·.1)) (p.chain before routes) := by
  induction routes generalizing before with
  | nil => exact .nil
  | cons route rest ih =>
      obtain ⟨hroute, hrest⟩ := List.forall_mem_cons.mp h
      exact .cons ⟨rfl, rfl, rfl, rfl, rfl, rfl, rfl, hroute⟩ (ih hrest)

theorem madeOf_surfaceOf (batch : Batch Operation) (name : String) :
    List.Forall₂ p.MadeOf (batch.operations.filter p.serves)
      (p.surfaceOf batch name).resources := by
  have h : List.Forall₂ p.MadeOf ((p.routed batch.operations).map (·.1))
      (p.chain none (p.routed batch.operations)) :=
    madeOf_chain fun route hroute => (pairFor_eq_some.mp (mem_routed.mp hroute).2).2
  rwa [map_routed] at h

theorem resolver_cases (op : Operation) :
    (p.hasDirectory op = true ∧ ∃ b, p.resolver op = some b ∧ p.BoundTo op b) ∨
      (p.hasDirectory op = false ∧ p.resolver op = none) := by
  rw [hasDirectory, resolver]
  cases hpath : p.resolverPath op with
  | none => exact .inr ⟨rfl, rfl⟩
  | some path =>
      by_cases hdirectory : p.isDirectory path = true
      · refine .inl ⟨hdirectory, ⟨op.id, p.rootType op.role, op.field, path⟩, ?_, ?_⟩
        · simp [hdirectory]
        · exact ⟨rfl, rfl, rfl, hpath, hdirectory⟩
      · exact .inr ⟨by simpa using hdirectory, by simp [hdirectory]⟩

theorem boundTo_bindings (ops : List Operation) :
    List.Forall₂ p.BoundTo (ops.filter fun op => op.hasField && p.hasDirectory op)
      (p.bindings ops) := by
  induction ops with
  | nil => exact .nil
  | cons op rest ih =>
      rw [List.filter_cons]
      by_cases hfield : op.hasField = true
      · rw [bindings_cons_of_field hfield, hfield, Bool.true_and]
        rcases resolver_cases (p := p) op with ⟨hdirectory, b, hresolver, hbound⟩ |
          ⟨hdirectory, hresolver⟩
        · rw [if_pos hdirectory, hresolver]
          exact .cons hbound ih
        · rw [if_neg (by simp [hdirectory]), hresolver]
          exact ih
      · rw [bindings_cons_of_blank (by simpa using hfield), if_neg (by simp [hfield])]
        exact ih

theorem skipped_eq (op : Operation) :
    p.skipped op = if !p.serves op then some (warningFor op) else none := by
  rw [skipped, serves, warningFor]
  split
  · cases p.templates.get? op.id <;> simp [*]
  · simp [*]

theorem filterMap_skipped (ops : List Operation) :
    ops.filterMap p.skipped = (ops.filter fun op => !p.serves op).map warningFor := by
  rw [← List.filterMap_eq_map, List.filterMap_filter]
  exact List.filterMap_congr fun op _ => skipped_eq op

theorem plan_lenient (p : Planner) (batch : Batch Operation) (name : String) :
    (p.withStrict false).plan batch name = (.ok (p.surfaceOf batch name),
      (batch.operations.filter fun op => !p.serves op).map warningFor) := by
  have hgoes : ∀ op ∈ batch.operations, (p.withStrict false).stops op = false :=
    fun op _ => stops_withStrict op
  rw [plan_eq_ok hgoes, surfaceOf_withStrict, filterMap_skipped]
  rfl

theorem laidOut_surfaceOf (batch : Batch Operation) (name : String) :
    p.LaidOut batch name (p.surfaceOf batch name) where
  index := rfl
  named := rfl
  resources := madeOf_surfaceOf batch name
  linked := linked_surfaceOf batch name
  way hids last hlast way := by
    refine (linked_surfaceOf batch name).visits_last_iff ?_ hlast
    have hsublist := routedIds_sublist (p := p) batch.operations
    rw [← operations_surfaceOf batch name] at hsublist
    exact hsublist.nodup hids
  resolvers := boundTo_bindings batch.operations
  anyTemplates templates := ⟨_, _, plan_lenient _ batch name, rfl⟩

/-- Among operations that do not lack templates only those with a blank field are not served. -/
theorem skipped_of_not_lacks (h : ∀ op ∈ ops, p.lacks op = false) :
    ops.filterMap p.skipped = (ops.filter (!·.hasField)).map blankField := by
  rw [← List.filterMap_eq_map, List.filterMap_filter]
  refine List.filterMap_congr fun op hop => ?_
  have hlacks := h op hop
  rw [lacks] at hlacks
  cases hfield : op.hasField with
  | false => simpa using (passedOver_of_blank hfield).2.2
  | true =>
      rw [hfield, Bool.true_and, Option.isNone_eq_false_iff, Option.isSome_iff_exists] at hlacks
      obtain ⟨pair, hpair⟩ := hlacks
      simpa using (routed_of_pair hfield hpair).2.2

/-- Where an operation lacks templates, strict planning ends, and of those before it only those with
a blank field are spoken of. -/
theorem plan_strict_of_lacks (name : String) (hcut : batch.operations = front ++ op :: back)
    (hfront : ∀ x ∈ front, p.lacks x = false) (hop : p.lacks op = true) :
    (p.withStrict true).plan batch name = (.error (.missingTemplate op.id),
      (front.filter (!·.hasField)).map blankField) := by
  have hstops : (p.withStrict true).stops = p.lacks := by
    funext op
    rw [stops_withStrict, Bool.true_and]
  have hfind : batch.operations.find? (p.withStrict true).stops = some op := by
    rw [hstops, List.find?_eq_some_iff_append]
    exact ⟨hop, front, back, hcut, by simpa using hfront⟩
  have htake : (batch.operations.takeWhile fun op => !(p.withStrict true).stops op) = front := by
    rw [hstops, hcut, List.takeWhile_append_of_pos (by simpa using hfront),
      List.takeWhile_cons_of_neg (by simp [hop]), List.append_nil]
  rw [plan_eq_error hfind, htake, skipped_of_not_lacks (p := p.withStrict true) hfront]

/-- What is said about a batch comes after all that was said before. -/
theorem diagnostics_materialize (p : Planner) (provision : Provisioner) (batch : Batch Operation)
    (name : String) (s : Progress) : (materialize p provision batch name s).2.diagnostics =
      s.diagnostics ++ (p.plan batch name).2 := by
  rw [materialize]
  cases p.plan batch name with
  | mk planned warnings =>
      cases planned with
      | error e => rfl
      | ok surface =>
          dsimp only
          split
          · rfl
          · split
            · rfl
            · split <;> rfl

/-- Out of strict mode every batch is laid out, with one warning for each operation that is not
served. Strict mode differs only where an operation with a field lacks templates: then the first
such operation is the error, and the warnings are those about blank fields before it. In both modes
the warnings come after all that was said before. -/
theorem plan_lays_out (p : Planner) (batch : Batch Operation) (name : String) :
    (∃ surface, p.LaidOut batch name surface ∧ (p.withStrict false).plan batch name =
      (.ok surface, (batch.operations.filter fun op => !p.serves op).map warningFor)) ∧
    ((∀ op ∈ batch.operations, p.lacks op = false) →
      (p.withStrict true).plan batch name = (p.withStrict false).plan batch name) ∧
    (∀ front op back, batch.operations = front ++ op :: back →
      (∀ x ∈ front, p.lacks x = false) → p.lacks op = true →
      (p.withStrict true).plan batch name = (.error (.missingTemplate op.id),
        (front.filter (!·.hasField)).map blankField)) ∧
    ∀ strict provision s, (materialize (p.withStrict strict) provision batch name s).2.diagnostics =
      s.diagnostics ++ ((p.withStrict strict).plan batch name).2 := by
  refine ⟨⟨p.surfaceOf batch name, laidOut_surfaceOf batch name, plan_lenient p batch name⟩,
    plan_withStrict true, ?_, ?_⟩
  · intro front op back hcut hfront hop
    exact plan_strict_of_lacks name hcut hfront hop
  · intro strict provision s
    exact diagnostics_materialize _ provision batch name s

/-- A planner with templates for three ids, in front of directories for all. -/
def threeTemplates : Planner where
  templates := SortedMap.ofList [("a", ⟨"in", "out"⟩), ("b", ⟨"in", "out"⟩), ("d", ⟨"in", "out"⟩)]
  options := { resolverDir := some "r" }
  isDirectory := fun _ => true

/-- Four operations, the second with a blank field and the third without templates. -/
def gapped : Batch Operation where
  index := 2
  operations := [⟨"a", "/a", .get, "a", .query⟩, ⟨"b", "/b", .get, " ", .query⟩,
    ⟨"c", "/c", .put, "c", .mutation⟩, ⟨"d", "/d", .post, "d", .mutation⟩]

/-- The links go over the gap, the resolver is bound without templates, and strict mode stops at the
third operation. -/
theorem plan_lays_out_gapped :
    ∃ surface, threeTemplates.LaidOut gapped "n" surface ∧
      surface.resources.map (fun r => (r.operation, r.dependsOn)) =
        [("a", none), ("d", some "a")] ∧
      surface.resolvers.map (·.directory) = ["r/a", "r/c", "r/d"] ∧
      ((threeTemplates.withStrict true).plan gapped "n").1 = .error (.missingTemplate "c") ∧
      ((threeTemplates.withStrict true).plan gapped "n").2 =
        [blankField ⟨"b", "/b", .get, " ", .query⟩] := by
  obtain ⟨⟨surface, hlaid, hplan⟩, -, hstrict, -⟩ := plan_lays_out threeTemplates gapped "n"
  have hends := hstrict (gapped.operations.take 2) ⟨"c", "/c", .put, "c", .mutation⟩
    (gapped.operations.drop 3) (by decide) (by decide +kernel) (by decide +kernel)
  have hsurface : surface = threeTemplates.surfaceOf gapped "n" := by
    rw [plan_lenient] at hplan
    exact (Except.ok.inj (Prod.mk.inj hplan).1).symm
  refine ⟨surface, hlaid, ?_, ?_, ?_, ?_⟩
  · rw [hsurface]
    decide +kernel
  · rw [hsurface]
    decide +kernel
  · rw [hends]
  · rw [hends]
    decide +kernel

end Planner

end BatchedGateway
