/- The surface of a batch: which operations get a resource, and what stops the planning. -/
import BatchedGateway.Proofs.Outcome
import BatchedGateway.Surface.Plan

namespace BatchedGateway.Planner
open Outcome

variable (p : Planner)

/-- The templates an operation is routed with, if it is routed at all. -/
def pairFor (op : Operation) : Option TemplatePair :=
  if op.hasField then p.templates.get? op.id else none

/-- The operations that get a route, each with its templates. -/
def routed (ops : List Operation) : List (Operation × TemplatePair) :=
  ops.filterMap fun op => (p.pairFor op).map (op, ·)

/-- The ids that get a route. -/
def routedIds (ops : List Operation) : List String := (p.routed ops).map (·.1.id)

/-- The resources of routed operations; each one knows the resource before it. -/
def chain : Option Resource → List (Operation × TemplatePair) → List Resource
  | _, [] => []
  | before, (op, pair) :: rest =>
      let resource := p.resource op pair before
      resource :: chain (some resource) rest

def bindings (ops : List Operation) : List ResolverBinding :=
  (ops.filter (·.hasField)).filterMap p.resolver

/-- The operation that a resource was made of. -/
def sourceOf (r : Resource) : Operation :=
  ⟨r.operation, r.descriptionPath, r.method, r.integration.field, r.integration.role⟩

/-- The warning about an operation that gets no route. -/
def skipped (op : Operation) : Option Diagnostic :=
  if op.hasField then
    match p.templates.get? op.id with
    | some _ => none
    | none => some (noTemplates op)
  else some (blankField op)

/-- In strict mode an operation with a field and without templates ends the planning. -/
def stops (op : Operation) : Bool :=
  p.options.strictTemplates && op.hasField && (p.templates.get? op.id).isNone

/-- The surface of a batch that is planned to its end. -/
def surfaceOf (batch : Batch Operation) (name : String) : Surface :=
  ⟨batch.index, name, p.chain none (p.routed batch.operations), p.bindings batch.operations⟩

variable {p} {draft : Draft} {op : Operation} {ops rest : List Operation}

section Lists

theorem pairFor_eq_some {pair : TemplatePair} :
    p.pairFor op = some pair ↔ op.hasField = true ∧ p.templates.get? op.id = some pair := by
  rw [pairFor]
  split <;> simp [*]

theorem routed_cons_none (h : p.pairFor op = none) : p.routed (op :: rest) = p.routed rest := by
  simp [routed, h]

theorem routed_cons_some {pair : TemplatePair} (h : p.pairFor op = some pair) :
    p.routed (op :: rest) = (op, pair) :: p.routed rest := by
  simp [routed, h]

theorem mem_routed {pair : TemplatePair} :
    (op, pair) ∈ p.routed ops ↔ op ∈ ops ∧ p.pairFor op = some pair := by
  simp [routed]

/-- An id gets a route if an operation of that id is there that can be served. -/
theorem mem_routedIds {id : String} :
    id ∈ p.routedIds ops ↔
      ∃ op ∈ ops, op.id = id ∧ op.hasField = true ∧ (p.templates.get? id).isSome = true := by
  constructor
  · intro h
    obtain ⟨⟨op, pair⟩, hmem, rfl⟩ := List.mem_map.mp h
    obtain ⟨hop, hpair⟩ := mem_routed.mp hmem
    obtain ⟨hfield, hsome⟩ := pairFor_eq_some.mp hpair
    exact ⟨op, hop, rfl, hfield, by rw [hsome]; rfl⟩
  · rintro ⟨op, hop, rfl, hfield, hsome⟩
    obtain ⟨pair, hpair⟩ := Option.isSome_iff_exists.mp hsome
    have hmem := mem_routed.mpr ⟨hop, pairFor_eq_some.mpr ⟨hfield, hpair⟩⟩
    exact List.mem_map.mpr ⟨(op, pair), hmem, rfl⟩

@[simp] theorem routedIds_append (ops rest : List Operation) :
    p.routedIds (ops ++ rest) = p.routedIds ops ++ p.routedIds rest := by
  simp [routedIds, routed]

theorem map_routed (ops : List Operation) : (p.routed ops).map (·.1) =
    ops.filter fun op => op.hasField && (p.templates.get? op.id).isSome := by
  induction ops with
  | nil => rfl
  | cons op rest ih =>
      cases hpair : p.pairFor op with
      | some pair =>
          obtain ⟨hfield, htemplates⟩ := pairFor_eq_some.mp hpair
          rw [routed_cons_some hpair, List.map_cons, ih,
            List.filter_cons_of_pos (by simp [hfield, htemplates])]
      | none =>
          have hnot : ¬ (op.hasField && (p.templates.get? op.id).isSome) = true := by
            intro hboth
            obtain ⟨hfield, hsome⟩ := Bool.and_eq_true_iff.mp hboth
            rw [pairFor, if_pos hfield] at hpair
            rw [hpair] at hsome
            cases hsome
          rw [routed_cons_none hpair, ih, List.filter_cons, if_neg hnot]

theorem routedIds_eq (ops : List Operation) : p.routedIds ops =
    (ops.filter fun op => op.hasField && (p.templates.get? op.id).isSome).map (·.id) := by
  rw [← map_routed, List.map_map]
  rfl

/-- The ids that get a route keep the order of the operations. -/
theorem routedIds_sublist (ops : List Operation) :
    (p.routedIds ops).Sublist (ops.map (·.id)) := by
  rw [routedIds_eq]
  exact List.filter_sublist.map _

theorem operation_chain (before : Option Resource) (routes : List (Operation × TemplatePair)) :
    (p.chain before routes).map (·.operation) = routes.map (·.1.id) := by
  induction routes generalizing before with
  | nil => rfl
  | cons route rest ih => rw [chain, List.map_cons, ih, List.map_cons]; rfl

theorem sourceOf_chain (before : Option Resource) (routes : List (Operation × TemplatePair)) :
    (p.chain before routes).map sourceOf = routes.map (·.1) := by
  induction routes generalizing before with
  | nil => rfl
  | cons route rest ih => rw [chain, List.map_cons, ih, List.map_cons]; rfl

theorem pathPart_of_mem_chain {before : Option Resource}
    {routes : List (Operation × TemplatePair)} {r : Resource} (h : r ∈ p.chain before routes) :
    r.pathPart = r.operation := by
  induction routes generalizing before with
  | nil => cases h
  | cons route rest ih =>
      rcases List.mem_cons.mp h with rfl | h
      · rfl
      · exact ih h

theorem operations_surfaceOf (batch : Batch Operation) (name : String) :
    (p.surfaceOf batch name).operations = p.routedIds batch.operations :=
  operation_chain none _

/-- A surface has a resource for each operation that can be served, in their order. -/
theorem sources_surfaceOf (batch : Batch Operation) (name : String) :
    (p.surfaceOf batch name).resources.map sourceOf =
      batch.operations.filter fun op => op.hasField && (p.templates.get? op.id).isSome :=
  (sourceOf_chain none _).trans (map_routed _)

/-- The resources of a surface are made of operations of its batch, and of such as have a field. -/
theorem sourceOf_mem {batch : Batch Operation} {name : String} {r : Resource}
    (h : r ∈ (p.surfaceOf batch name).resources) :
    sourceOf r ∈ batch.operations ∧ (sourceOf r).hasField = true := by
  have hsource := List.mem_map_of_mem (f := sourceOf) h
  rw [sources_surfaceOf, List.mem_filter, Bool.and_eq_true] at hsource
  exact ⟨hsource.1, hsource.2.1⟩

theorem mem_bindings {b : ResolverBinding} :
    b ∈ p.bindings ops ↔ ∃ op ∈ ops, op.hasField = true ∧ p.resolver op = some b := by
  simp only [bindings, List.mem_filterMap, List.mem_filter, and_assoc]

/-- A resolver serves the field of its operation on the root type for its role. -/
theorem resolver_eq_some {b : ResolverBinding} (h : p.resolver op = some b) :
    b.operation = op.id ∧ b.typeName = p.rootType op.role ∧ b.field = op.field := by
  obtain ⟨path, -, hpath⟩ := Option.bind_eq_some_iff.mp h
  split at hpath
  · cases hpath
    exact ⟨rfl, rfl, rfl⟩
  · cases hpath

theorem surfaceOf_isEmpty (batch : Batch Operation) (name : String) :
    (p.surfaceOf batch name).resources.isEmpty = (p.routedIds batch.operations).isEmpty := by
  rw [← operations_surfaceOf batch name, Surface.operations, List.isEmpty_map]

end Lists

section Planning

variable {pair : TemplatePair}

/-- What an operation with a blank field comes to. -/
theorem passedOver_of_blank (h : op.hasField = false) :
    p.pairFor op = none ∧ p.stops op = false ∧ p.skipped op = some (blankField op) := by
  simp [pairFor, stops, skipped, h]

/-- What an operation with a field and templates comes to. -/
theorem routed_of_pair (hfield : op.hasField = true) (hpair : p.templates.get? op.id = some pair) :
    p.pairFor op = some pair ∧ p.stops op = false ∧ p.skipped op = none := by
  simp [pairFor, stops, skipped, hfield, hpair]

/-- What an operation with a field and without templates comes to. -/
theorem passedOver_of_no_pair (hfield : op.hasField = true)
    (hpair : p.templates.get? op.id = none) : p.pairFor op = none ∧
      p.stops op = p.options.strictTemplates ∧ p.skipped op = some (noTemplates op) := by
  simp [pairFor, stops, skipped, hfield, hpair]

theorem isSome_skipped (op : Operation) : (p.skipped op).isSome = !(p.pairFor op).isSome := by
  rw [skipped, pairFor]
  split
  · cases p.templates.get? op.id <;> rfl
  · rfl

/-- Every operation gets a route or a warning. -/
theorem length_routedIds_add (ops : List Operation) :
    (p.routedIds ops).length + (ops.filterMap p.skipped).length = ops.length := by
  have hrouted : (p.routedIds ops).length = ops.countP fun op => (p.pairFor op).isSome := by
    simp [routedIds, routed, List.length_filterMap_eq_countP]
  have hskipped : (ops.filterMap p.skipped).length =
      ops.countP fun op => !(p.pairFor op).isSome := by
    simp [List.length_filterMap_eq_countP, isSome_skipped]
  have hsplit := List.length_eq_countP_add_countP (fun op => (p.pairFor op).isSome) (l := ops)
  rw [hrouted, hskipped]
  simpa only [decide_not, Bool.decide_eq_true] using hsplit.symm

theorem bindings_cons_of_blank (h : op.hasField = false) :
    p.bindings (op :: rest) = p.bindings rest := by
  simp [bindings, h]

theorem bindings_cons_of_field (h : op.hasField = true) :
    p.bindings (op :: rest) = (p.resolver op).toList ++ p.bindings rest := by
  rw [bindings, List.filter_cons_of_pos h]
  cases hresolver : p.resolver op with
  | none => simp [bindings, hresolver]
  | some binding => simp [bindings, hresolver]

theorem reverse_toList_resolver (op : Operation) :
    (p.resolver op).toList.reverse = (p.resolver op).toList := by
  cases p.resolver op <;> rfl

/-- What the planning of operations comes to when none of them stops it, from any draft on. -/
theorem layOut_eq_ok (h : ∀ op ∈ ops, p.stops op = false) :
    p.layOut draft ops =
      (.ok ⟨(p.chain draft.resources.head? (p.routed ops)).reverse ++ draft.resources,
        (p.bindings ops).reverse ++ draft.resolvers⟩, ops.filterMap p.skipped) := by
  fun_induction layOut p draft ops with
  | case1 draft => rfl
  | case2 draft op rest hblank result diagnostics hrest ih =>
      have hfield : op.hasField = false := by simpa using hblank
      obtain ⟨hroute, -, hskipped⟩ := passedOver_of_blank (p := p) hfield
      have hih := ih (List.forall_mem_cons.mp h).2
      rw [hrest] at hih
      obtain ⟨rfl, rfl⟩ := Prod.mk.inj hih
      rw [routed_cons_none hroute, bindings_cons_of_blank hfield,
        List.filterMap_cons_some hskipped]
  | case3 draft op rest hblank draft' pair hpair resource ih =>
      have hfield : op.hasField = true := by simpa using hblank
      obtain ⟨hroute, -, hskipped⟩ := routed_of_pair hfield hpair
      rw [ih (List.forall_mem_cons.mp h).2, routed_cons_some hroute,
        bindings_cons_of_field hfield, List.filterMap_cons_none hskipped, chain]
      simp [draft', resource, reverse_toList_resolver]
  | case4 draft op rest hblank hpair hstrict =>
      have hfield : op.hasField = true := by simpa using hblank
      obtain ⟨-, hstops, -⟩ := passedOver_of_no_pair hfield hpair
      rw [(List.forall_mem_cons.mp h).1, hstrict] at hstops
      cases hstops
  | case5 draft op rest hblank draft' hpair hstrict result diagnostics hrest ih =>
      have hfield : op.hasField = true := by simpa using hblank
      obtain ⟨hroute, -, hskipped⟩ := passedOver_of_no_pair hfield hpair
      have hih := ih (List.forall_mem_cons.mp h).2
      rw [hrest] at hih
      obtain ⟨rfl, rfl⟩ := Prod.mk.inj hih
      rw [routed_cons_none hroute, bindings_cons_of_field hfield,
        List.filterMap_cons_some hskipped]
      simp [draft', reverse_toList_resolver]

/-- The first operation that stops the planning is the one its error names. -/
theorem layOut_eq_error (h : ops.find? p.stops = some op) :
    p.layOut draft ops = (.error (.missingTemplate op.id),
      (ops.takeWhile fun op => !p.stops op).filterMap p.skipped) := by
  fun_induction layOut p draft ops with
  | case1 draft => cases h
  | case2 draft first rest hblank result diagnostics hrest ih =>
      have hfield : first.hasField = false := by simpa using hblank
      obtain ⟨-, hstops, hskipped⟩ := passedOver_of_blank (p := p) hfield
      rw [List.find?_cons_of_neg (by simp [hstops])] at h
      have hih := ih h
      rw [hrest] at hih
      obtain ⟨rfl, rfl⟩ := Prod.mk.inj hih
      rw [List.takeWhile_cons_of_pos (by simp [hstops]), List.filterMap_cons_some hskipped]
  | case3 draft first rest hblank draft' pair hpair resource ih =>
      have hfield : first.hasField = true := by simpa using hblank
      obtain ⟨-, hstops, hskipped⟩ := routed_of_pair hfield hpair
      rw [List.find?_cons_of_neg (by simp [hstops])] at h
      rw [ih h, List.takeWhile_cons_of_pos (by simp [hstops]), List.filterMap_cons_none hskipped]
  | case4 draft first rest hblank hpair hstrict =>
      have hfield : first.hasField = true := by simpa using hblank
      obtain ⟨-, hstops, -⟩ := passedOver_of_no_pair hfield hpair
      rw [hstrict] at hstops
      rw [List.find?_cons_of_pos hstops] at h
      cases h
      rw [List.takeWhile_cons_of_neg (by simp [hstops])]
      rfl
  | case5 draft first rest hblank draft' hpair hstrict result diagnostics hrest ih =>
      have hfield : first.hasField = true := by simpa using hblank
      obtain ⟨-, hstops, hskipped⟩ := passedOver_of_no_pair hfield hpair
      have hgoes : p.stops first = false := by simpa [hstops] using hstrict
      rw [List.find?_cons_of_neg (by simp [hgoes])] at h
      have hih := ih h
      rw [hrest] at hih
      obtain ⟨rfl, rfl⟩ := Prod.mk.inj hih
      rw [List.takeWhile_cons_of_pos (by simp [hgoes]), List.filterMap_cons_some hskipped]

theorem plan_eq_ok {batch : Batch Operation} (h : ∀ op ∈ batch.operations, p.stops op = false)
    (name : String) :
    p.plan batch name = (.ok (p.surfaceOf batch name), batch.operations.filterMap p.skipped) := by
  rw [plan, layOut_eq_ok h, surfaceOf]
  simp [Except.map]

theorem plan_eq_error {batch : Batch Operation} (h : batch.operations.find? p.stops = some op)
    (name : String) :
    p.plan batch name = (.error (.missingTemplate op.id),
      (batch.operations.takeWhile fun op => !p.stops op).filterMap p.skipped) := by
  rw [plan, layOut_eq_error h]
  rfl

end Planning

end BatchedGateway.Planner
