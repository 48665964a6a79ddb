/- The calls of a build: one for each batch that has something to route, in order, and none after a
failure. -/
import BatchedGateway.Proofs.Build.Ending

namespace BatchedGateway

namespace MaterializedAll

variable {p : Planner} {provision : Provisioner} {nameOf : Nat → String}
  {batches : List (Batch Operation)} {builts : List BuiltBatch} {s s' : Progress}

/-- A run calls for the surfaces of the batches that have routes, in order. -/
theorem calls_eq_surfaces (h : MaterializedAll p provision nameOf batches s builts s') :
    s'.calls = s.calls ++ (batches.filter fun batch => p.routedIds batch.operations ≠ []).map
      fun batch => p.surfaceOf batch (nameOf batch.index) := by
  induction h with
  | nil => exact (List.append_nil _).symm
  | cons first rest ih =>
      rw [ih]
      cases first with
      | nowhere hroutes => simp [hroutes]
      | served hroutes hanswer hfresh => simp [hroutes]

/-- In a run from the start that goes to its end each call is answered with a URL. -/
theorem exists_answer (h : MaterializedAll p provision nameOf batches s builts s')
    (hstart : s.calls = []) {n : Nat} {surface : Surface} (hn : s'.calls[n]? = some surface) :
    ∃ url, provision n surface = .ok url := by
  rw [h.calls_eq, hstart, List.nil_append, List.getElem?_map] at hn
  obtain ⟨⟨_, url⟩, he, rfl⟩ := Option.map_eq_some_iff.mp hn
  have hanswer := h.answers n _ he
  rw [hstart, List.length_nil, Nat.zero_add] at hanswer
  exact ⟨url, hanswer⟩

end MaterializedAll

namespace Build

instance (c : Config) (inputs : Inputs) (id : String) : Decidable (Routable c inputs id) :=
  decidable_of_iff
    (Text.blank (FieldNames.fieldOf c.fieldNames id) = false ∧
      (inputs.templates.get? id).isSome = true)
    ⟨fun h => ⟨h.1, h.2⟩, fun h => ⟨h.field, h.templates⟩⟩

/-- The ids at the positions of a batch that can be routed, in the order of the description. -/
def routableIds (c : Config) (inputs : Inputs) (ops : List IndexedOperation) (batch : Nat) :
    List String :=
  (((ops.drop (batch * c.maxResources)).take c.maxResources).map (·.id)).filter
    fun id => Routable c inputs id

/-- Calls in the order of the batches, each for the surface of its batch, which has all ids of the
batch that can be routed. Of the batches that have such ids those in a range are called for, and
no others. -/
structure CalledFor (c : Config) (inputs : Inputs) (ops : List IndexedOperation)
    (range : Nat → Prop) (calls : List Surface) : Prop where
  increasing : calls.Pairwise fun first second => first.index < second.index
  name : ∀ surface ∈ calls,
    surface.name = c.project.name ++ "-batch" ++ Text.decimal surface.index
  operations : ∀ surface ∈ calls,
    surface.operations = routableIds c inputs ops surface.index ∧ surface.operations ≠ []
  exactly : ∀ b, (∃ surface ∈ calls, surface.index = b) ↔
    range b ∧ routableIds c inputs ops b ≠ []

/-- The last of the calls is for a batch and is turned down; all before it are answered. -/
def RefusedLast (provision : Provisioner) (calls : List Surface) (batch : Nat)
    (why : ProvisionError) : Prop :=
  ∃ before surface, calls = before ++ [surface] ∧ surface.index = batch ∧
    provision before.length surface = .error why ∧
    ∀ n earlier, before[n]? = some earlier → ∃ url, provision n earlier = .ok url

variable {z : Archive.Compressor} {c : Config} {inputs : Inputs} {isDirectory : String → Bool}
  {provision : Provisioner} {ops : List IndexedOperation}
  {batches front back : List (Batch Operation)} {batch : Batch Operation}

theorem CalledFor.congr {range range' : Nat → Prop} {calls : List Surface}
    (h : CalledFor c inputs ops range calls)
    (hrange : ∀ b, routableIds c inputs ops b ≠ [] → (range b ↔ range' b)) :
    CalledFor c inputs ops range' calls where
  increasing := h.increasing
  name := h.name
  operations := h.operations
  exactly b := (h.exactly b).trans (and_congr_left (hrange b))

/-- What is called for of a list of batches. -/
def callsFor (c : Config) (inputs : Inputs) (isDirectory : String → Bool)
    (batches : List (Batch Operation)) : List Surface :=
  let p := plannerOf c inputs isDirectory
  (batches.filter fun batch => p.routedIds batch.operations ≠ []).map
    fun batch => p.surfaceOf batch (c.surfaceName batch.index)

theorem callsFor_concat
    (hroutes : (plannerOf c inputs isDirectory).routedIds batch.operations ≠ []) :
    callsFor c inputs isDirectory (front ++ [batch]) = callsFor c inputs isDirectory front ++
      [(plannerOf c inputs isDirectory).surfaceOf batch (c.surfaceName batch.index)] := by
  simp [callsFor, hroutes]

theorem routedIds_describe (c : Config) (inputs : Inputs) (isDirectory : String → Bool)
    (ops : List IndexedOperation) :
    (plannerOf c inputs isDirectory).routedIds (ops.map (describe inputs.schema c.fieldNames)) =
      (ops.map (·.id)).filter fun id => Routable c inputs id := by
  have hserved : ∀ op : IndexedOperation,
      ((describe inputs.schema c.fieldNames op).hasField &&
        ((plannerOf c inputs isDirectory).templates.get?
          (describe inputs.schema c.fieldNames op).id).isSome) =
        decide (Routable c inputs op.id) := by
    intro op
    rw [hasField_describe, Bool.eq_iff_iff, Bool.and_eq_true, Bool.not_eq_true', decide_eq_true_iff]
    exact ⟨fun h => ⟨h.1, h.2⟩, fun h => ⟨h.field, h.templates⟩⟩
  rw [Planner.routedIds_eq, List.filter_map, List.map_map, List.filter_map]
  simp only [Function.comp_def, hserved]
  rfl

namespace Prepared

theorem routedIds_eq (r : Prepared c inputs ops batches) (isDirectory : String → Bool)
    (hbatch : batch ∈ batches) :
    (plannerOf c inputs isDirectory).routedIds batch.operations =
      routableIds c inputs ops batch.index := by
  have hk := (getElem?_partition_iff r.cut).mpr ⟨hbatch, rfl⟩
  rw [(partition_eq_ok r.cut).2, Batch.slice] at hk
  split at hk
  · have hoperations := congrArg (·.operations) (Option.some.inj hk)
    rw [← hoperations, ← List.map_drop, ← List.map_take, routedIds_describe]
    rfl
  · cases hk

/-- What is called for are the surfaces of those batches that have something to route. -/
theorem mem_callsFor (r : Prepared c inputs ops batches) (hcut : batches = front ++ back)
    {surface : Surface} : surface ∈ callsFor c inputs isDirectory front ↔
      ∃ batch ∈ front, routableIds c inputs ops batch.index ≠ [] ∧ surface =
        (plannerOf c inputs isDirectory).surfaceOf batch (c.surfaceName batch.index) := by
  have hids : ∀ batch ∈ front, (plannerOf c inputs isDirectory).routedIds batch.operations =
      routableIds c inputs ops batch.index := fun batch hbatch =>
    r.routedIds_eq isDirectory (hcut ▸ List.mem_append_left back hbatch)
  simp only [callsFor, List.mem_map, List.mem_filter, decide_eq_true_eq]
  constructor
  · rintro ⟨batch, ⟨hbatch, hroutes⟩, rfl⟩
    exact ⟨batch, hbatch, hids batch hbatch ▸ hroutes, rfl⟩
  · rintro ⟨batch, hbatch, hroutes, rfl⟩
    exact ⟨batch, ⟨hbatch, (hids batch hbatch).symm ▸ hroutes⟩, rfl⟩

/-- Building the first of all batches calls for those of them that have something to route. -/
theorem calledFor (r : Prepared c inputs ops batches) (isDirectory : String → Bool)
    (hcut : batches = front ++ back) :
    CalledFor c inputs ops (· < front.length) (callsFor c inputs isDirectory front) := by
  have hindexes := (map_index_append (hcut ▸ r.cut)).1
  constructor
  · have hincreasing : (front.map (·.index)).Pairwise (· < ·) := by
      rw [hindexes]
      exact List.pairwise_lt_range
    exact ((List.pairwise_map.mp hincreasing).filter _).map _ fun _ _ hlt => hlt
  · intro surface hsurface
    obtain ⟨batch, -, -, rfl⟩ := (r.mem_callsFor hcut).mp hsurface
    rfl
  · intro surface hsurface
    obtain ⟨batch, hbatch, hroutes, rfl⟩ := (r.mem_callsFor hcut).mp hsurface
    rw [Planner.operations_surfaceOf,
      r.routedIds_eq isDirectory (hcut ▸ List.mem_append_left back hbatch)]
    exact ⟨rfl, hroutes⟩
  · intro b
    have hrange : b < front.length ↔ ∃ batch ∈ front, batch.index = b := by
      rw [← List.mem_range, ← hindexes, List.mem_map]
    rw [hrange]
    constructor
    · rintro ⟨surface, hsurface, rfl⟩
      obtain ⟨batch, hbatch, hroutes, rfl⟩ := (r.mem_callsFor hcut).mp hsurface
      exact ⟨⟨batch, hbatch, rfl⟩, hroutes⟩
    · rintro ⟨⟨batch, hbatch, rfl⟩, hroutes⟩
      exact ⟨_, (r.mem_callsFor hcut).mpr ⟨batch, hbatch, hroutes, rfl⟩, rfl⟩

/-- A batch that has something to route is one of those that are built. -/
theorem lt_length_of_routable (r : Prepared c inputs ops batches) {b : Nat}
    (h : routableIds c inputs ops b ≠ []) : b < batches.length := by
  rw [lt_length_partition r.cut, List.length_map]
  refine Nat.lt_of_not_le fun hover => h ?_
  simp [routableIds, List.drop_eq_nil_of_le hover]

/-- The batch behind the first ones has their number as its index. -/
theorem index_eq_length (r : Prepared c inputs ops (front ++ batch :: back)) :
    batch.index = front.length :=
  index_partition r.cut (by simp)

/-- An id stands at one position only. -/
theorem position_unique (r : Prepared c inputs ops batches) {i j : Nat}
    {op other : IndexedOperation} (hi : ops[i]? = some op) (hj : ops[j]? = some other)
    (hid : op.id = other.id) : i = j := by
  have hdistinct : (ops.map (·.id)).Nodup := distinctIds_indexOperations r.indexed
  have hi' : (ops.map (·.id))[i]? = some op.id := by rw [List.getElem?_map, hi]; rfl
  have hj' : (ops.map (·.id))[j]? = some op.id := by rw [List.getElem?_map, hj, hid]; rfl
  obtain ⟨hlt, -⟩ := List.getElem?_eq_some_iff.mp hi'
  exact (List.getElem?_inj hlt hdistinct).mp (hi'.trans hj'.symm)

/-- A build halted for want of templates has called for the batches before that of the operation. -/
theorem calledFor_stopped (r : Prepared c inputs ops (front ++ batch :: back))
    (isDirectory : String → Bool) {i j : Nat} {op other : IndexedOperation}
    (hi : ops[i]? = some op) (hindex : i / c.maxResources = batch.index)
    (hj : ops[j]? = some other) (hid : other.id = op.id) :
    CalledFor c inputs ops (· < j / c.maxResources) (callsFor c inputs isDirectory front) := by
  rw [← r.position_unique hi hj hid.symm, hindex, r.index_eq_length]
  exact r.calledFor isDirectory rfl

/-- A build halted by an answer has called for the batches up to the one that is turned down. -/
theorem calledFor_refused (r : Prepared c inputs ops (front ++ batch :: back))
    (hroutes : (plannerOf c inputs isDirectory).routedIds batch.operations ≠ []) :
    CalledFor c inputs ops (· ≤ batch.index) (callsFor c inputs isDirectory front ++
      [(plannerOf c inputs isDirectory).surfaceOf batch (c.surfaceName batch.index)]) := by
  have hcut : front ++ batch :: back = (front ++ [batch]) ++ back := by simp
  have hcalls := r.calledFor isDirectory hcut
  rw [callsFor_concat hroutes] at hcalls
  refine hcalls.congr fun b _ => ?_
  rw [r.index_eq_length, List.length_append, List.length_singleton, Nat.lt_succ_iff]

end Prepared

/-- The calls of a build, however it ends. A build that succeeds has called for every batch that has
something to route; one that fails has called for those up to the batch that is turned down, or for
those before the batch of the operation without templates, or for none. -/
theorem run_calls (z : Archive.Compressor) (c : Config) (inputs : Inputs)
    (isDirectory : String → Bool) (provision : Provisioner) :
    match run z c inputs isDirectory provision with
    | (.ok _, s) => ∃ ops, indexOperations inputs.description = .ok ops ∧
        CalledFor c inputs ops (fun _ => True) s.calls
    | (.error (.provision k why), s) => ∃ ops, indexOperations inputs.description = .ok ops ∧
        CalledFor c inputs ops (· ≤ k) s.calls ∧ RefusedLast provision s.calls k why
    | (.error (.missingTemplate id), s) => ∃ ops, indexOperations inputs.description = .ok ops ∧
        (∃ op ∈ ops, op.id = id) ∧ ∀ i op, ops[i]? = some op → op.id = id →
          CalledFor c inputs ops (· < i / c.maxResources) s.calls
    | (.error _, s) => s.calls = [] := by
  rcases prepared_or_unprepared c inputs with ⟨ops, batches, r⟩ | ⟨e, hunprepared⟩
  · cases hrun : run z c inputs isDirectory provision with
    | mk result s =>
        cases result with
        | ok m =>
            have hcalls : s.calls = callsFor c inputs isDirectory batches :=
              (r.stages hrun).built.calls_eq_surfaces
            refine ⟨ops, r.indexed, ?_⟩
            rw [hcalls]
            exact (r.calledFor isDirectory (List.append_nil batches).symm).congr
              fun b hb => iff_true_intro (r.lt_length_of_routable hb)
        | error e =>
            obtain ⟨front, batch, back, builts, s₁, rfl, hfront, hhalted⟩ := r.halted hrun
            have hbefore : s₁.calls = callsFor c inputs isDirectory front :=
              hfront.calls_eq_surfaces
            generalize hcalls : s.calls = calls at hhalted
            cases hhalted with
            | @stopped i op hposition hindex hstrict hlacks =>
                refine ⟨ops, r.indexed, ⟨op, List.mem_of_getElem? hposition, rfl⟩,
                  fun j other hj hid => ?_⟩
                rw [hcalls, hbefore]
                exact r.calledFor_stopped isDirectory hposition hindex hj hid
            | refused hsurface hroutes hanswer =>
                refine ⟨ops, r.indexed, ?_, s₁.calls, _, hcalls,
                  congrArg Surface.index hsurface, hanswer, fun n earlier hn => ?_⟩
                · rw [hcalls, hbefore, hsurface]
                  exact r.calledFor_refused hroutes
                · exact hfront.exists_answer rfl hn
  · rw [hunprepared.run_eq]
    cases hunprepared with
    | invalid h => rfl
    | unindexed hvalid h => rfl

end Build

end BatchedGateway
