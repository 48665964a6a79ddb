/- How a build ends: with a manifest, or for one of four causes. -/
import BatchedGateway.Proofs.Build.Diagnostics
import BatchedGateway.Proofs.Build.Serving

namespace BatchedGateway.Build
open Outcome

/-- An operation has a field, but there are no templates for it. -/
def lacksTemplates (c : Config) (inputs : Inputs) (op : IndexedOperation) : Bool :=
  !Text.blank (fieldFor c op) && (inputs.templates.get? op.id).isNone

/-- What halts a build at one of its batches, and the calls it has made by then: in strict mode an
operation without templates, else the answer to the call for the surface. -/
inductive Halted (c : Config) (inputs : Inputs) (isDirectory : String → Bool)
    (provision : Provisioner) (ops : List IndexedOperation) (batch : Batch Operation)
    (calls : List Surface) : BuildError → List Surface → Prop
  | stopped {i : Nat} {op : IndexedOperation} (hposition : ops[i]? = some op)
      (hindex : i / c.maxResources = batch.index) (hstrict : c.strictTemplates = true)
      (hlacks : lacksTemplates c inputs op = true) :
      Halted c inputs isDirectory provision ops batch calls (.missingTemplate op.id) calls
  | refused {surface : Surface} {why : ProvisionError}
      (hsurface : surface =
        (plannerOf c inputs isDirectory).surfaceOf batch (c.surfaceName batch.index))
      (hroutes : (plannerOf c inputs isDirectory).routedIds batch.operations ≠ [])
      (hanswer : provision calls.length surface = .error why) :
      Halted c inputs isDirectory provision ops batch calls (.provision batch.index why)
        (calls ++ [surface])

variable {z : Archive.Compressor} {c : Config} {inputs : Inputs} {isDirectory : String → Bool}
  {provision : Provisioner} {ops : List IndexedOperation} {batches : List (Batch Operation)}
  {e : BuildError} {s : Progress}

theorem stops_describe (c : Config) (inputs : Inputs) (isDirectory : String → Bool)
    (op : IndexedOperation) :
    (plannerOf c inputs isDirectory).stops (describe inputs.schema c.fieldNames op) =
      (c.strictTemplates && lacksTemplates c inputs op) := by
  rw [Planner.stops, hasField_describe, Bool.and_assoc]
  rfl

namespace Prepared

/-- An operation of a batch stands in the description, at a position that falls to the batch. -/
theorem exists_position (r : Prepared c inputs ops batches) {batch : Batch Operation}
    (hbatch : batch ∈ batches) {op : Operation} (hop : op ∈ batch.operations) :
    ∃ i indexed, ops[i]? = some indexed ∧ op = describe inputs.schema c.fieldNames indexed ∧
      i / c.maxResources = batch.index := by
  have hk := (getElem?_partition_iff r.cut).mpr ⟨hbatch, rfl⟩
  obtain ⟨i, hi, hindex⟩ := (mem_partition_iff r.cut hk op).mp hop
  rw [List.getElem?_map] at hi
  obtain ⟨indexed, hindexed, rfl⟩ := Option.map_eq_some_iff.mp hi
  exact ⟨i, indexed, hindexed, rfl, hindex⟩

/-- A build that fails after all has built the batches before the one that halts it. -/
theorem halted (r : Prepared c inputs ops batches)
    (h : run z c inputs isDirectory provision = (.error e, s)) :
    ∃ front batch back builts s₁, batches = front ++ batch :: back ∧
      MaterializedAll (plannerOf c inputs isDirectory) provision c.surfaceName front
        { diagnostics := (classifyAll inputs.schema c.fieldNames ops).2 } builts s₁ ∧
      Halted c inputs isDirectory provision ops batch s₁.calls e s.calls := by
  obtain ⟨front, batch, back, builts, s₁, rfl, hfront, hbatch, hcause⟩ := r.run_eq_error h
  refine ⟨front, batch, back, builts, s₁, rfl, hfront, ?_⟩
  cases hbatch with
  | @stopped op hstop =>
      obtain ⟨i, indexed, hi, rfl, hindex⟩ :=
        r.exists_position (by simp) (List.mem_of_find?_eq_some hstop)
      have hstops := List.find?_some hstop
      rw [stops_describe, Bool.and_eq_true] at hstops
      exact .stopped hi hindex hstops.1 hstops.2
  | refused hgoes hroutes hanswer => exact .refused rfl hroutes hanswer
  | clashed hgoes hanswer hclash =>
      rcases hcause with ⟨_, hid⟩ | ⟨_, hwhy⟩
      · cases hid
      · cases hwhy

end Prepared

/-- A build ends with a manifest whose tables are packed, so that they can be unpacked, or for one
of four causes: a configuration that is not valid, a description that cannot be indexed, an
operation without templates in strict mode, or the answer to a call. No build ends for tables that
cannot be packed, whatever compresses them. -/
theorem run_ends (z : Archive.Compressor) (c : Config) (inputs : Inputs)
    (isDirectory : String → Bool) (provision : Provisioner) :
    match run z c inputs isDirectory provision with
    | (.ok m, _) => Payload.encode z m.tables = .ok m.payload ∧
        (m.operationCount ≤ Json.maxNat64 → Payload.decode m.payload = .ok m.tables)
    | (.error (.config why), _) => c.validate = .error why
    | (.error (.index why), _) =>
        c.validate = .ok () ∧ indexOperations inputs.description = .error why
    | (.error (.missingTemplate id), _) =>
        c.strictTemplates = true ∧ ∃ ops, indexOperations inputs.description = .ok ops ∧
          ∃ op ∈ ops, op.id = id ∧ lacksTemplates c inputs op = true
    | (.error (.provision b why), s) =>
        ∃ n surface, s.calls[n]? = some surface ∧ surface.index = b ∧
          provision n surface = .error why
    | (.error _, _) => False := by
  rcases prepared_or_unprepared c inputs with ⟨ops, batches, r⟩ | ⟨e, hunprepared⟩
  · cases hrun : run z c inputs isDirectory provision with
    | mk result s =>
        cases result with
        | ok m =>
            have hstages := r.stages hrun
            exact ⟨hstages.packed_tables,
              fun hcount => hstages.packs.decode_eq (hstages.fits hcount)⟩
        | error e =>
            obtain ⟨front, batch, back, builts, s₁, -, -, hhalted⟩ := r.halted hrun
            generalize hcalls : s.calls = calls at hhalted
            cases hhalted with
            | stopped hposition hindex hstrict hlacks =>
                exact ⟨hstrict, ops, r.indexed, _, List.mem_of_getElem? hposition, rfl, hlacks⟩
            | refused hsurface hroutes hanswer =>
                refine ⟨s₁.calls.length, _, ?_, congrArg Surface.index hsurface, hanswer⟩
                rw [hcalls, List.getElem?_concat_length]
  · rw [hunprepared.run_eq]
    cases hunprepared with
    | invalid h => exact h
    | unindexed hvalid h => exact ⟨hvalid, h⟩

end BatchedGateway.Build
