/- What a build settles before it builds a batch, and what can end it after that. -/
import BatchedGateway.Proofs.Build.Pipeline
import BatchedGateway.Proofs.Operation.Index
import BatchedGateway.Proofs.Routes.Payload
import BatchedGateway.Proofs.Surface.Failure

namespace BatchedGateway.Build
open Outcome

/-- What a build that comes to its batches starts from. -/
structure Prepared (c : Config) (inputs : Inputs) (ops : List IndexedOperation)
    (batches : List (Batch Operation)) : Prop where
  valid : c.validate = .ok ()
  indexed : indexOperations inputs.description = .ok ops
  cut : partition (ops.map (describe inputs.schema c.fieldNames)) c.maxResources = .ok batches

/-- What ends a build before it comes to its batches. -/
inductive Unprepared (c : Config) (inputs : Inputs) : BuildError → Prop
  | invalid {why : ConfigError} (h : c.validate = .error why) : Unprepared c inputs (.config why)
  | unindexed {why : IndexError} (hvalid : c.validate = .ok ())
      (h : indexOperations inputs.description = .error why) : Unprepared c inputs (.index why)

variable {z : Archive.Compressor} {c : Config} {inputs : Inputs} {isDirectory : String → Bool}
  {provision : Provisioner} {ops : List IndexedOperation} {batches : List (Batch Operation)}
  {m : Manifest} {e : BuildError} {s : Progress}

theorem maxResources_pos (h : c.validate = .ok ()) : 0 < c.maxResources := by
  rw [Config.validate] at h
  split at h
  · cases h
  · exact Nat.pos_of_ne_zero ‹_›

/-- A valid configuration never fails to cut operations into batches. -/
theorem partition_isOk {α : Type} (h : c.validate = .ok ()) (items : List α) :
    ∃ batches, partition items c.maxResources = .ok batches := by
  rw [partition, if_neg (Nat.ne_of_gt (maxResources_pos h))]
  exact ⟨_, rfl⟩

/-- To pack the tables never fails, so that what ends a build has ended it before. -/
theorem bind_finish_eq_error {schema : SchemaIndex} {operationCount : Nat}
    {built : Except BuildError (List BuiltBatch)} :
    (built >>= finish z c schema operationCount s) = .error e ↔ built = .error e := by
  obtain ⟨payload, hencode, -⟩ := Payload.exists_encode z s.tables
  have hfinish : finish z c schema operationCount s =
      fun builts => .ok (manifestOf c schema operationCount builts s payload) := by
    funext builts
    rw [finish, hencode]
    rfl
  rw [hfinish]
  cases built with
  | error e' => rw [error_bind, Except.error.injEq, Except.error.injEq]
  | ok builts => exact ⟨(nomatch ·), (nomatch ·)⟩

/-- A build comes to its batches, or ends before. -/
theorem prepared_or_unprepared (c : Config) (inputs : Inputs) :
    (∃ ops batches, Prepared c inputs ops batches) ∨ ∃ e, Unprepared c inputs e := by
  cases hvalid : c.validate with
  | error why => exact .inr ⟨_, .invalid hvalid⟩
  | ok _ =>
      cases hops : indexOperations inputs.description with
      | error why => exact .inr ⟨_, .unindexed hvalid hops⟩
      | ok ops =>
          obtain ⟨batches, hcut⟩ := partition_isOk hvalid
            (ops.map (describe inputs.schema c.fieldNames))
          exact .inl ⟨ops, batches, hvalid, hops, hcut⟩

namespace Prepared

theorem batchesOf_eq (r : Prepared c inputs ops batches) :
    batchesOf c inputs.schema ops =
      .ok (batches, (classifyAll inputs.schema c.fieldNames ops).2) := by
  rw [batchesOf, classifyAll]
  simp only [r.cut, mapError_ok, ok_bind]

theorem run_eq (r : Prepared c inputs ops batches) : run z c inputs isDirectory provision =
    let result := materializeAll (plannerOf c inputs isDirectory) provision c.surfaceName batches
      { diagnostics := (classifyAll inputs.schema c.fieldNames ops).2 }
    (result.1 >>= finish z c inputs.schema ops.length result.2, result.2) := by
  simp only [run, r.valid, r.indexed, r.batchesOf_eq, mapError_ok, ok_bind]

/-- All ids of a build that get a route are distinct. -/
theorem fresh (r : Prepared c inputs ops batches) (p : Planner) :
    (∅ : Tables).Fresh (p.routedIds (batches.flatMap (·.operations))) := by
  rw [flatMap_operations_partition r.cut]
  refine ⟨(Planner.routedIds_sublist _).nodup ?_, fun _ _ => rfl⟩
  rw [List.map_map]
  exact distinctIds_indexOperations r.indexed

/-- A build that has come to its batches ends for missing templates, or for the answer to a call. -/
theorem run_eq_error (r : Prepared c inputs ops batches)
    (h : run z c inputs isDirectory provision = (.error e, s)) :
    ∃ front batch back builts s₁, batches = front ++ batch :: back ∧
      MaterializedAll (plannerOf c inputs isDirectory) provision c.surfaceName front
        { diagnostics := (classifyAll inputs.schema c.fieldNames ops).2 } builts s₁ ∧
      Unbuilt (plannerOf c inputs isDirectory) provision batch (c.surfaceName batch.index) s₁ e s ∧
      ((∃ id, e = .missingTemplate id) ∨ ∃ why, e = .provision batch.index why) := by
  rw [r.run_eq] at h
  obtain ⟨hresult, rfl⟩ := Prod.mk.inj h
  obtain ⟨front, batch, back, builts, s₁, rfl, hfront, hbatch⟩ :=
    materializeAll_eq_error (Prod.ext (bind_finish_eq_error.mp hresult) rfl)
  refine ⟨front, batch, back, builts, s₁, rfl, hfront, hbatch, hbatch.cause_of_fresh ?_⟩
  -- the ids of the batches up to this one are some of all, which are distinct
  have hall := r.fresh (plannerOf c inputs isDirectory)
  have hsplit : (front ++ batch :: back).flatMap (·.operations) =
      (front.flatMap (·.operations) ++ batch.operations) ++ back.flatMap (·.operations) := by
    simp
  rw [hsplit, Planner.routedIds_append] at hall
  obtain ⟨hnodup, -, -⟩ := List.nodup_append.mp hall.nodup
  exact hfront.fresh ⟨hnodup, fun _ _ => rfl⟩

end Prepared

theorem Unprepared.run_eq (h : Unprepared c inputs e) :
    run z c inputs isDirectory provision = (.error e, {}) := by
  cases h with
  | invalid hinvalid =>
      simp only [run, hinvalid, mapError_error, error_bind]
  | unindexed hvalid hindex =>
      simp only [run, hvalid, hindex, mapError_ok, mapError_error, ok_bind, error_bind]

/-- A build that succeeds went through the batches it was prepared for. -/
theorem Prepared.stages (r : Prepared c inputs ops batches)
    (h : run z c inputs isDirectory provision = (.ok m, s)) :
    Stages z c inputs isDirectory provision ops batches m s := by
  obtain ⟨ops', batches', stages⟩ := run_eq_ok h
  cases r.indexed.symm.trans stages.indexed
  cases r.cut.symm.trans stages.cut
  exact stages

end BatchedGateway.Build
