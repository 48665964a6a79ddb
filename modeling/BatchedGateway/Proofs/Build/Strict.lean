/- Two builds that differ in strictness alone: they go together up to the first operation that lacks
templates, where the strict one ends. -/
import BatchedGateway.Proofs.Build.Ending
import BatchedGateway.Proofs.Surface.Strict

namespace BatchedGateway.Build
open Outcome

variable {z : Archive.Compressor} {c : Config} {inputs : Inputs} {isDirectory : String → Bool}
  {provision : Provisioner} {ops : List IndexedOperation}
  {batches front back : List (Batch Operation)} {batch : Batch Operation} {m : Manifest}
  {e : BuildError} {s s' : Progress}

theorem lacks_describe (c : Config) (inputs : Inputs) (isDirectory : String → Bool)
    (op : IndexedOperation) :
    (plannerOf c inputs isDirectory).lacks (describe inputs.schema c.fieldNames op) =
      lacksTemplates c inputs op := by
  rw [Planner.lacks, hasField_describe]
  rfl

/-- What comes before the batches does not depend on strictness. -/
theorem Unprepared.withStrict (h : Unprepared c inputs e) (strict : Bool) :
    Unprepared { c with strictTemplates := strict } inputs e := by
  cases h with
  | invalid h => exact .invalid h
  | unindexed hvalid h => exact .unindexed hvalid h

theorem Prepared.withStrict (r : Prepared c inputs ops batches) (strict : Bool) :
    Prepared { c with strictTemplates := strict } inputs ops batches :=
  ⟨r.valid, r.indexed, r.cut⟩

theorem find?_describe (c : Config) (inputs : Inputs) (isDirectory : String → Bool)
    (ops : List IndexedOperation) :
    (ops.map (describe inputs.schema c.fieldNames)).find? (plannerOf c inputs isDirectory).lacks =
      (ops.find? (lacksTemplates c inputs)).map (describe inputs.schema c.fieldNames) := by
  have hlacks : (plannerOf c inputs isDirectory).lacks ∘ describe inputs.schema c.fieldNames =
      lacksTemplates c inputs := funext (lacks_describe c inputs isDirectory)
  rw [List.find?_map, hlacks]

namespace Prepared

theorem run_eq_withStrict (r : Prepared c inputs ops batches) (strict : Bool) :
    run z { c with strictTemplates := strict } inputs isDirectory provision =
      let result := materializeAll ((plannerOf c inputs isDirectory).withStrict strict) provision
        c.surfaceName batches { diagnostics := (classifyAll inputs.schema c.fieldNames ops).2 }
      (result.1 >>= finish z c inputs.schema ops.length result.2, result.2) :=
  (r.withStrict strict).run_eq

/-- A call that is turned down is for one of the first batches, and then it ends a run over those
alone, or for a later one, and then they are all built. -/
theorem front_or_back (r : Prepared c inputs ops (front ++ back)) {p : Planner}
    {nameOf : Nat → String} {k : Nat} {why : ProvisionError}
    (h : (materializeAll p provision nameOf (front ++ back) s).1 = .error (.provision k why)) :
    (k < front.length ∧ ∃ s',
      materializeAll p provision nameOf front s = (.error (.provision k why), s')) ∨
    (front.length ≤ k ∧ ∃ builts s', materializeAll p provision nameOf front s = (.ok builts, s'))
    := by
  obtain ⟨hfrontIndexes, hbackIndexes⟩ := map_index_append r.cut
  cases hfront : materializeAll p provision nameOf front s with
  | mk result s' =>
      cases result with
      | error e =>
          rw [materializeAll_append_of_error hfront] at h
          cases h
          obtain ⟨batch, hbatch, rfl⟩ := exists_index_of_refused (congrArg Prod.fst hfront)
          have hindex := List.mem_map_of_mem (f := (·.index)) hbatch
          rw [hfrontIndexes, List.mem_range] at hindex
          exact .inl ⟨hindex, s', rfl⟩
      | ok builts =>
          rw [materializeAll_append_of_ok hfront] at h
          obtain ⟨batch, hbatch, rfl⟩ := exists_index_of_refused (map_eq_error.mp h)
          have hindex := List.mem_map_of_mem (f := (·.index)) hbatch
          rw [hbackIndexes, List.mem_map] at hindex
          obtain ⟨j, -, hj⟩ := hindex
          exact .inr ⟨hj ▸ Nat.le_add_right .., builts, s', rfl⟩

/-- The strict twin of a lenient build that succeeds. -/
theorem run_strict_of_ok (r : Prepared c inputs ops batches)
    (h : (run z { c with strictTemplates := false } inputs isDirectory provision).1 = .ok m) :
    (run z { c with strictTemplates := true } inputs isDirectory provision).1 =
      (ops.find? (lacksTemplates c inputs)).elim (.ok m)
        fun op => .error (.missingTemplate op.id) := by
  have hall := find?_describe c inputs isDirectory ops
  rw [← flatMap_operations_partition r.cut] at hall
  rw [r.run_eq_withStrict] at h ⊢
  cases hfind : ops.find? (lacksTemplates c inputs) with
  | none =>
      rw [hfind] at hall
      rw [materializeAll_withStrict true (clean_of_find? hall)]
      exact h
  | some op =>
      rw [hfind] at hall
      refine bind_finish_eq_error.mpr (strict_of_lacks (List.append_nil batches).symm hall ?_)
      rintro built rest rfl -
      obtain ⟨builts, hbuilts, -⟩ := bind_eq_ok.mp h
      exact exists_ok_of_append (by rw [hbuilts]; rfl)

/-- The strict twin of a lenient build that is turned down at a batch. -/
theorem run_strict_of_refused (r : Prepared c inputs ops batches) {k : Nat} {why : ProvisionError}
    (h : (run z { c with strictTemplates := false } inputs isDirectory provision).1 =
      .error (.provision k why)) :
    (run z { c with strictTemplates := true } inputs isDirectory provision).1 =
      ((ops.take ((k + 1) * c.maxResources)).find? (lacksTemplates c inputs)).elim
        (.error (.provision k why)) fun op => .error (.missingTemplate op.id) := by
  have hreached := find?_describe c inputs isDirectory (ops.take ((k + 1) * c.maxResources))
  rw [List.map_take, ← flatMap_operations_take r.cut] at hreached
  rw [r.run_eq_withStrict] at h ⊢
  have hcut := (List.take_append_drop (k + 1) batches).symm
  have hrefused := bind_finish_eq_error.mp h
  have hk : k < batches.length := by
    obtain ⟨batch, hbatch, rfl⟩ := exists_index_of_refused hrefused
    exact (List.getElem?_eq_some_iff.mp ((getElem?_partition_iff r.cut).mpr ⟨hbatch, rfl⟩)).1
  have hlength : (batches.take (k + 1)).length = k + 1 := List.length_take_of_le hk
  generalize batches.take (k + 1) = front, batches.drop (k + 1) = back at hcut hreached hlength
  subst hcut
  cases hfind : (ops.take ((k + 1) * c.maxResources)).find? (lacksTemplates c inputs) with
  | none =>
      rw [hfind] at hreached
      rcases r.front_or_back hrefused with ⟨-, s', hfails⟩ | ⟨hover, -⟩
      · rw [← materializeAll_withStrict true (clean_of_find? hreached)] at hfails
        exact bind_finish_eq_error.mpr (congrArg Prod.fst (materializeAll_append_of_error hfails))
      · omega
  | some op =>
      rw [hfind] at hreached
      refine bind_finish_eq_error.mpr (strict_of_lacks rfl hreached ?_)
      rintro built rest rfl hrest
      rw [List.append_assoc] at r hrefused
      rcases r.front_or_back hrefused with ⟨hlt, -⟩ | ⟨-, hbuilt⟩
      · have hpositive := List.length_pos_iff.mpr hrest
        rw [List.length_append] at hlength
        omega
      · exact hbuilt

end Prepared

theorem elim_eq_ok {missing : Option IndexedOperation} {result : Except BuildError Manifest}
    (h : (missing.elim result fun op => .error (.missingTemplate op.id)) = .ok m) :
    result = .ok m := by
  cases missing with
  | none => exact h
  | some op => cases h

/-- Strict mode refines lenient mode. A strict build that succeeds gives the manifest of the lenient
one. Up to the first operation that has a field and no templates the two go together, and there the
strict one ends; the lenient one gets there unless it fails at an earlier batch. -/
theorem run_strict (z : Archive.Compressor) (c : Config) (inputs : Inputs)
    (isDirectory : String → Bool) (provision : Provisioner) :
    let strict := (run z { c with strictTemplates := true } inputs isDirectory provision).1
    let lenient := (run z { c with strictTemplates := false } inputs isDirectory provision).1
    (∀ m, strict = .ok m → lenient = .ok m) ∧
      match lenient with
      | .ok m => ∃ ops, indexOperations inputs.description = .ok ops ∧
          strict = (ops.find? (lacksTemplates c inputs)).elim (.ok m)
            fun op => .error (.missingTemplate op.id)
      | .error (.provision k why) => ∃ ops, indexOperations inputs.description = .ok ops ∧
          strict = ((ops.take ((k + 1) * c.maxResources)).find? (lacksTemplates c inputs)).elim
            (.error (.provision k why)) fun op => .error (.missingTemplate op.id)
      | .error e => strict = .error e := by
  intro strict lenient
  rcases prepared_or_unprepared c inputs with ⟨ops, batches, r⟩ | ⟨e, hunprepared⟩
  · cases hlenient : lenient with
    | ok m =>
        have hstrict := r.run_strict_of_ok hlenient
        exact ⟨fun m' hm' => elim_eq_ok (hstrict.symm.trans hm'), ops, r.indexed, hstrict⟩
    | error e =>
        obtain ⟨_, batch, _, _, s₁, -, -, hhalted⟩ :=
          (r.withStrict false).halted (Prod.ext hlenient rfl)
        generalize
          (run z { c with strictTemplates := false } inputs isDirectory provision).2.calls = calls
          at hhalted
        cases hhalted with
        | stopped hposition hindex hmode hlacks => cases hmode
        | @refused surface why hsurface hroutes hanswer =>
            have hstrict := r.run_strict_of_refused hlenient
            refine ⟨fun m hm => ?_, ops, r.indexed, hstrict⟩
            cases elim_eq_ok (hstrict.symm.trans hm)
  · have hstrict : strict = .error e := congrArg Prod.fst (hunprepared.withStrict true).run_eq
    have hlenient : lenient = .error e := congrArg Prod.fst (hunprepared.withStrict false).run_eq
    rw [hstrict, hlenient]
    refine ⟨fun m hm => (nomatch hm), ?_⟩
    cases hunprepared with
    | invalid h => rfl
    | unindexed hvalid h => rfl

end BatchedGateway.Build
