/- Runs over batches in strict mode and out of it: they go together as long as no operation lacks
templates. -/
import BatchedGateway.Proofs.Surface.Failure

namespace BatchedGateway

namespace Planner

/-- The planner with strict mode on or off. -/
def withStrict (p : Planner) (strict : Bool) : Planner :=
  { p with options := { p.options with strictTemplates := strict } }

/-- An operation has a field and no templates. -/
def lacks (p : Planner) (op : Operation) : Bool := op.hasField && (p.templates.get? op.id).isNone

variable {p : Planner} {strict : Bool}

theorem stops_withStrict (op : Operation) :
    (p.withStrict strict).stops op = (strict && p.lacks op) := by
  rw [stops, Bool.and_assoc]
  rfl

theorem chain_withStrict (before : Option Resource) (routes : List (Operation × TemplatePair)) :
    (p.withStrict strict).chain before routes = p.chain before routes := by
  induction routes generalizing before with
  | nil => rfl
  | cons route rest ih =>
      rw [chain, chain, ih]
      rfl

/-- Strictness does not change what a surface looks like. -/
theorem surfaceOf_withStrict (batch : Batch Operation) (name : String) :
    (p.withStrict strict).surfaceOf batch name = p.surfaceOf batch name := by
  rw [surfaceOf, surfaceOf, chain_withStrict]
  rfl

end Planner

section Runs

variable {p : Planner} {provision : Provisioner} {nameOf : Nat → String} {name : String}
  {batch : Batch Operation} {batches front back : List (Batch Operation)} {strict : Bool}
  {builts : List BuiltBatch} {e : BuildError} {s s' : Progress}

/-- A batch that lacks no templates is planned alike in both modes. -/
theorem Planner.plan_withStrict (strict : Bool) (h : ∀ op ∈ batch.operations, p.lacks op = false) :
    (p.withStrict strict).plan batch name = (p.withStrict false).plan batch name := by
  have hgoes : ∀ strict, ∀ op ∈ batch.operations, (p.withStrict strict).stops op = false := by
    intro strict op hop
    rw [stops_withStrict, h op hop, Bool.and_false]
  rw [plan_eq_ok (hgoes strict), plan_eq_ok (hgoes false), surfaceOf_withStrict,
    surfaceOf_withStrict]
  rfl

theorem materialize_withStrict (strict : Bool)
    (h : ∀ op ∈ batch.operations, p.lacks op = false) :
    materialize (p.withStrict strict) provision batch name s =
      materialize (p.withStrict false) provision batch name s := by
  rw [materialize, materialize, Planner.plan_withStrict strict h]

theorem clean_of_find? {lacks : Operation → Bool}
    (h : (batches.flatMap (·.operations)).find? lacks = none) :
    ∀ batch ∈ batches, ∀ op ∈ batch.operations, lacks op = false := by
  intro batch hbatch op hop
  have hnot := List.find?_eq_none.mp h op (List.mem_flatMap.mpr ⟨batch, hbatch, hop⟩)
  exact (Bool.not_eq_true _).mp hnot

/-- A run over batches that lack no templates is the same in both modes. -/
theorem materializeAll_withStrict (strict : Bool)
    (h : ∀ batch ∈ batches, ∀ op ∈ batch.operations, p.lacks op = false) :
    materializeAll (p.withStrict strict) provision nameOf batches s =
      materializeAll (p.withStrict false) provision nameOf batches s := by
  induction batches generalizing s with
  | nil => rfl
  | cons batch rest ih =>
      obtain ⟨hbatch, hrest⟩ := List.forall_mem_cons.mp h
      simp only [materializeAll, materialize_withStrict strict hbatch, ih hrest]

/-- In strict mode a batch that lacks templates is not built. -/
theorem materialize_strict_of_lacks {op : Operation}
    (h : batch.operations.find? p.lacks = some op) :
    (materialize (p.withStrict true) provision batch name s).1 =
      .error (.missingTemplate op.id) := by
  have hstops : (p.withStrict true).stops = p.lacks := by
    funext op
    rw [Planner.stops_withStrict, Bool.true_and]
  rw [← hstops] at h
  simp only [materialize, Planner.plan_eq_error h]

theorem materializeAll_cons_of_error
    (h : (materialize p provision batch (nameOf batch.index) s).1 = .error e) :
    (materializeAll p provision nameOf (batch :: batches) s).1 = .error e := by
  rw [materializeAll]
  split
  · rename_i heq
    rw [heq] at h
    cases h
    rfl
  · rename_i heq
    rw [heq] at h
    cases h

/-- A run that fails at its first batches does not come to the others. -/
theorem materializeAll_append_of_error
    (h : materializeAll p provision nameOf front s = (.error e, s')) :
    materializeAll p provision nameOf (front ++ back) s = (.error e, s') := by
  induction front generalizing s with
  | nil => cases h
  | cons batch rest ih =>
      rw [materializeAll] at h
      rw [List.cons_append, materializeAll]
      split at h
      · exact h
      · obtain ⟨hresult, rfl⟩ := Prod.mk.inj h
        rw [ih (Prod.ext (Outcome.map_eq_error.mp hresult) rfl)]
        rfl

/-- A run that builds its first batches goes on with the others from there. -/
theorem materializeAll_append_of_ok
    (h : materializeAll p provision nameOf front s = (.ok builts, s')) :
    materializeAll p provision nameOf (front ++ back) s =
      ((materializeAll p provision nameOf back s').1.map (builts ++ ·),
        (materializeAll p provision nameOf back s').2) := by
  induction front generalizing s builts with
  | nil =>
      cases h
      cases hback : (materializeAll p provision nameOf back s').1 with
      | error e => exact Prod.ext hback rfl
      | ok builts => exact Prod.ext hback rfl
  | cons batch rest ih =>
      rw [materializeAll] at h
      rw [List.cons_append, materializeAll]
      split at h
      · cases h
      · obtain ⟨hresult, rfl⟩ := Prod.mk.inj h
        obtain ⟨more, hmore, rfl⟩ := Outcome.map_eq_ok.mp hresult
        rw [ih (Prod.ext hmore rfl)]
        cases (materializeAll p provision nameOf back _).1 <;> rfl

theorem exists_ok_of_append
    (h : (materializeAll p provision nameOf (front ++ back) s).1.isOk = true) :
    ∃ builts s', materializeAll p provision nameOf front s = (.ok builts, s') := by
  cases hfront : materializeAll p provision nameOf front s with
  | mk result s' =>
      cases result with
      | ok builts => exact ⟨builts, s', rfl⟩
      | error e =>
          rw [materializeAll_append_of_error hfront] at h
          cases h

/-- The batch whose call is turned down is one of those to be built. -/
theorem exists_index_of_refused {k : Nat} {why : ProvisionError}
    (h : (materializeAll p provision nameOf batches s).1 = .error (.provision k why)) :
    ∃ batch ∈ batches, batch.index = k := by
  cases hrun : materializeAll p provision nameOf batches s with
  | mk result s' =>
      rw [hrun] at h
      cases h
      obtain ⟨front, batch, back, builts, s₁, rfl, -, hbatch⟩ := materializeAll_eq_error hrun
      cases hbatch with
      | refused hgoes hroutes hanswer => exact ⟨batch, by simp, rfl⟩

/-- A strict run ends at the first operation that lacks templates, if a lenient one gets as far as
its batch. -/
theorem strict_of_lacks {op : Operation} (hcut : batches = front ++ back)
    (hop : (front.flatMap (·.operations)).find? p.lacks = some op)
    (hgets : ∀ built rest, front = built ++ rest → rest ≠ [] → ∃ builts s',
      materializeAll (p.withStrict false) provision nameOf built s = (.ok builts, s')) :
    (materializeAll (p.withStrict true) provision nameOf batches s).1 =
      .error (.missingTemplate op.id) := by
  rw [List.find?_flatMap] at hop
  obtain ⟨built, batch, rest, rfl, hlacks, hclean⟩ := List.findSome?_eq_some_iff.mp hop
  obtain ⟨builts, s', hbuilt⟩ := hgets built (batch :: rest) rfl (List.cons_ne_nil batch rest)
  rw [← materializeAll_withStrict true fun b hb => by simpa using hclean b hb] at hbuilt
  rw [hcut, List.append_assoc, materializeAll_append_of_ok hbuilt, List.cons_append,
    Outcome.map_eq_error]
  exact materializeAll_cons_of_error (materialize_strict_of_lacks hlacks)

end Runs

end BatchedGateway
