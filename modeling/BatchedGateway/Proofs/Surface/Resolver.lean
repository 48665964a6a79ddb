/- Where the resolvers of a surface are taken from: below the directory for them, as long as the ids
of their operations are names. -/
import BatchedGateway.Proofs.Files.Path
import BatchedGateway.Proofs.Surface.Chain

namespace BatchedGateway.Planner

section Surfaces

variable {p : Planner} {batch : Batch Operation} {name : String} {surface : Surface}
  {warnings : List Diagnostic} {b other : ResolverBinding}

/-- A batch that is planned to its end has the surface that is laid out for it. -/
theorem surfaceOf_of_plan (h : p.plan batch name = (.ok surface, warnings)) :
    surface = p.surfaceOf batch name := by
  cases hfind : batch.operations.find? p.stops with
  | some op =>
      rw [plan_eq_error hfind] at h
      cases h
  | none =>
      have hgoes : ∀ op ∈ batch.operations, p.stops op = false :=
        fun op hop => (Bool.not_eq_true _).mp (List.find?_eq_none.mp hfind op hop)
      rw [plan_eq_ok hgoes] at h
      cases h
      rfl

/-- A binding is for an operation of the batch, and its directory is joined of that for resolvers
and the id. -/
theorem exists_of_mem_resolvers (h : p.plan batch name = (.ok surface, warnings))
    (hb : b ∈ surface.resolvers) : ∃ op ∈ batch.operations, p.BoundTo op b := by
  rw [surfaceOf_of_plan h] at hb
  obtain ⟨op, hop, -, hresolver⟩ := mem_bindings.mp hb
  rcases resolver_cases (p := p) op with ⟨-, other, hother, hbound⟩ | ⟨-, hnone⟩
  · cases hother.symm.trans hresolver
    exact ⟨op, hop, hbound⟩
  · cases hnone.symm.trans hresolver

theorem exists_join_of_mem (h : p.plan batch name = (.ok surface, warnings))
    (hb : b ∈ surface.resolvers) : ∃ directory, p.options.resolverDir = some directory ∧
      b.directory = Files.join directory b.operation := by
  obtain ⟨op, -, hbound⟩ := exists_of_mem_resolvers h hb
  obtain ⟨directory, hdirectory, hjoin⟩ := Option.map_eq_some_iff.mp hbound.directory
  rw [← hbound.operation] at hjoin
  exact ⟨directory, hdirectory, hjoin.symm⟩

/-- Two ids that are names have two directories. -/
theorem operation_eq_of_components_eq (h : p.plan batch name = (.ok surface, warnings))
    (hb : b ∈ surface.resolvers) (hother : other ∈ surface.resolvers)
    (hname : Files.IsName b.operation) (hname' : Files.IsName other.operation)
    (hsame : Files.components b.directory = Files.components other.directory) :
    b.operation = other.operation := by
  obtain ⟨directory, hdirectory, hjoin⟩ := exists_join_of_mem h hb
  obtain ⟨directory', hdirectory', hjoin'⟩ := exists_join_of_mem h hother
  cases hdirectory.symm.trans hdirectory'
  rw [hjoin, hjoin', hname.components_join_eq, hname'.components_join_eq] at hsame
  simpa using List.append_cancel_left hsame

/-- A relative id leads on from the directory for resolvers by its own steps, and an absolute one
leaves it. A resolver is right inside of that directory, under the id of its operation, if and only
if the id is a name, and no two names share one. -/
theorem resolvers_inside (h : p.plan batch name = (.ok surface, warnings)) :
    (∀ b ∈ surface.resolvers, ∃ directory, p.options.resolverDir = some directory ∧
      (Files.isAbsolute b.operation = true ∨ directory = "" → b.directory = b.operation) ∧
      (Files.isAbsolute b.operation = false → directory ≠ "" →
        Files.components b.directory =
          Files.components directory ++ Files.stepsOf b.operation) ∧
      (Files.components b.directory = Files.components directory ++ [.named b.operation] ↔
        Files.IsName b.operation)) ∧
    ∀ b ∈ surface.resolvers, ∀ other ∈ surface.resolvers,
      Files.IsName b.operation → Files.IsName other.operation → b.operation ≠ other.operation →
        Files.components b.directory ≠ Files.components other.directory := by
  constructor
  · intro b hb
    obtain ⟨directory, hdirectory, hjoin⟩ := exists_join_of_mem h hb
    refine ⟨directory, hdirectory, ?_, ?_, ?_⟩
    · intro hself
      rw [hjoin, Files.join_eq_self hself]
    · intro hrelative hnonempty
      rw [hjoin, Files.components_join hnonempty hrelative]
    · rw [hjoin]
      exact Files.components_join_iff
  · intro b hb other hother hname hname' hdifferent hsame
    exact hdifferent (operation_eq_of_components_eq h hb hother hname hname' hsame)

end Surfaces

/-- A planner without templates over a tree with two resolvers. -/
def twoResolvers : Planner where
  templates := ∅
  options := { resolverDir := some "resolvers" }
  isDirectory := Files.Tree.isDirectory
    [("resolvers", .directory [("fetch", .directory []), ("poke", .directory [])])]

def namedBatch : Batch Operation where
  index := 0
  operations := [⟨"fetch", "/fetch", .get, "a", .query⟩, ⟨"poke", "/poke", .get, "a", .query⟩]

theorem resolvers_inside_named :
    ∃ surface warnings, twoResolvers.plan namedBatch "p-batch0" = (.ok surface, warnings) ∧
      surface.resolvers.map (·.directory) = ["resolvers/fetch", "resolvers/poke"] ∧
      (∀ b ∈ surface.resolvers,
        Files.components b.directory = [.named "resolvers", .named b.operation]) ∧
      ∀ b ∈ surface.resolvers, ∀ other ∈ surface.resolvers, b.operation ≠ other.operation →
        Files.components b.directory ≠ Files.components other.directory := by
  have hplan := plan_lenient twoResolvers namedBatch "p-batch0"
  have hnames : ∀ b ∈ (twoResolvers.surfaceOf namedBatch "p-batch0").resolvers,
      Files.IsName b.operation := by decide +kernel
  obtain ⟨hinside, hapart⟩ := resolvers_inside hplan
  refine ⟨_, _, hplan, by decide +kernel, ?_, ?_⟩
  · intro b hb
    obtain ⟨directory, hdirectory, -, -, hiff⟩ := hinside b hb
    obtain rfl : "resolvers" = directory := Option.some.inj hdirectory
    exact hiff.mpr (hnames b hb)
  · intro b hb other hother
    exact hapart b hb other hother (hnames b hb) (hnames other hother)

/-- The second id is the first with a slash behind it, and the third is absolute. -/
def slashedBatch : Batch Operation where
  index := 0
  operations := [⟨"fetch", "/fetch", .get, "a", .query⟩, ⟨"fetch/", "/a", .get, "a", .query⟩,
    ⟨"/", "/b", .get, "a", .query⟩]

/-- With such ids one resolver is taken from outside of the directory for them, and two operations
share another. -/
theorem slashed_ids_lead_astray :
    ∃ surface warnings, twoResolvers.plan slashedBatch "p-batch0" = (.ok surface, warnings) ∧
      surface.resolvers.map (fun b => (b.operation, b.directory)) =
        [("fetch", "resolvers/fetch"), ("fetch/", "resolvers/fetch/"), ("/", "/")] ∧
      ¬ (∀ b ∈ surface.resolvers, Files.components b.directory =
        Files.components "resolvers" ++ [.named b.operation]) ∧
      ¬ (∀ b ∈ surface.resolvers, ∀ other ∈ surface.resolvers, b.operation ≠ other.operation →
        Files.components b.directory ≠ Files.components other.directory) :=
  ⟨_, _, plan_lenient twoResolvers slashedBatch "p-batch0", by decide +kernel, by decide +kernel,
    by decide +kernel⟩

end BatchedGateway.Planner
