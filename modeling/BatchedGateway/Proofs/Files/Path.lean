/- Paths by their components: what a path that is joined to a directory adds to those, and that
nothing but a name adds itself and no more. -/
import BatchedGateway.Files.Access
import BatchedGateway.Files.Tree
import BatchedGateway.Proofs.Text.Pieces

namespace BatchedGateway.Files

/-- What a path says of one step. -/
inductive Component
  | root
  | here
  | above
  | named (name : String)
  deriving DecidableEq, Repr

/-- A slash too many and a single point are no step. -/
def componentOf? (part : String) : Option Component :=
  if part = "" ∨ part = "." then none else if part = ".." then some .above else some (.named part)

/-- The steps of a path, wherever it starts. -/
def stepsOf (path : String) : List Component := (Tree.partsOf path).filterMap componentOf?

/-- The components of a path. A single point counts only where a path starts with it. Two paths are
one if they have the same components. -/
def components (path : String) : List Component :=
  (if isAbsolute path then [.root]
    else if (Tree.partsOf path).head? = some "." then [.here] else []) ++ stepsOf path

/-- A text that is a component by itself: it is not empty, no single or double point, and has no
slash in it. -/
structure IsName (s : String) : Prop where
  ne_empty : s ≠ ""
  ne_point : s ≠ "."
  ne_points : s ≠ ".."
  notMem : '/' ∉ s.toList

theorem isName_iff {s : String} :
    IsName s ↔ s ≠ "" ∧ s ≠ "." ∧ s ≠ ".." ∧ '/' ∉ s.toList :=
  ⟨fun ⟨hempty, hpoint, hpoints, hslash⟩ => ⟨hempty, hpoint, hpoints, hslash⟩,
    fun ⟨hempty, hpoint, hpoints, hslash⟩ => ⟨hempty, hpoint, hpoints, hslash⟩⟩

instance (s : String) : Decidable (IsName s) := decidable_of_iff _ isName_iff.symm

theorem componentOf?_eq_named {part name : String} : componentOf? part = some (.named name) ↔
    part = name ∧ name ≠ "" ∧ name ≠ "." ∧ name ≠ ".." := by
  rw [componentOf?]
  constructor
  · intro h
    split at h
    · cases h
    · rename_i hidle
      split at h
      · cases h
      · rename_i hpoints
        cases h
        obtain ⟨hempty, hpoint⟩ := not_or.mp hidle
        exact ⟨rfl, hempty, hpoint, hpoints⟩
  · rintro ⟨rfl, hempty, hpoint, hpoints⟩
    rw [if_neg (not_or.mpr ⟨hempty, hpoint⟩), if_neg hpoints]

theorem partsOf_append_slash (front rest : String) :
    Tree.partsOf (front ++ "/" ++ rest) = Tree.partsOf front ++ Tree.partsOf rest := by
  have hslash : (front ++ "/" ++ rest).toList = front.toList ++ '/' :: rest.toList := by simp
  rw [Tree.partsOf, hslash, Text.pieces_append_sep, List.map_append]
  rfl

theorem partsOf_ne_nil (path : String) : Tree.partsOf path ≠ [] := by
  rw [Tree.partsOf]
  exact mt List.map_eq_nil_iff.mp (Text.pieces_ne_nil '/' path.toList)

namespace IsName

variable {name : String} (h : IsName name)

include h

theorem partsOf_eq : Tree.partsOf name = [name] := by
  rw [Tree.partsOf, Text.pieces_of_notMem h.notMem, List.map_singleton, String.ofList_toList]

theorem stepsOf_eq : stepsOf name = [.named name] := by
  have hname : componentOf? name = some (.named name) :=
    componentOf?_eq_named.mpr ⟨rfl, h.ne_empty, h.ne_point, h.ne_points⟩
  rw [stepsOf, h.partsOf_eq, List.filterMap_cons_some hname, List.filterMap_nil]

theorem isAbsolute_eq : isAbsolute name = false := by
  rw [isAbsolute, beq_eq_false_iff_ne]
  exact fun hhead => h.notMem (List.mem_of_mem_head? hhead)

end IsName

/-- Only names are components. -/
theorem isName_of_mem {name path : String} (h : .named name ∈ components path) : IsName name := by
  have hsteps : .named name ∈ stepsOf path := by
    rcases List.mem_append.mp h with hstart | hsteps
    · split at hstart
      · simp at hstart
      · split at hstart <;> simp at hstart
    · exact hsteps
  obtain ⟨part, hpart, hcomponent⟩ := List.mem_filterMap.mp hsteps
  obtain ⟨rfl, hempty, hpoint, hpoints⟩ := componentOf?_eq_named.mp hcomponent
  refine ⟨hempty, hpoint, hpoints, ?_⟩
  obtain ⟨piece, hpiece, rfl⟩ := List.mem_map.mp hpart
  rw [String.toList_ofList]
  exact (Text.mem_pieces.mp hpiece).notMem

theorem isAbsolute_append {front rest : String} (h : front.toList ≠ []) :
    isAbsolute (front ++ rest) = isAbsolute front := by
  obtain ⟨c, cs, hfront⟩ := List.exists_cons_of_ne_nil h
  rw [isAbsolute, isAbsolute, String.toList_append, hfront]
  rfl

/-- What stands behind the parts of a directory adds its steps, whatever else stood there that is no
step. -/
theorem components_of_parts {path directory rest : String} {parts idle : List String}
    (habsolute : isAbsolute path = isAbsolute directory) (hparts : parts ≠ [])
    (hpath : Tree.partsOf path = parts ++ Tree.partsOf rest)
    (hdirectory : Tree.partsOf directory = parts ++ idle)
    (hidle : idle.filterMap componentOf? = []) :
    components path = components directory ++ stepsOf rest := by
  have hhead : (Tree.partsOf path).head? = (Tree.partsOf directory).head? := by
    obtain ⟨first, more, rfl⟩ := List.exists_cons_of_ne_nil hparts
    rw [hpath, hdirectory]
    rfl
  have hsteps : stepsOf path = stepsOf directory ++ stepsOf rest := by
    rw [stepsOf, stepsOf, stepsOf, hpath, hdirectory, List.filterMap_append, List.filterMap_append,
      hidle, List.append_nil]
  rw [components, components, habsolute, hhead, hsteps, List.append_assoc]

/-- A relative path that is joined to a directory adds its steps. -/
theorem components_join {directory path : String} (hdirectory : directory ≠ "")
    (hrelative : isAbsolute path = false) :
    components (join directory path) = components directory ++ stepsOf path := by
  rw [join, hrelative, if_neg Bool.false_ne_true]
  split
  · rename_i hnone
    exact absurd (String.toList_eq_nil_iff.mp (List.getLast?_eq_none_iff.mp hnone)) hdirectory
  · rename_i hlast
    obtain ⟨front, hfront⟩ := List.getLast?_eq_some_iff.mp hlast
    have hslash : directory = String.ofList front ++ "/" ++ "" := by
      rw [← String.toList_inj]
      simp [hfront]
    have hpath : directory ++ path = String.ofList front ++ "/" ++ path := by
      rw [hslash, String.append_empty]
    have hparts : Tree.partsOf directory = Tree.partsOf (String.ofList front) ++ [""] := by
      rw [hslash, partsOf_append_slash]
      rfl
    refine components_of_parts (isAbsolute_append (by simp [hfront]))
      (partsOf_ne_nil (String.ofList front)) ?_ hparts rfl
    rw [hpath, partsOf_append_slash]
  · have hnonempty : directory.toList ≠ [] := mt String.toList_eq_nil_iff.mp hdirectory
    refine components_of_parts ?_ (partsOf_ne_nil directory) (partsOf_append_slash directory path)
      (List.append_nil _).symm rfl
    rw [String.append_assoc, isAbsolute_append hnonempty]

/-- An absolute path is joined to no directory, nor is one to the empty text. -/
theorem join_eq_self {directory path : String} (h : isAbsolute path = true ∨ directory = "") :
    join directory path = path := by
  rw [join]
  split
  · rfl
  · rename_i hrelative
    rw [h.resolve_left hrelative]
    rfl

/-- A name that is joined to a directory is one component more. -/
theorem IsName.components_join_eq {directory name : String} (h : IsName name) :
    components (join directory name) = components directory ++ [.named name] := by
  by_cases hdirectory : directory = ""
  · have hhead : ¬ [name].head? = some "." := fun heq => h.ne_point (Option.some.inj heq)
    rw [join_eq_self (.inr hdirectory), components, h.isAbsolute_eq, if_neg Bool.false_ne_true,
      h.partsOf_eq, if_neg hhead, h.stepsOf_eq, hdirectory]
    rfl
  · rw [components_join hdirectory h.isAbsolute_eq, h.stepsOf_eq]

/-- Nothing but a name is. -/
theorem components_join_iff {directory name : String} :
    components (join directory name) = components directory ++ [.named name] ↔ IsName name := by
  refine ⟨fun h => ?_, IsName.components_join_eq⟩
  have hmem : Component.named name ∈ components (join directory name) := by
    rw [h]
    exact List.mem_append_right _ List.mem_cons_self
  exact isName_of_mem hmem

end BatchedGateway.Files
