/- The order of operations: on the way from the text of a description to its operations none of them
is moved, merged or lost. -/
import BatchedGateway.Description
import BatchedGateway.Proofs.Json.Parsing
import BatchedGateway.Proofs.Operation.Index

namespace BatchedGateway
open Outcome

/-- What a path item has under a key: an operation, under some spelling of its method, or a value
under a key that is no method. The value stands in three objects. -/
inductive OutlineMember
  | operation (key : String) (method : Method) (id : String)
      (spelling : Method.lowerAscii key = method.key)
  | other (key : String) (value : Json) (noMethod : ∀ m : Method, Method.lowerAscii key ≠ m.key)
      (within : value.Within (Json.depthLimit - 3))

namespace OutlineMember

def key : OutlineMember → String
  | operation key _ _ _ => key
  | other key _ _ _ => key

def value : OutlineMember → Json
  | operation _ _ id _ => .obj [("operationId", .str id)]
  | other _ value _ _ => value

def operations (path : String) : OutlineMember → List IndexedOperation
  | operation _ method id _ => [⟨path, method, id⟩]
  | other _ _ _ _ => []

theorem within_value (m : OutlineMember) : m.value.Within (Json.depthLimit - 3) := by
  cases m with
  | operation key method id spelling => exact Json.within_obj.mpr (by simp)
  | other key value noMethod within => exact within

end OutlineMember

/-- A path and its members, whose keys are distinct. -/
structure OutlineItem where
  path : String
  members : List OutlineMember
  distinct : (members.map (·.key)).Nodup

namespace OutlineItem

def toJson (item : OutlineItem) : Json := .obj (item.members.map fun m => (m.key, m.value))

def operations (item : OutlineItem) : List IndexedOperation :=
  item.members.flatMap (·.operations item.path)

theorem tidy_toJson (item : OutlineItem) :
    item.toJson.tidy = .obj (item.members.map fun m => (m.key, m.value.tidy)) := by
  have hkeys : ((item.members.map fun m => (m.key, m.value)).map (·.1)).Nodup := by
    rw [List.map_map]
    exact item.distinct
  rw [toJson, Json.tidy_obj hkeys, List.map_map]
  rfl

end OutlineItem

/-- A description by its paths. They are distinct, and so are the ids of all operations. -/
structure Outline where
  items : List OutlineItem
  distinct : (items.map (·.path)).Nodup
  distinctIds : DistinctIds (items.flatMap (·.operations))

namespace Outline

def toJson (o : Outline) : Json :=
  .obj [("paths", .obj (o.items.map fun item => (item.path, item.toJson)))]

/-- The operations in the order of the outline. -/
def operations (o : Outline) : List IndexedOperation := o.items.flatMap (·.operations)

end Outline

namespace OutlineMember

/-- What is left of a member once its text has been read. -/
def read (m : OutlineMember) : String × Json := (m.key, m.value.tidy)

theorem isOperation (key : String) (method : Method) (id : String)
    (spelling : Method.lowerAscii key = method.key) :
    Index.IsOperation (operation key method id spelling).read method
      [("operationId", .str id)] := by
  refine ⟨spelling, ?_⟩
  rw [read, value, Json.tidy_obj (by simp)]
  simp

theorem not_isOperation (key : String) (value : Json)
    (noMethod : ∀ m : Method, Method.lowerAscii key ≠ m.key)
    (within : value.Within (Json.depthLimit - 3)) (method : Method) (body : Json.Members) :
    ¬ Index.IsOperation (other key value noMethod within).read method body := by
  intro h
  exact noMethod method h.key

theorem hasId (m : OutlineMember) : Index.HasId m.read := by
  intro method' body' h
  cases m with
  | operation key method id spelling =>
      obtain ⟨rfl, rfl⟩ := (isOperation key method id spelling).unique h
      exact ⟨id, Json.Members.find?_cons_self _ _ _⟩
  | other key value noMethod within =>
      exact absurd h (not_isOperation key value noMethod within method' body')

theorem memberOperations_read (m : OutlineMember) (path : String) :
    Index.memberOperations path m.read = m.operations path := by
  cases m with
  | operation key method id spelling =>
      exact Index.memberOperations_of_isOperation (isOperation key method id spelling)
        (Json.Members.find?_cons_self _ _ _)
  | other key value noMethod within =>
      exact (Index.addMember_of_no_operation path []
        (not_isOperation key value noMethod within)).2

end OutlineMember

namespace OutlineItem

def read (item : OutlineItem) : String × Json := (item.path, item.toJson.tidy)

theorem itemOperations_read (item : OutlineItem) :
    Index.itemOperations item.read = item.operations := by
  simp only [Index.itemOperations, read, tidy_toJson, List.flatMap_map]
  exact congrArg (item.members.flatMap ·) (funext fun m => m.memberOperations_read item.path)

end OutlineItem

namespace Outline

theorem within_toJson (o : Outline) : o.toJson.Within Json.depthLimit := by
  refine Json.within_obj.mpr ?_
  rw [List.forall_mem_singleton]
  refine Json.within_obj.mpr (List.forall_mem_map.mpr fun item _ => ?_)
  exact Json.within_obj.mpr (List.forall_mem_map.mpr fun m _ => m.within_value)

theorem tidy_toJson (o : Outline) :
    o.toJson.tidy = .obj [("paths", .obj (o.items.map (·.read)))] := by
  have hpaths : ((o.items.map fun item => (item.path, item.toJson)).map (·.1)).Nodup := by
    rw [List.map_map]
    exact o.distinct
  rw [toJson, Json.tidy_obj (by simp), List.map_singleton, Json.tidy_obj hpaths, List.map_map]
  rfl

theorem listing_read (o : Outline) : Index.listing (o.items.map (·.read)) = o.operations := by
  rw [Index.listing, List.flatMap_map]
  exact congrArg (o.items.flatMap ·) (funext fun item => item.itemOperations_read)

theorem sound_read (o : Outline) : Index.Sound (o.items.map (·.read)) := by
  refine ⟨?_, ?_, ?_⟩
  · rw [List.forall_mem_map]
    intro item _
    exact ⟨_, item.tidy_toJson⟩
  · rw [List.forall_mem_map]
    intro item _ members hmembers
    cases item.tidy_toJson.symm.trans hmembers
    rw [List.forall_mem_map]
    intro m _
    exact m.hasId
  · rw [listing_read]
    exact o.distinctIds

theorem indexOperations_tidy (o : Outline) :
    indexOperations o.toJson.tidy = .ok o.operations := by
  rw [tidy_toJson, ← listing_read]
  exact indexOperations_eq_ok.mpr (.paths (Json.Members.find?_cons_self _ _ _) o.sound_read)

end Outline

theorem Description.parse_print {blanks : String} (hblanks : blanks.toList.all Json.Written.isSpace)
    {members : Json.Members} (h : (Json.obj members).Within Json.depthLimit)
    (layout : Json.Layout) {format : Format} (hformat : format = .json ∨ format = .auto) :
    parse (blanks ++ layout.print (.obj members)) format =
      .ok ⟨(Json.obj members).tidy, .json⟩ := by
  have hdocument : ofJson (blanks ++ layout.print (.obj members)) =
      .ok (Json.obj members).tidy := by
    rw [ofJson, Json.parse_print layout hblanks h, mapError_ok]
  rcases hformat with rfl | rfl
  · rw [parse, hdocument, ok_bind]
  · rw [parse, detect, if_pos (.inl (Json.firstInk_print layout hblanks members)), hdocument]

/-- Operations come out of the text of a description in the order in which they were put into it, in
either layout and behind any blanks, whether the text is said to be JSON or not. -/
theorem indexOperations_print (o : Outline) (layout : Json.Layout) {blanks : String}
    (hblanks : blanks.toList.all Json.Written.isSpace) {format : Format}
    (hformat : format = .json ∨ format = .auto) :
    ∃ document, Description.parse (blanks ++ layout.print o.toJson) format =
        .ok ⟨document, .json⟩ ∧
      indexOperations document = .ok o.operations :=
  ⟨o.toJson.tidy, Description.parse_print hblanks o.within_toJson layout hformat,
    o.indexOperations_tidy⟩

/-- Two paths, with methods in capitals and small letters, and something that is no operation. -/
def mixedCase : Outline where
  items := [
    { path := "/b"
      members := [
        .operation "PuT" .put "z" (by decide),
        .other "x-get" (.arr [.null, .num (.int (-1))]) (by intro m; cases m <;> decide)
          (Json.within_arr.mpr (by simp [Json.Within])),
        .operation "put" .put "\"\\" (by decide)]
      distinct := by decide },
    { path := "/a", members := [.operation "get" .get "a" (by decide)], distinct := by decide }]
  distinct := by decide
  distinctIds := by simp [DistinctIds, OutlineItem.operations, OutlineMember.operations]

theorem indexOperations_print_mixedCase :
    ∃ document, Description.parse ("\n\t " ++ mixedCase.toJson.pretty) .auto =
        .ok ⟨document, .json⟩ ∧
      indexOperations document =
        .ok [⟨"/b", .put, "z"⟩, ⟨"/b", .put, "\"\\"⟩, ⟨"/a", .get, "a"⟩] :=
  indexOperations_print mixedCase .pretty (by decide) (.inr rfl)

end BatchedGateway
