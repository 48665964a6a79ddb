/- The operations of a description: when they are listed, in which order, and that no two of them
have one id. -/
import BatchedGateway.Operation.Index
import BatchedGateway.Proofs.Outcome

namespace BatchedGateway
open Outcome

/-- Operations are told apart by their ids. -/
def DistinctIds (ops : List IndexedOperation) : Prop := (ops.map (·.id)).Nodup

/-- An operation is the only one of its id. -/
theorem DistinctIds.filter_eq {ops : List IndexedOperation} (h : DistinctIds ops)
    {op : IndexedOperation} (hop : op ∈ ops) :
    (ops.filter fun other => other.id = op.id) = [op] := by
  induction ops with
  | nil => cases hop
  | cons first rest ih =>
      obtain ⟨hfirst, hrest⟩ := List.nodup_cons.mp h
      have hother : ∀ other ∈ rest, other.id ≠ first.id := fun other hmem heq =>
        hfirst (List.mem_map.mpr ⟨other, hmem, heq⟩)
      rcases List.mem_cons.mp hop with rfl | hmem
      · rw [List.filter_cons_of_pos (by simp), List.filter_eq_nil_iff.mpr (by simpa using hother)]
      · have hne : ¬ first.id = op.id := fun heq => hother op hmem heq.symm
        rw [List.filter_cons_of_neg (by simpa using hne), ih hrest hmem]

theorem DistinctIds.find?_eq {ops : List IndexedOperation} (h : DistinctIds ops)
    {op : IndexedOperation} (hop : op ∈ ops) :
    (ops.find? fun other => other.id == op.id) = some op := by
  have hfilter := h.filter_eq hop
  rw [← List.head?_filter]
  have hhead := congrArg List.head? hfilter
  simpa [BEq.beq] using hhead

theorem distinctIds_concat {ops : List IndexedOperation} {op : IndexedOperation} :
    DistinctIds (ops ++ [op]) ↔ DistinctIds ops ∧ ∀ first ∈ ops, first.id ≠ op.id := by
  rw [DistinctIds, List.map_append, List.nodup_append]
  simp [DistinctIds]

theorem Method.ofKey?_eq_some {key : String} {m : Method} :
    ofKey? key = some m ↔ lowerAscii key = m.key := by
  constructor
  · intro h
    rw [ofKey?] at h
    have hkey := List.find?_some h
    exact (beq_iff_eq.mp hkey).symm
  · intro h
    rw [ofKey?, h]
    cases m <;> decide

namespace Index

/-- A member of a path item is for an operation: its key is a method, in any letters, and its value
is an object. -/
structure IsOperation (member : String × Json) (method : Method) (body : Json.Members) : Prop where
  key : Method.lowerAscii member.1 = method.key
  value : member.2 = .obj body

theorem IsOperation.unique {member : String × Json} {method method' : Method}
    {body body' : Json.Members} (h : IsOperation member method body)
    (h' : IsOperation member method' body') : method = method' ∧ body = body' := by
  constructor
  · have hmethod := Method.ofKey?_eq_some.mpr h.key
    rw [Method.ofKey?_eq_some.mpr h'.key] at hmethod
    exact (Option.some.inj hmethod).symm
  · exact Json.obj.inj (h.value.symm.trans h'.value)

/-- If a member is for an operation, the operation has an id that is a text. -/
def HasId (member : String × Json) : Prop :=
  ∀ method body, IsOperation member method body →
    ∃ id, Json.Members.find? "operationId" body = some (.str id)

/-- The operation that a member is for, if it has an id. -/
def memberOperations (path : String) (member : String × Json) : List IndexedOperation :=
  match Method.ofKey? member.1, member.2 with
  | some method, .obj body =>
      match Json.Members.find? "operationId" body with
      | some (.str id) => [⟨path, method, id⟩]
      | _ => []
  | _, _ => []

def itemOperations (item : String × Json) : List IndexedOperation :=
  match item.2 with
  | .obj members => members.flatMap (memberOperations item.1)
  | _ => []

/-- Path by path, and member by member. -/
def listing (paths : Json.Members) : List IndexedOperation := paths.flatMap itemOperations

/-- Paths of which all operations can be listed. -/
structure Sound (paths : Json.Members) : Prop where
  items : ∀ item ∈ paths, ∃ members, item.2 = .obj members
  ids : ∀ item ∈ paths, ∀ members, item.2 = .obj members → ∀ member ∈ members, HasId member
  distinct : DistinctIds (listing paths)

/-- A step that fails unless what it is for is fine and all of its ids are new, and that lists its
operations behind those seen so far. -/
def ListsBy {α ε : Type} (f : List IndexedOperation → α → Except ε (List IndexedOperation))
    (fine : α → Prop) (added : α → List IndexedOperation) : Prop :=
  ∀ seen seen' a, DistinctIds seen →
    (f seen a = .ok seen' ↔ fine a ∧ DistinctIds (seen ++ added a) ∧ seen' = seen ++ added a)

variable {path : String} {seen seen' : List IndexedOperation}

theorem idOf_eq_ok {method : Method} {body : Json.Members} {id : String} :
    idOf path method body = .ok id ↔
      Json.Members.find? "operationId" body = some (.str id) := by
  unfold idOf
  split <;> simp_all

theorem add_eq_ok (h : DistinctIds seen) {op : IndexedOperation} :
    add seen op = .ok seen' ↔ DistinctIds (seen ++ [op]) ∧ seen' = seen ++ [op] := by
  rw [distinctIds_concat, add]
  cases hfind : seen.find? fun first => first.id == op.id with
  | none =>
      have hnew : ∀ first ∈ seen, first.id ≠ op.id := by simpa using hfind
      constructor
      · intro hadd
        cases hadd
        exact ⟨⟨h, hnew⟩, rfl⟩
      · rintro ⟨-, rfl⟩
        rfl
  | some first =>
      have hsame : first.id = op.id := by simpa using List.find?_some hfind
      constructor
      · intro hadd
        cases hadd
      · rintro ⟨⟨-, hnew⟩, -⟩
        exact absurd hsame (hnew first (List.mem_of_find?_eq_some hfind))

section Member

variable {member : String × Json} {method : Method} {body : Json.Members}

theorem addMember_of_isOperation (h : IsOperation member method body) :
    addMember path seen member =
      idOf path method body >>= fun id => add seen ⟨path, method, id⟩ := by
  obtain ⟨key, value⟩ := member
  cases h.value
  simp only [addMember, Method.ofKey?_eq_some.mpr h.key]

theorem memberOperations_of_isOperation (h : IsOperation member method body) {id : String}
    (hid : Json.Members.find? "operationId" body = some (.str id)) :
    memberOperations path member = [⟨path, method, id⟩] := by
  obtain ⟨key, value⟩ := member
  cases h.value
  simp only [memberOperations, Method.ofKey?_eq_some.mpr h.key, hid]

/-- Members that are for no operation are passed over. -/
theorem addMember_of_no_operation (path : String) (seen : List IndexedOperation)
    (h : ∀ method body, ¬ IsOperation member method body) :
    addMember path seen member = .ok seen ∧ memberOperations path member = [] := by
  obtain ⟨key, value⟩ := member
  cases hmethod : Method.ofKey? key with
  | none => simp only [addMember, memberOperations, hmethod, and_self]
  | some method =>
      cases value with
      | obj body => exact absurd ⟨Method.ofKey?_eq_some.mp hmethod, rfl⟩ (h method body)
      | _ => simp only [addMember, memberOperations, hmethod, and_self]

end Member

theorem listsBy_addMember (path : String) :
    ListsBy (addMember path) HasId (memberOperations path) := by
  intro seen seen' member h
  by_cases hmember : ∃ method body, IsOperation member method body
  · obtain ⟨method, body, hmember⟩ := hmember
    rw [addMember_of_isOperation hmember, bind_eq_ok]
    constructor
    · rintro ⟨id, hid, hadd⟩
      have hid := idOf_eq_ok.mp hid
      rw [memberOperations_of_isOperation hmember hid]
      refine ⟨?_, (add_eq_ok h).mp hadd⟩
      intro method' body' hother
      obtain ⟨rfl, rfl⟩ := hmember.unique hother
      exact ⟨id, hid⟩
    · rintro ⟨hhas, hadd⟩
      obtain ⟨id, hid⟩ := hhas method body hmember
      rw [memberOperations_of_isOperation hmember hid] at hadd
      exact ⟨id, idOf_eq_ok.mpr hid, (add_eq_ok h).mpr hadd⟩
  · simp only [not_exists] at hmember
    obtain ⟨hadd, hnone⟩ := addMember_of_no_operation path seen hmember
    rw [hadd, hnone, List.append_nil]
    constructor
    · intro heq
      cases heq
      exact ⟨fun method body hother => absurd hother (hmember method body), h, rfl⟩
    · rintro ⟨-, -, rfl⟩
      rfl

/-- A chain of such steps is one step of this kind, for all of its items together. -/
theorem ListsBy.foldlM {α ε : Type} {fine : α → Prop} {added : α → List IndexedOperation}
    {f : List IndexedOperation → α → Except ε (List IndexedOperation)}
    (hstep : ListsBy f fine added) :
    ListsBy (fun seen (items : List α) => items.foldlM f seen) (fun items => ∀ a ∈ items, fine a)
      (·.flatMap added) := by
  intro seen seen' items h
  change items.foldlM f seen = .ok seen' ↔ (∀ a ∈ items, fine a) ∧
    DistinctIds (seen ++ items.flatMap added) ∧ seen' = seen ++ items.flatMap added
  induction items generalizing seen with
  | nil =>
      rw [List.foldlM_nil, List.flatMap_nil, List.append_nil]
      constructor
      · intro heq
        cases heq
        exact ⟨by simp, h, rfl⟩
      · rintro ⟨-, -, rfl⟩
        rfl
  | cons a rest ih =>
      rw [List.foldlM_cons, bind_eq_ok, List.forall_mem_cons, List.flatMap_cons,
        ← List.append_assoc]
      constructor
      · rintro ⟨next, hfirst, hrest⟩
        obtain ⟨hfine, hnext, rfl⟩ := (hstep _ _ _ h).mp hfirst
        obtain ⟨hall, hlisted⟩ := (ih _ hnext).mp hrest
        exact ⟨⟨hfine, hall⟩, hlisted⟩
      · rintro ⟨⟨hfine, hall⟩, hdistinct, rfl⟩
        have hnext : DistinctIds (seen ++ added a) := by
          rw [DistinctIds, List.map_append] at hdistinct
          exact (List.nodup_append.mp hdistinct).1
        exact ⟨_, (hstep _ _ _ h).mpr ⟨hfine, hnext, rfl⟩,
          (ih _ hnext).mpr ⟨hall, hdistinct, rfl⟩⟩

theorem listsBy_addPath : ListsBy addPath
    (fun item => ∃ members, item.2 = .obj members ∧ ∀ member ∈ members, HasId member)
    itemOperations := by
  intro seen seen' item h
  obtain ⟨path, value⟩ := item
  cases value with
  | obj members =>
      have hmembers := (listsBy_addMember path).foldlM seen seen' members h
      simpa [addPath, itemOperations] using hmembers
  | _ => simp [addPath]

theorem addPaths_eq_ok {paths : Json.Members} {ops : List IndexedOperation} :
    paths.foldlM addPath [] = .ok ops ↔ Sound paths ∧ ops = listing paths := by
  have hpaths := listsBy_addPath.foldlM [] ops paths List.nodup_nil
  rw [List.nil_append] at hpaths
  rw [hpaths]
  constructor
  · rintro ⟨hitems, hdistinct, hops⟩
    refine ⟨⟨fun item hitem => ?_, fun item hitem members hmembers => ?_, hdistinct⟩, hops⟩
    · obtain ⟨members, hmembers, -⟩ := hitems item hitem
      exact ⟨members, hmembers⟩
    · obtain ⟨members', hmembers', hids⟩ := hitems item hitem
      cases hmembers.symm.trans hmembers'
      exact hids
  · rintro ⟨hsound, hops⟩
    refine ⟨fun item hitem => ?_, hsound.distinct, hops⟩
    obtain ⟨members, hmembers⟩ := hsound.items item hitem
    exact ⟨members, hmembers, hsound.ids item hitem members hmembers⟩

end Index

/-- A description without paths has no operations, and one with sound paths those of its paths. -/
inductive Listed : Json → List IndexedOperation → Prop
  | noPaths {root : Json.Members} (h : Json.Members.find? "paths" root = none) :
      Listed (.obj root) []
  | nullPaths {root : Json.Members} (h : Json.Members.find? "paths" root = some .null) :
      Listed (.obj root) []
  | paths {root paths : Json.Members} (h : Json.Members.find? "paths" root = some (.obj paths))
      (hsound : Index.Sound paths) : Listed (.obj root) (Index.listing paths)

theorem indexOperations_eq_ok {document : Json} {ops : List IndexedOperation} :
    indexOperations document = .ok ops ↔ Listed document ops := by
  constructor
  · intro h
    unfold indexOperations at h
    split at h
    · split at h
      · cases h
        exact .noPaths (by assumption)
      · cases h
        exact .nullPaths (by assumption)
      · obtain ⟨hsound, rfl⟩ := Index.addPaths_eq_ok.mp h
        exact .paths (by assumption) hsound
      · cases h
    · cases h
  · intro h
    cases h with
    | noPaths h => simp only [indexOperations, h]
    | nullPaths h => simp only [indexOperations, h]
    | paths h hsound =>
        simp only [indexOperations, h]
        exact Index.addPaths_eq_ok.mpr ⟨hsound, rfl⟩

theorem distinctIds_indexOperations {document : Json} {ops : List IndexedOperation}
    (h : indexOperations document = .ok ops) : DistinctIds ops := by
  cases indexOperations_eq_ok.mp h with
  | noPaths => exact List.nodup_nil
  | nullPaths => exact List.nodup_nil
  | paths hpaths hsound => exact hsound.distinct

end BatchedGateway
