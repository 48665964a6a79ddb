/- Why the operations of a description are not listed: of all that is wrong with it, the error names
what comes first in the document. -/
import BatchedGateway.Proofs.Operation.Index

namespace BatchedGateway
open Outcome

namespace Index

/-- What is wrong with the value that is to be the id of an operation, after others with sound ids.
An id of one of these is taken. -/
inductive IdFault (before : List IndexedOperation) (path : String) (method : Method) :
    Option Json → IndexError → Prop
  | missing : IdFault before path method none (.missingId path method)
  | null : IdFault before path method (some .null) (.missingId path method)
  | notText {value : Json} (hnull : value ≠ .null) (htext : ∀ id, value ≠ .str id) :
      IdFault before path method (some value) (.idNotAString path method)
  | taken {first : IndexedOperation} (hfirst : first ∈ before) :
      IdFault before path method (some (.str first.id))
        (.duplicateId first.id path method first.path first.method)

/-- What is wrong with a path item or with one of its members, all before it being sound. -/
inductive PathFault : Json.Members → IndexError → Prop
  | item {front back : Json.Members} {path : String} {value : Json} (hfront : Sound front)
      (hvalue : ∀ members, value ≠ .obj members) :
      PathFault (front ++ (path, value) :: back) (.pathItemNotAnObject path)
  | member {front back before after : Json.Members} {path : String} {member : String × Json}
      {method : Method} {body : Json.Members} {e : IndexError}
      (hbefore : Sound (front ++ [(path, .obj before)]))
      (hmember : IsOperation member method body)
      (hid : IdFault (listing (front ++ [(path, .obj before)])) path method
        (Json.Members.find? "operationId" body) e) :
      PathFault (front ++ (path, .obj (before ++ member :: after)) :: back) e

variable {path : String} {seen : List IndexedOperation} {e : IndexError}

/-- An id that is taken is that of one operation, the first one of this id. -/
theorem add_eq_error (h : DistinctIds seen) {op : IndexedOperation} :
    add seen op = .error e ↔ ∃ first ∈ seen, first.id = op.id ∧
      e = .duplicateId op.id op.path op.method first.path first.method := by
  constructor
  · intro hadd
    rw [add] at hadd
    split at hadd
    · rename_i first hfind
      cases hadd
      exact ⟨first, List.mem_of_find?_eq_some hfind, by simpa using List.find?_some hfind, rfl⟩
    · cases hadd
  · rintro ⟨first, hfirst, hid, rfl⟩
    have hfind := h.find?_eq hfirst
    rw [hid] at hfind
    rw [add, hfind]

theorem idOf_add_eq_error (h : DistinctIds seen) {method : Method} {body : Json.Members} :
    (idOf path method body >>= fun id => add seen ⟨path, method, id⟩) = .error e ↔
      IdFault seen path method (Json.Members.find? "operationId" body) e := by
  unfold idOf
  cases Json.Members.find? "operationId" body with
  | none =>
      constructor
      · intro heq
        cases heq
        exact .missing
      · intro hfault
        cases hfault
        rfl
  | some value =>
      cases value with
      | null =>
          constructor
          · intro heq
            cases heq
            exact .null
          · intro hfault
            cases hfault with
            | null => rfl
            | notText hnull htext => exact absurd rfl hnull
      | str id =>
          rw [ok_bind, add_eq_error h]
          constructor
          · rintro ⟨first, hfirst, rfl, rfl⟩
            exact .taken hfirst
          · intro hfault
            cases hfault with
            | notText hnull htext => exact absurd rfl (htext id)
            | taken hfirst => exact ⟨_, hfirst, rfl, rfl⟩
      | _ =>
          constructor
          · intro heq
            cases heq
            exact .notText (by simp) (by simp)
          · intro hfault
            cases hfault
            rfl

theorem addMember_eq_error (h : DistinctIds seen) {member : String × Json} :
    addMember path seen member = .error e ↔
      ∃ method body, IsOperation member method body ∧
        IdFault seen path method (Json.Members.find? "operationId" body) e := by
  by_cases hmember : ∃ method body, IsOperation member method body
  · obtain ⟨method, body, hmember⟩ := hmember
    rw [addMember_of_isOperation hmember, idOf_add_eq_error h]
    constructor
    · intro hfault
      exact ⟨method, body, hmember, hfault⟩
    · rintro ⟨method', body', hother, hfault⟩
      obtain ⟨rfl, rfl⟩ := hmember.unique hother
      exact hfault
  · simp only [not_exists] at hmember
    rw [(addMember_of_no_operation path seen hmember).1]
    constructor
    · intro heq
      cases heq
    · rintro ⟨method, body, hother, -⟩
      exact absurd hother (hmember method body)

/-- The paths up to a member are paths that end with it, and what is listed of them is what is seen
when the member is met. -/
theorem addPaths_upTo {front before : Json.Members} {seen : List IndexedOperation} :
    (∃ first, front.foldlM addPath [] = .ok first ∧
      before.foldlM (addMember path) first = .ok seen) ↔
    Sound (front ++ [(path, .obj before)]) ∧ seen = listing (front ++ [(path, .obj before)]) := by
  rw [← addPaths_eq_ok, foldlM_concat_eq_ok]
  rfl

theorem addPaths_eq_error {paths : Json.Members} :
    paths.foldlM addPath [] = .error e ↔ PathFault paths e := by
  constructor
  · intro h
    obtain ⟨front, ⟨path, value⟩, back, seen, rfl, hfront, hpath⟩ := foldlM_eq_error.mp h
    cases value with
    | obj members =>
        obtain ⟨before, member, after, next, rfl, hbefore, hmember⟩ := foldlM_eq_error.mp hpath
        obtain ⟨hsound, rfl⟩ := addPaths_upTo.mp ⟨seen, hfront, hbefore⟩
        obtain ⟨method, body, hoperation, hid⟩ := (addMember_eq_error hsound.distinct).mp hmember
        exact .member hsound hoperation hid
    | _ =>
        cases hpath
        exact .item (addPaths_eq_ok.mp hfront).1 (by simp)
  · intro h
    cases h with
    | item hfront hvalue =>
        rename_i front back path value
        refine foldlM_eq_error.mpr ⟨front, _, back, _, rfl, addPaths_eq_ok.mpr ⟨hfront, rfl⟩, ?_⟩
        cases value with
        | obj members => exact absurd rfl (hvalue members)
        | _ => rfl
    | member hbefore hmember hid =>
        rename_i front back before after path member method body
        obtain ⟨seen, hfront, hseen⟩ := addPaths_upTo.mpr ⟨hbefore, rfl⟩
        refine foldlM_eq_error.mpr ⟨front, _, back, seen, rfl, hfront, ?_⟩
        refine foldlM_eq_error.mpr ⟨before, member, after, _, rfl, hseen, ?_⟩
        exact (addMember_eq_error hbefore.distinct).mpr ⟨method, body, hmember, hid⟩

end Index

/-- The first fault of a description, and the error that names it. -/
inductive FirstFault : Json → IndexError → Prop
  | document {document : Json} (h : ∀ root, document ≠ .obj root) :
      FirstFault document .notAnObject
  | paths {root : Json.Members} {value : Json} (h : Json.Members.find? "paths" root = some value)
      (hnull : value ≠ .null) (hobject : ∀ paths, value ≠ .obj paths) :
      FirstFault (.obj root) .pathsNotAnObject
  | inPaths {root paths : Json.Members} {e : IndexError}
      (h : Json.Members.find? "paths" root = some (.obj paths)) (hfault : Index.PathFault paths e) :
      FirstFault (.obj root) e

/-- The operations of a description are listed, in its order, if it has no fault. Else the error is
that of its first fault. -/
theorem indexOperations_listed (document : Json) :
    (∀ ops, indexOperations document = .ok ops ↔ Listed document ops) ∧
      ∀ e, indexOperations document = .error e ↔ FirstFault document e := by
  refine ⟨fun ops => indexOperations_eq_ok, fun e => ?_⟩
  constructor
  · intro h
    unfold indexOperations at h
    split at h
    · split at h
      · cases h
      · cases h
      · exact .inPaths (by assumption) (Index.addPaths_eq_error.mp h)
      · rename_i value hnull hobject hpaths
        cases h
        exact .paths hpaths (by simpa using hnull) (by simpa using hobject)
    · rename_i hdocument
      cases h
      exact .document hdocument
  · intro h
    cases h with
    | document hdocument =>
        cases document with
        | obj root => exact absurd rfl (hdocument root)
        | _ => rfl
    | paths hpaths hnull hobject =>
        rename_i root value
        cases value with
        | null => exact absurd rfl hnull
        | obj paths => exact absurd rfl (hobject paths)
        | _ => simp only [indexOperations, hpaths]
    | inPaths hpaths hfault =>
        simp only [indexOperations, hpaths]
        exact Index.addPaths_eq_error.mpr hfault

/-- An id that is taken comes before a path item that is none. -/
example : indexOperations (.obj [("paths", .obj [
    ("/a", .obj [("get", .obj [("operationId", .str "x")])]),
    ("/b", .obj [("x-get", .obj []), ("PuT", .obj [("operationId", .str "x")])]),
    ("/c", .null)])]) = .error (.duplicateId "x" "/b" .put "/a" .get) := by
  cbv

end BatchedGateway
