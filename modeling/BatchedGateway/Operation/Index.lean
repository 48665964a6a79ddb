/- The operations of an API description, in the order of the document. -/
import BatchedGateway.Operation.Basic

namespace BatchedGateway

inductive IndexError
  | notAnObject
  | pathsNotAnObject
  | pathItemNotAnObject (path : String)
  | missingId (path : String) (method : Method)
  | idNotAString (path : String) (method : Method)
  | duplicateId (id path : String) (method : Method) (firstPath : String) (firstMethod : Method)
  deriving DecidableEq, Repr

def IndexError.message : IndexError → String
  | .notAnObject => "api description must be an object"
  | .pathsNotAnObject => "\x60paths\x60 must be an object"
  | .pathItemNotAnObject path => "path item '" ++ path ++ "' must be an object"
  | .missingId path method => method.text ++ " " ++ path ++ ": missing operationId"
  | .idNotAString path method => method.text ++ " " ++ path ++ ": operationId must be a string"
  | .duplicateId id path method firstPath firstMethod =>
      "duplicate operationId '" ++ id ++ "' at " ++ method.text ++ " " ++ path ++
        " (first declared at " ++ firstMethod.text ++ " " ++ firstPath ++ ")"

namespace Index

/-- The id of an operation. -/
def idOf (path : String) (method : Method) (body : Json.Members) : Except IndexError String :=
  match Json.Members.find? "operationId" body with
  | none | some .null => .error (.missingId path method)
  | some (.str id) => .ok id
  | some _ => .error (.idNotAString path method)

/-- Adds an operation to those before it; its id has to be new. -/
def add (seen : List IndexedOperation) (op : IndexedOperation) :
    Except IndexError (List IndexedOperation) :=
  match seen.find? fun first => first.id == op.id with
  | some first => .error (.duplicateId op.id op.path op.method first.path first.method)
  | none => .ok (seen ++ [op])

/-- A member of a path item is an operation if its key is a method and its value an
object; the others are passed over. -/
def addMember (path : String) (seen : List IndexedOperation) (member : String × Json) :
    Except IndexError (List IndexedOperation) :=
  match Method.ofKey? member.1, member.2 with
  | some method, .obj body => do
      let id ← idOf path method body
      add seen ⟨path, method, id⟩
  | _, _ => .ok seen

def addPath (seen : List IndexedOperation) (item : String × Json) :
    Except IndexError (List IndexedOperation) :=
  match item.2 with
  | .obj members => members.foldlM (addMember item.1) seen
  | _ => .error (.pathItemNotAnObject item.1)

end Index

/-- The operations of a description; their ids are distinct. -/
def indexOperations (document : Json) : Except IndexError (List IndexedOperation) :=
  match document with
  | .obj root =>
      match Json.Members.find? "paths" root with
      | none | some .null => .ok []
      | some (.obj paths) => paths.foldlM Index.addPath []
      | some _ => .error .pathsNotAnObject
  | _ => .error .notAnObject

end BatchedGateway
