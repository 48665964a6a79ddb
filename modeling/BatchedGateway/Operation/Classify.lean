/- Which backend field serves an operation, and on which root type. -/
import BatchedGateway.Operation.Basic
import BatchedGateway.Schema.Index

namespace BatchedGateway

/-- Field names for the operations whose id is not the name of their field. -/
abbrev FieldNames := SortedMap String String

namespace FieldNames

def fieldOf (names : FieldNames) (id : String) : String := (names.get? id).getD id

end FieldNames

structure Classification where
  field : String
  role : Role
  diagnostic : Option Diagnostic
  deriving DecidableEq, Repr

/-- A query field is preferred to a mutation field. A field that is neither counts as a
query, with a warning unless its name is blank: that is reported when surfaces are laid
out. -/
def classify (schema : SchemaIndex) (names : FieldNames) (id : String) : Classification :=
  let field := names.fieldOf id
  if schema.hasQuery field then ⟨field, .query, none⟩
  else if schema.hasMutation field then ⟨field, .mutation, none⟩
  else if Text.blank field then ⟨field, .query, none⟩
  else ⟨field, .query, some (Diagnostic.warning id
    ("field '" ++ field ++ "' not found in schema; defaulting to Query"))⟩

def describe (schema : SchemaIndex) (names : FieldNames) (op : IndexedOperation) : Operation :=
  let c := classify schema names op.id
  ⟨op.id, op.path, op.method, c.field, c.role⟩

/-- Each operation with its field, and the warnings in the same order. -/
def classifyAll (schema : SchemaIndex) (names : FieldNames) (ops : List IndexedOperation) :
    List Operation × List Diagnostic :=
  (ops.map (describe schema names),
    ops.filterMap fun op => (classify schema names op.id).diagnostic)

end BatchedGateway
