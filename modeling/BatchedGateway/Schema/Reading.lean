/- Schemas in either of their forms: as definitions, or as the answer to an introspection query. -/
import BatchedGateway.Json.Reading
import BatchedGateway.Schema.Index
import BatchedGateway.Sdl.Assembly
import BatchedGateway.Text.Blank

namespace BatchedGateway

namespace SchemaIndex

/-- The schema in a whole response, else the one at the top. -/
def schemaObject? (v : Json) : Option Json :=
  match (v.get? "data").bind (·.get? "__schema") with
  | some s => some s
  | none => v.get? "__schema"

def nameOf? (v : Json) : Option String := (v.get? "name").bind Json.asString?

def rootName? (schema : Json) (key : String) : Option String :=
  (schema.get? key).bind nameOf?

/-- The field names of the first type of that name. -/
def fieldsOf (types : List Json) : Option String → NameSet
  | none => ∅
  | some name =>
      match types.find? fun t => nameOf? t == some name with
      | none => ∅
      | some t =>
          match (t.get? "fields").bind Json.asArray? with
          | none => ∅
          | some fields => NameSet.ofNames (fields.filterMap nameOf?)

/-- A mutation type that is null means that there are no mutations; where the response does
not speak of it, it has its default name. -/
def ofIntrospection (v : Json) : Except SchemaError SchemaIndex :=
  match schemaObject? v with
  | none => .error (.introspection "missing \x60__schema\x60")
  | some schema =>
      match (schema.get? "types").bind Json.asArray? with
      | none => .error (.introspection "\x60__schema.types\x60 must be an array")
      | some types =>
          let query := some ((rootName? schema "queryType").getD "Query")
          let mutation := match schema.get? "mutationType" with
            | some .null => none
            | some v => nameOf? v
            | none => some "Mutation"
          .ok ⟨query, mutation, fieldsOf types query, fieldsOf types mutation⟩

def ofIntrospectionText (text : String) : Except SchemaError SchemaIndex :=
  match Json.parse text with
  | .error fault => .error (.json fault)
  | .ok v => ofIntrospection v

end SchemaIndex

inductive SchemaFormat
  | sdl
  | introspection
  | auto
  deriving DecidableEq, Repr

namespace SchemaIndex

def rootFields (a : Sdl.Assembled) (name : Option String) : NameSet :=
  NameSet.ofNames ((name.map a.fields).getD [])

def ofSdl (text : String) : Except SchemaError SchemaIndex :=
  match Sdl.parse text >>= Sdl.assemble with
  | .error fault => .error (.sdl fault)
  | .ok a =>
      let query := a.root? .query
      let mutation := a.root? .mutation
      .ok ⟨query, mutation, rootFields a query, rootFields a mutation⟩

/-- Text that starts with a brace is the JSON of an introspection. -/
def parse (text : String) : SchemaFormat → Except SchemaError SchemaIndex
  | .sdl => ofSdl text
  | .introspection => ofIntrospectionText text
  | .auto => if Text.firstInk text = some '\x7b' then ofIntrospectionText text else ofSdl text

end SchemaIndex

end BatchedGateway
