/- From the definitions of a document to its types and root operations. -/
import BatchedGateway.Sdl.Syntax
import BatchedGateway.Sorted

namespace BatchedGateway.Sdl

/-- A type as all its definitions and extensions make it. -/
structure TypeEntry where
  kind : Kind
  interfaces : List String
  members : List String
  deriving Repr

structure Assembled where
  types : SortedMap String TypeEntry
  roots : Roots

namespace Assembly

def object (members : List String) : TypeEntry := ⟨.object, [], members⟩

/-- The types that every schema has. -/
def builtIn : SortedMap String TypeEntry := SortedMap.ofList [
  ("Int", ⟨.scalar, [], []⟩), ("Float", ⟨.scalar, [], []⟩), ("String", ⟨.scalar, [], []⟩),
  ("Boolean", ⟨.scalar, [], []⟩), ("ID", ⟨.scalar, [], []⟩),
  ("__Schema", object ["description", "types", "queryType", "mutationType", "subscriptionType",
    "directives"]),
  ("__Type", object ["kind", "name", "description", "fields", "interfaces", "possibleTypes",
    "enumValues", "inputFields", "ofType", "specifiedByURL"]),
  ("__TypeKind", ⟨.enum, [], ["SCALAR", "OBJECT", "INTERFACE", "UNION", "ENUM", "INPUT_OBJECT",
    "LIST", "NON_NULL"]⟩),
  ("__Field", object ["name", "description", "args", "type", "isDeprecated",
    "deprecationReason"]),
  ("__InputValue", object ["name", "description", "type", "defaultValue", "isDeprecated",
    "deprecationReason"]),
  ("__EnumValue", object ["name", "description", "isDeprecated", "deprecationReason"]),
  ("__Directive", object ["name", "description", "locations", "args", "isRepeatable"]),
  ("__DirectiveLocation", ⟨.enum, [], Grammar.locations⟩)]

/-- Adds names that are all new. -/
def addNames (owner : String) : List String → List String → Except Fault (List String)
  | present, [] => .ok present
  | present, n :: rest =>
      if present.contains n then .error (.repeatedMember owner n)
      else addNames owner (present ++ [n]) rest

def addPart (part : TypePart) (entry : TypeEntry) : Except Fault TypeEntry := do
  if part.kind ≠ entry.kind then .error (.kindMismatch part.name)
  else do
    let interfaces ← addNames part.name entry.interfaces part.interfaces
    let members ← addNames part.name entry.members part.members
    .ok { entry with interfaces, members }

/-- Each operation has one root type. -/
def addRoots : Roots → Roots → Except Fault Roots
  | present, [] => .ok present
  | present, (op, n) :: rest =>
      if (present.lookup op).isSome then .error .repeatedRoot
      else addRoots (present ++ [(op, n)]) rest

def defineTypes (types : SortedMap String TypeEntry) :
    List Definition → Except Fault (SortedMap String TypeEntry)
  | [] => .ok types
  | .type part :: rest => do
      if types.contains part.name then .error (.redefined part.name)
      else
        let entry ← addPart part ⟨part.kind, [], []⟩
        defineTypes (types.insert part.name entry) rest
  | _ :: rest => defineTypes types rest

def extendTypes (types : SortedMap String TypeEntry) :
    List Definition → Except Fault (SortedMap String TypeEntry)
  | [] => .ok types
  | .extendType part :: rest => do
      match types.get? part.name with
      | none => .error (.orphanExtension part.name)
      | some entry => extendTypes (types.insert part.name (← addPart part entry)) rest
  | _ :: rest => extendTypes types rest

/-- Each directive is defined once; a definition of a standard one takes its place. -/
def checkDirectives (seen : List String) : List Definition → Except Fault Unit
  | [] => .ok ()
  | .directive n :: rest =>
      if seen.contains n then .error (.redefined ("@" ++ n)) else checkDirectives (n :: seen) rest
  | _ :: rest => checkDirectives seen rest

def schemas (ds : List Definition) : List Roots :=
  ds.filterMap fun d => match d with
    | .schema roots => some roots
    | _ => none

def schemaExtensions (ds : List Definition) : List Roots :=
  ds.filterMap fun d => match d with
    | .extendSchema roots => some roots
    | _ => none

/-- The root types of a document without a schema definition: the object types that have
the default names. -/
def implicitRoots (types : SortedMap String TypeEntry) : Roots :=
  [(.query, "Query"), (.mutation, "Mutation"), (.subscription, "Subscription")].filter
    fun root => (types.get? root.2).any (·.kind = .object)

def rootsOf (types : SortedMap String TypeEntry) (ds : List Definition) : Except Fault Roots := do
  let base ← match schemas ds with
    | [] => .ok (implicitRoots types)
    | [roots] => addRoots [] roots
    | _ => .error (.redefined "schema")
  match schemas ds, base, schemaExtensions ds with
  | [], [], _ :: _ => .error (.orphanExtension "schema")
  | _, _, extensions => extensions.foldlM addRoots base

end Assembly

/-- Puts a document together. Names need not be defined to be used. -/
def assemble (ds : List Definition) : Except Fault Assembled := do
  Assembly.checkDirectives [] ds
  let types ← Assembly.defineTypes Assembly.builtIn ds
  let types ← Assembly.extendTypes types ds
  let roots ← Assembly.rootsOf types ds
  .ok ⟨types, roots⟩

namespace Assembled

def root? (a : Assembled) (op : Operation) : Option String := a.roots.lookup op

/-- The fields of an object type. -/
def fields (a : Assembled) (name : String) : List String :=
  match a.types.get? name with
  | some ⟨.object, _, members⟩ => members
  | _ => []

end Assembled

end BatchedGateway.Sdl
