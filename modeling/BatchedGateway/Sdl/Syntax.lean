/- The grammar of type system documents. -/
import BatchedGateway.Sdl.Token

namespace BatchedGateway.Sdl

inductive Operation
  | query
  | mutation
  | subscription
  deriving DecidableEq, Repr

inductive Kind
  | scalar
  | object
  | interface
  | union
  | enum
  | input
  deriving DecidableEq, Repr

abbrev Roots := List (Operation × String)

/-- What a definition or an extension says about a type: the interfaces it implements, and
the names of its fields, values or members. -/
structure TypePart where
  kind : Kind
  name : String
  interfaces : List String
  members : List String
  deriving Repr

inductive Definition
  | schema (roots : Roots)
  | directive (name : String)
  | type (part : TypePart)
  | extendSchema (roots : Roots)
  | extendType (part : TypePart)
  deriving Repr

abbrev Grammar := StateT (List Token) (Except Fault)

namespace Grammar

/-- How deep types and values may be nested. -/
def depthLimit : Nat := 500

def next? : Grammar (Option Token) := do return (← get).head?

def skip : Grammar Unit := modify (·.drop 1)

def expected {α : Type} (what : String) : Grammar α := throw (.expected what)

def at? (t : Token) : Grammar Bool := do return (← next?) == some t

/-- Reads the token if it comes next. -/
def take? (t : Token) : Grammar Bool := do
  if (← at? t) then
    skip
    return true
  else return false

def takePunct? (c : Char) : Grammar Bool := take? (.punct c)

def punct (c : Char) : Grammar Unit := do
  if !(← takePunct? c) then expected (String.singleton c)

def name : Grammar String := do
  match (← next?) with
  | some (.name s) => skip; return s
  | _ => expected "a name"

def description : Grammar Unit := discard (take? .string)

def atItem : Grammar Bool := do
  match (← next?) with
  | some (.name _) | some .string => return true
  | _ => return false

/-- Items while a name or a description comes next; there has to be one. -/
def items {α : Type} (item : Grammar α) (closing : Char) : (fuel : Nat) → Grammar (List α)
  | 0 => throw .tooDeep
  | fuel + 1 => do
      let first ← item
      if (← atItem) then return first :: (← items item closing fuel)
      else
        punct closing
        return [first]

def braced {α : Type} (opening closing : Char) (item : Grammar α) : Grammar (List α) := do
  punct opening
  if !(← atItem) then expected "a definition"
  items item closing ((← get).length + 1)

/-- Names between separators, one of which may stand in front. -/
def separated (sep : Char) : Grammar (List String) := do
  discard (takePunct? sep)
  more ((← get).length + 1)
where
  more : Nat → Grammar (List String)
    | 0 => throw .tooDeep
    | fuel + 1 => do
        let first ← name
        if (← takePunct? sep) then return first :: (← more fuel) else return [first]

/-- A type. `depth` counts the lists around it. -/
def type (depth : Nat) : (fuel : Nat) → Grammar Unit
  | 0 => throw .tooDeep
  | fuel + 1 => do
      if (← takePunct? '[') then
        if depth = depthLimit then throw .tooDeep
        type (depth + 1) fuel
        punct ']'
      else discard name
      discard (takePunct? '!')

def typeRef : Grammar Unit := do
  match (← next?) with
  | some (.name _) | some (.punct '[') => type 0 ((← get).length + 1)
  | _ => expected "a type"

mutual
/-- A constant value: variables have no place in a schema. -/
def value (depth : Nat) : (fuel : Nat) → Grammar Unit
  | 0 => throw .tooDeep
  | fuel + 1 => do
      match (← next?) with
      | some .int | some .float | some .string | some (.name _) => skip
      | some (.punct '[') => skip; listItems depth fuel
      | some (.punct '\x7b') => skip; objectFields depth fuel
      | _ => expected "a constant value"

def listItems (depth : Nat) : (fuel : Nat) → Grammar Unit
  | 0 => throw .tooDeep
  | fuel + 1 => do
      if (← takePunct? ']') then return
      if depth = depthLimit then throw .tooDeep
      value (depth + 1) fuel
      listItems depth fuel

/-- The fields of an object value; a field may lack its value. -/
def objectFields (depth : Nat) : (fuel : Nat) → Grammar Unit
  | 0 => throw .tooDeep
  | fuel + 1 => do
      if (← takePunct? '\x7d') then return
      if depth = depthLimit then throw .tooDeep
      discard name
      if (← takePunct? ':') then value (depth + 1) fuel
      objectFields depth fuel
end

def constant : Grammar Unit := do value 0 (2 * (← get).length + 2)

/-- An argument of a directive; it may lack its value. -/
def argument : Grammar Unit := do
  discard name
  if (← takePunct? ':') then constant

def arguments : Grammar Unit := do
  if (← at? (.punct '(')) then
    skip
    more ((← get).length + 1)
where
  more : Nat → Grammar Unit
    | 0 => throw .tooDeep
    | fuel + 1 => do
        argument
        if !(← takePunct? ')') then more fuel

/-- Directives; says whether there are any. -/
def directives : Grammar Bool := do
  let present ← at? (.punct '@')
  more ((← get).length + 1)
  return present
where
  more : Nat → Grammar Unit
    | 0 => throw .tooDeep
    | fuel + 1 => do
        if (← takePunct? '@') then
          discard name
          arguments
          more fuel

/-- An argument of a field or a field of an input type. -/
def inputValue : Grammar String := do
  description
  let n ← name
  punct ':'
  typeRef
  if (← takePunct? '=') then constant
  discard directives
  return n

def argumentsDefinition : Grammar Unit := do
  if (← at? (.punct '(')) then discard (braced '(' ')' inputValue)

def field : Grammar String := do
  description
  let n ← name
  argumentsDefinition
  punct ':'
  typeRef
  discard directives
  return n

def enumValue : Grammar String := do
  description
  let n ← name
  if ["true", "false", "null"].contains n then expected "an enum value"
  discard directives
  return n

def operation : Grammar Operation := do
  match (← name) with
  | "query" => return .query
  | "mutation" => return .mutation
  | "subscription" => return .subscription
  | _ => expected "an operation"

/-- A root operation; one whose type is missing counts for nothing. -/
def root : Grammar (Option (Operation × String)) := do
  let op ← operation
  punct ':'
  match (← next?) with
  | some (.name n) => skip; return some (op, n)
  | _ => return none

def rootItems : (fuel : Nat) → Grammar Roots
  | 0 => throw .tooDeep
  | fuel + 1 => do
      let first ← root
      let rest ← if (← takePunct? '\x7d') then pure [] else rootItems fuel
      return first.toList ++ rest

/-- Root operations in braces, if there are braces. -/
def roots? : Grammar (Option Roots) := do
  if (← takePunct? '\x7b') then return some (← rootItems ((← get).length + 1))
  else return none

def implements : Grammar (List String) := do
  if (← take? (.name "implements")) then separated '&' else return []

def block? (item : Grammar String) : Grammar (List String) := do
  if (← at? (.punct '\x7b')) then braced '\x7b' '\x7d' item else return []

/-- The body of a type of some kind, after its keyword. With `part` it has to add
something. -/
def typeBody (kind : Kind) (part : Bool) : Grammar TypePart := do
  let n ← name
  let interfaces ← match kind with
    | .object | .interface => implements
    | _ => pure []
  let directed ← directives
  let members ← match kind with
    | .scalar => pure []
    | .object | .interface => block? field
    | .union => if (← takePunct? '=') then separated '|' else pure []
    | .enum => block? enumValue
    | .input => block? inputValue
  if part && !directed && interfaces.isEmpty && members.isEmpty then
    expected "something that extends the type"
  return ⟨kind, n, interfaces, members⟩

def kindOf? : String → Option Kind
  | "scalar" => some .scalar
  | "type" => some .object
  | "interface" => some .interface
  | "union" => some .union
  | "enum" => some .enum
  | "input" => some .input
  | _ => none

def locations : List String := [
  "QUERY", "MUTATION", "SUBSCRIPTION", "FIELD", "FRAGMENT_DEFINITION", "FRAGMENT_SPREAD",
  "INLINE_FRAGMENT", "VARIABLE_DEFINITION", "SCHEMA", "SCALAR", "OBJECT", "FIELD_DEFINITION",
  "ARGUMENT_DEFINITION", "INTERFACE", "UNION", "ENUM", "ENUM_VALUE", "INPUT_OBJECT",
  "INPUT_FIELD_DEFINITION"]

def directiveBody : Grammar String := do
  punct '@'
  let n ← name
  argumentsDefinition
  discard (take? (.name "repeatable"))
  if !(← take? (.name "on")) then expected "directive locations"
  if (← separated '|').all locations.contains then return n
  else expected "a directive location"

def extension : Grammar Definition := do
  match (← name) with
  | "schema" =>
      let directed ← directives
      match (← roots?) with
      | some roots => return .extendSchema roots
      | none => if directed then return .extendSchema [] else expected "something to extend"
  | word =>
      match kindOf? word with
      | some kind => return .extendType (← typeBody kind true)
      | none => expected "an extension"

def definition : Grammar Definition := do
  let described ← take? .string
  match (← name) with
  | "schema" =>
      discard directives
      return .schema ((← roots?).getD [])
  | "directive" => return .directive (← directiveBody)
  | "extend" => if described then expected "a definition" else extension
  | "query" | "mutation" | "subscription" | "fragment" => throw .executable
  | word =>
      match kindOf? word with
      | some kind => return .type (← typeBody kind false)
      | none => expected "a definition"

def definitions : (fuel : Nat) → Grammar (List Definition)
  | 0 => return []
  | fuel + 1 => do
      let first ← definition
      if (← next?).isSome then return first :: (← definitions fuel) else return [first]

end Grammar

/-- The definitions of a document, of which there has to be one. -/
def parse (text : String) : Except Fault (List Definition) := do
  let ts ← tokens text
  let (ds, _) ← (Grammar.definitions ts.length).run ts
  if ds.isEmpty then .error (.expected "a definition") else .ok ds

end BatchedGateway.Sdl
