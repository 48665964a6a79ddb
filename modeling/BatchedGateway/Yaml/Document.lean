/- From the tokens of a YAML stream to the nodes of its document. -/
import BatchedGateway.Yaml.Scanner
import BatchedGateway.Text.Encoding

namespace BatchedGateway.Yaml

inductive Node
  | alias (id : Nat)
  | scalar (tag : Option Tag) (style : Style) (text : String)
  | sequence (tag : Option Tag) (items : List Node)
  | mapping (tag : Option Tag) (entries : List (Node × Node))
  deriving Repr, Inhabited

/-- The node of a place where nothing stands. -/
def Node.nothing : Node := .scalar none .plain ""

/-- The nodes that have an anchor, each with its number in the order in which they start,
and the id of each number, latest first. -/
structure Anchored where
  ids : List Nat := []
  nodes : List (Nat × Node) := []
  deriving Repr, Inhabited

/-- Where aliases of an id lead: the node that starts last of those with this id. -/
def Anchored.target? (a : Anchored) (id : Nat) : Option Node := do
  let back ← a.ids.findIdx? (· == id)
  a.nodes.lookup (a.ids.length - 1 - back)

structure Document where
  /-- None for a stream without a document. -/
  root : Option Node
  anchored : Anchored
  deriving Repr, Inhabited

structure Reader where
  tokens : List Token
  handles : List (Tag × Tag)
  names : List (String × Nat)
  anchored : Anchored

abbrev Reading := StateT Reader (Except Fault)

namespace Reading

def tokens : Reading (List Token) := do return (← get).tokens

def skip : Reading Unit := modify fun r => { r with tokens := r.tokens.drop 1 }

def nextIs (ts : List Token) : Reading Bool := do
  match (← tokens) with
  | t :: _ => return ts.contains t
  | [] => return false

/-- An alias has the id of its name. -/
def aliasOf (name : String) : Reading Node := do
  match (← get).names.lookup name with
  | some id => return .alias id
  | none => throw .unknownAlias

/-- Enters an anchor. Its id is the number of names so far, so a name used again may get the
id of another one. -/
def enter (name : String) : Reading Nat := do
  let r ← get
  let id := r.names.length
  let names :=
    if (r.names.lookup name).isSome then
      r.names.map fun n => if n.1 = name then (name, id) else n
    else (name, id) :: r.names
  set { r with names, anchored := { r.anchored with ids := id :: r.anchored.ids } }
  return r.anchored.ids.length

def record (number : Nat) (n : Node) : Reading Unit :=
  modify fun r =>
    { r with anchored := { r.anchored with nodes := (number, n) :: r.anchored.nodes } }

def fullTag (handle suffix : Tag) : Reading Tag := do
  if handle = [] then return suffix
  match (← get).handles.lookup handle with
  | some start => return start ++ suffix
  | none => throw .badTag

def anchor? : Reading (Option String) := do
  match (← tokens) with
  | .anchor name :: _ => skip; return some name
  | _ => return none

def tag? : Reading (Option Tag) := do
  match (← tokens) with
  | .tag handle suffix :: _ => skip; return some (← fullTag handle suffix)
  | _ => return none

/-- Anchor and tag in front of a node, in any order. -/
def properties : Reading (Option String × Option Tag) := do
  match (← anchor?) with
  | some name => return (some name, ← tag?)
  | none => let tag ← tag?; return (← anchor?, tag)

mutual
/-- A node. Block collections are read where `block` says so; entries that are not indented
make a sequence where `loose` says so. -/
def node (block loose : Bool) : (fuel : Nat) → Reading Node
  | 0 => throw .tooDeep
  | fuel + 1 => do
      if let .alias name :: _ ← tokens then
        skip
        return (← aliasOf name)
      let (anchor, tag) ← properties
      let number ← anchor.mapM enter
      let n ← content block loose anchor.isSome tag fuel
      number.forM (record · n)
      return n

def content (block loose anchored : Bool) (tag : Option Tag) : (fuel : Nat) → Reading Node
  | 0 => throw .tooDeep
  | fuel + 1 => do
      match (← tokens) with
      | .scalar style text :: _ => skip; return .scalar tag style text
      | .flowSequence :: _ => skip; return .sequence tag (← flowItems true fuel)
      | .flowMapping :: _ => skip; return .mapping tag (← flowEntries true fuel)
      | .entry :: _ =>
          if loose then return .sequence tag (← looseItems fuel)
          else if anchored || tag.isSome then return .scalar tag .plain ""
          else throw .unexpectedToken
      | .blockSequence :: _ =>
          if block then skip; return .sequence tag (← blockItems fuel)
          else if anchored || tag.isSome then return .scalar tag .plain ""
          else throw .unexpectedToken
      | .blockMapping :: _ =>
          if block then skip; return .mapping tag (← blockEntries fuel)
          else if anchored || tag.isSome then return .scalar tag .plain ""
          else throw .unexpectedToken
      | _ =>
          if anchored || tag.isSome then return .scalar tag .plain ""
          else throw .unexpectedToken

def blockItems : (fuel : Nat) → Reading (List Node)
  | 0 => throw .tooDeep
  | fuel + 1 => do
      match (← tokens) with
      | .entry :: _ =>
          skip
          let item ← if (← nextIs [.entry, .blockEnd]) then pure .nothing else node true false fuel
          return item :: (← blockItems fuel)
      | .blockEnd :: _ => skip; return []
      | _ => throw .unexpectedToken

/-- The items of a sequence that is not indented: no token ends it. -/
def looseItems : (fuel : Nat) → Reading (List Node)
  | 0 => throw .tooDeep
  | fuel + 1 => do
      match (← tokens) with
      | .entry :: _ =>
          skip
          let item ← if (← nextIs [.entry, .key, .value, .blockEnd]) then pure .nothing
            else node true false fuel
          return item :: (← looseItems fuel)
      | _ => return []

def blockEntries : (fuel : Nat) → Reading (List (Node × Node))
  | 0 => throw .tooDeep
  | fuel + 1 => do
      match (← tokens) with
      | .key :: _ =>
          skip
          let key ← if (← nextIs [.key, .value, .blockEnd]) then pure .nothing
            else node true true fuel
          let value ← entryValue true [.key, .value, .blockEnd] fuel
          return (key, value) :: (← blockEntries fuel)
      | .blockEnd :: _ => skip; return []
      | _ => throw .unexpectedToken

/-- The value after a key. Without a colon, or when one of the tokens `ends` comes at once,
nothing stands there. -/
def entryValue (block : Bool) (ends : List Token) : (fuel : Nat) → Reading Node
  | 0 => throw .tooDeep
  | fuel + 1 => do
      match (← tokens) with
      | .value :: _ =>
          skip
          if (← nextIs ends) then return .nothing else node block block fuel
      | _ => return .nothing

def flowItems (first : Bool) : (fuel : Nat) → Reading (List Node)
  | 0 => throw .tooDeep
  | fuel + 1 => do
      if (← nextIs [.flowSequenceEnd]) then
        skip
        return []
      if !first then
        if (← nextIs [.flowEntry]) then skip else throw .unexpectedToken
      match (← tokens) with
      | .key :: _ =>
          skip
          let key ← if (← nextIs [.value, .flowEntry, .flowSequenceEnd]) then
              skip
              pure .nothing
            else node false false fuel
          let value ← entryValue false [.flowEntry, .flowSequenceEnd] fuel
          return .mapping none [(key, value)] :: (← flowItems false fuel)
      | .flowSequenceEnd :: _ => skip; return []
      | _ =>
          let item ← node false false fuel
          return item :: (← flowItems false fuel)

def flowEntries (first : Bool) : (fuel : Nat) → Reading (List (Node × Node))
  | 0 => throw .tooDeep
  | fuel + 1 => do
      if (← nextIs [.flowMappingEnd]) then
        skip
        return []
      if !first then
        if (← nextIs [.flowEntry]) then skip else throw .unexpectedToken
      match (← tokens) with
      | .key :: _ =>
          skip
          let key ← if (← nextIs [.value, .flowEntry, .flowMappingEnd]) then pure .nothing
            else node false false fuel
          let value ← entryValue false [.flowEntry, .flowMappingEnd] fuel
          return (key, value) :: (← flowEntries false fuel)
      | .flowMappingEnd :: _ => skip; return []
      | _ =>
          let key ← node false false fuel
          return (key, .nothing) :: (← flowEntries false fuel)
end

def standardHandles : List (Tag × Tag) :=
  [(Text.toBytes "!", Text.toBytes "!"), (Text.toBytes "!!", Text.toBytes "tag:yaml.org,2002:")]

/-- The directives in front of a document. A handle is declared once; the standard handles
need no directive. -/
def directives (versionSeen : Bool) (declared : List (Tag × Tag)) :
    List Token → Except Fault (List (Tag × Tag) × List Token)
  | .version major minor :: rest =>
      if versionSeen || major ≠ 1 || (minor ≠ 1 && minor ≠ 2) then .error .badDirective
      else directives true declared rest
  | .tagDirective handle start :: rest =>
      if (declared.lookup handle).isSome then .error .badDirective
      else directives versionSeen ((handle, start) :: declared) rest
  | rest => .ok (declared ++ standardHandles, rest)

def isDocumentLimit : List Token → Bool
  | [] | .version _ _ :: _ | .tagDirective _ _ :: _ | .documentStart :: _
  | .documentEnd :: _ => true
  | _ => false

/-- The one document of the stream. Its first mark may be missing. -/
def document (fuel : Nat) : Reading (Option Node) := do
  let (handles, rest) ← directives false [] (← tokens)
  let explicit : Bool ← match (← tokens) with
    | .version _ _ :: _ | .tagDirective _ _ :: _ | .documentStart :: _ => pure true
    | [] => return none
    | _ => pure false
  modify fun r => { r with handles, tokens := rest }
  if explicit then
    if (← nextIs [.documentStart]) then skip else throw .unexpectedToken
  let root ← if explicit && isDocumentLimit (← tokens) then pure .nothing
    else node true false fuel
  if (← tokens).all (· == .documentEnd) then return some root else throw .severalDocuments

end Reading

/-- Reads a stream of at most one document. -/
def readDocument (text : String) : Except Fault Document := do
  let tokens ← scan text
  let (root, reader) ← (Reading.document (4 * tokens.length + 16)).run ⟨tokens, [], [], {}⟩
  .ok ⟨root, reader.anchored⟩

end BatchedGateway.Yaml
