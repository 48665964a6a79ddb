/- The value of a YAML document, and its JSON form. -/
import BatchedGateway.Yaml.Document
import BatchedGateway.Yaml.Plain
import BatchedGateway.Json.Printer

namespace BatchedGateway.Yaml

inductive Value
  | null
  | bool (b : Bool)
  | num (q : Quantity)
  | str (s : String)
  | seq (items : List Value)
  | map (entries : List (Value × Value))
  | tagged (name : String) (value : Value)
  deriving Repr, Inhabited

namespace Quantity

/-- As keys: the two zeros are equal, and the undefined number equals itself. -/
def same : Quantity → Quantity → Bool
  | finite (.int a), finite (.int b) => a == b
  | finite (.float x), finite (.float y) => x.same y
  | infinity a, infinity b => a == b
  | undefined, undefined => true
  | _, _ => false

end Quantity

namespace Value

mutual
/-- Equality of keys; the order of entries does not count. -/
def same : Value → Value → Bool
  | null, null => true
  | bool a, bool b => a == b
  | num a, num b => a.same b
  | str s, str t => s == t
  | seq items, seq others => sameItems items others
  | map entries, map others => entries.length == others.length && sameEntries entries others
  | tagged n v, tagged m w => n == m && same v w
  | _, _ => false

def sameItems : List Value → List Value → Bool
  | [], [] => true
  | v :: vs, w :: ws => same v w && sameItems vs ws
  | _, _ => false

def sameEntries : List (Value × Value) → List (Value × Value) → Bool
  | [], _ => true
  | (k, v) :: rest, others =>
      others.any (fun (l, w) => same k l && same v w) && sameEntries rest others
end

/-- The value of a plain scalar without a tag. -/
def ofPlain (s : String) : Except Fault Value :=
  if s = "" || Plain.isNull s then .ok .null
  else match Plain.bool? s with
    | some b => .ok (.bool b)
    | none =>
        match Plain.wholeOf s with
        | .fits n => .ok (.num (.finite (.int n)))
        | .tooLarge => .error .badScalar
        | .no =>
            let digits := match s.toList with
              | '-' :: rest => rest
              | '+' :: rest => rest
              | cs => cs
            if Plain.zeroLed digits then .ok (.str s)
            else match Plain.float? s with
              | some q => .ok (.num q)
              | none => .ok (.str s)

def coreTag (name : String) : Tag := Text.toBytes ("tag:yaml.org,2002:" ++ name)

/-- Without the mark in front, unless nothing would be left. -/
def unmarked : Tag → Tag
  | b :: c :: rest => if b = byteOf '!' then c :: rest else b :: c :: rest
  | t => t

/-- The name of a tag that starts with an exclamation mark; a second mark does not count. -/
def localName? : Option Tag → Option String
  | some t => if t.head? = some (byteOf '!') then Text.ofBytes? (unmarked (unmarked t)) else none
  | none => none

/-- A scalar by its tag. Unknown tags make text of it, the tags of the core their kind. -/
def ofScalar (tag : Option Tag) (style : Style) (s : String) : Except Fault Value :=
  let orFail (v : Option Value) : Except Fault Value := v.elim (.error .badScalar) .ok
  match tag with
  | none => if style = .plain then ofPlain s else .ok (.str s)
  | some t =>
      if t = coreTag "bool" then orFail ((Plain.bool? s).map .bool)
      else if t = coreTag "int" then
        match Plain.wholeOf s with
        | .fits n => .ok (.num (.finite (.int n)))
        | _ => .error .badScalar
      else if t = coreTag "float" then orFail ((Plain.float? s).map .num)
      else if t = coreTag "null" then if Plain.isNull s then .ok .null else .error .badScalar
      else if t.head? = some (byteOf '!') && style = .plain then ofPlain s
      else .ok (.str s)

end Value

/-- Counts the aliases followed while values are built. -/
abbrev Building := StateT Nat (Except Fault)

namespace Building

mutual
def countEvents : Node → Nat
  | .alias _ => 1
  | .scalar _ _ _ => 1
  | .sequence _ items => 2 + countItems items
  | .mapping _ entries => 2 + countEntries entries

def countItems : List Node → Nat
  | [] => 0
  | n :: rest => countEvents n + countItems rest

def countEntries : List (Node × Node) → Nat
  | [] => 0
  | (k, v) :: rest => countEvents k + countEvents v + countEntries rest
end

/-- Follows an alias; a hundred times as many as the document has events are too many. -/
def follow (d : Document) (id : Nat) : Building Node := do
  let followed := (← get) + 1
  set followed
  if 100 * (d.root.map countEvents).getD 0 < followed then throw .tooManyAliases
  match d.anchored.target? id with
  | some n => return n
  | none => throw .unknownAlias

def withTag (tag : Option Tag) (v : Value) : Value :=
  match Value.localName? tag with
  | some name => .tagged name v
  | none => v

def scalar (tag : Option Tag) (style : Style) (s : String) : Except Fault Value :=
  match Value.localName? tag with
  | some name => do .ok (.tagged name (← Value.ofScalar none style s))
  | none => Value.ofScalar tag style s

mutual
/-- The value of a node. `room` is how many more levels of nesting are allowed. -/
def value (d : Document) (room : Nat) (n : Node) : Building Value :=
  match n with
  | .alias id => do
      match (← follow d id) with
      | .alias _ => throw .unknownAlias
      | .scalar tag style s => scalar tag style s
      | .sequence tag ns =>
          match room with
          | 0 => throw .tooDeep
          | room + 1 => return withTag tag (.seq (← items d room ns))
      | .mapping tag ns =>
          match room with
          | 0 => throw .tooDeep
          | room + 1 => return withTag tag (.map (← entries d room [] ns))
  | .scalar tag style s => scalar tag style s
  | .sequence tag ns =>
      match room with
      | 0 => throw .tooDeep
      | room + 1 => return withTag tag (.seq (← items d room ns))
  | .mapping tag ns =>
      match room with
      | 0 => throw .tooDeep
      | room + 1 => return withTag tag (.map (← entries d room [] ns))
termination_by (room, 1 + sizeOf n)

def items (d : Document) (room : Nat) (ns : List Node) : Building (List Value) :=
  match ns with
  | [] => return []
  | n :: rest => do
      let v ← value d room n
      return v :: (← items d room rest)
termination_by (room, 1 + sizeOf ns)

def entries (d : Document) (room : Nat) (before : List (Value × Value))
    (ns : List (Node × Node)) : Building (List (Value × Value)) :=
  match ns with
  | [] => return before
  | (k, n) :: rest => do
      let key ← value d room k
      if before.any (fun e => e.1.same key) then throw .repeatedKey
      let v ← value d room n
      entries d room (before ++ [(key, v)]) rest
termination_by (room, 1 + sizeOf ns)
end

end Building

/-- Sequences and mappings may be nested this deep. -/
def depthLimit : Nat := 128

/-- Reads the value of a stream; an empty one is null. -/
def Value.parse (text : String) : Except Fault Value := do
  let d ← readDocument text
  match d.root with
  | none => .ok .null
  | some n =>
      let (v, _) ← (Building.value d depthLimit n).run 0
      .ok v

namespace Value

def ofQuantity : Quantity → Json
  | .finite n => .num n
  | _ => .null

/-- The text of a key. Null, numbers that are not finite and compound keys have none. -/
def keyText? : Value → Option String
  | str s => some s
  | bool true => some "true"
  | bool false => some "false"
  | num (.finite n) => some (Json.compact (.num n))
  | _ => none

mutual
/-- The JSON form, if all keys have a text. A tag becomes the only key of an object. -/
def toJson? : Value → Option Json
  | null => some .null
  | bool b => some (.bool b)
  | num q => some (ofQuantity q)
  | str s => some (.str s)
  | seq items => do some (.arr (← itemsToJson? items))
  | map entries => do some (.obj (Json.Members.ofList (← entriesToJson? entries)))
  | tagged name v => do some (.obj [("!" ++ name, ← toJson? v)])

def itemsToJson? : List Value → Option (List Json)
  | [] => some []
  | v :: rest => do some ((← toJson? v) :: (← itemsToJson? rest))

def entriesToJson? : List (Value × Value) → Option (List (String × Json))
  | [] => some []
  | (k, v) :: rest => do
      let key ← keyText? k
      let json ← toJson? v
      some ((key, json) :: (← entriesToJson? rest))
end

end Value

end BatchedGateway.Yaml
