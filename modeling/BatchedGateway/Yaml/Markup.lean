/- Anchors, tags and directives of a YAML stream. -/
import BatchedGateway.Yaml.Spot

namespace BatchedGateway.Yaml

def charsOf (input : Spots) : List Char := input.map (·.char)

def word (input : Spots) : List Char × Spots :=
  (charsOf (input.takeWhile Spot.isWord), input.dropWhile Spot.isWord)

/-- The name of an anchor or alias, after its indicator. -/
def readName (input : Spots) : Except Fault (String × Spots) :=
  match word input with
  | ([], _) => .error .badAnchor
  | (name, rest) =>
      if Spots.atGap rest || rest.head?.any (·.oneOf ['?', ':', ',', ']', '\x7d', '%', '@', '\x60'])
      then .ok (String.ofList name, rest)
      else .error .badAnchor

def byteOf (c : Char) : UInt8 := UInt8.ofNat c.toNat

def hexPair? (a b : Spot) : Option Nat := do
  let digit (c : Char) : Option Nat :=
    if c.isDigit then some (c.toNat - 48)
    else if 'a' ≤ c ∧ c ≤ 'f' then some (c.toNat - 87)
    else if 'A' ≤ c ∧ c ≤ 'F' then some (c.toNat - 55)
    else none
  some ((← digit a.char) * 16 + (← digit b.char))

def isTagChar (verbatim : Bool) (s : Spot) : Bool :=
  s.isWord || s.oneOf [';', '/', '?', ':', '@', '&', '=', '+', '$', '.', '!', '~', '*', '\'', '(',
    ')'] || (verbatim && s.oneOf [',', '[', ']'])

/-- How many bytes follow the first one of an escaped character. -/
def following? (n : Nat) : Option Nat :=
  if n < 0x80 then some 0
  else if n / 32 = 6 then some 1
  else if n / 16 = 14 then some 2
  else if n / 8 = 30 then some 3
  else none

/-- The characters of a tag. `missing` counts the escaped bytes that still have to follow. -/
def tagChars (verbatim : Bool) (missing : Nat) : Spots → Except Fault (Tag × Spots)
  | p :: a :: b :: rest =>
      if p.char = '%' then
        match hexPair? a b with
        | none => .error .badTag
        | some n =>
            let next? := match missing with
              | 0 => following? n
              | k + 1 => if n / 64 = 2 then some k else none
            match next? with
            | none => .error .badTag
            | some k => do
                let (bytes, after) ← tagChars verbatim k rest
                .ok (UInt8.ofNat n :: bytes, after)
      else if missing ≠ 0 then .error .badTag
      else if isTagChar verbatim p then do
        let (bytes, after) ← tagChars verbatim 0 (a :: b :: rest)
        .ok (byteOf p.char :: bytes, after)
      else .ok ([], p :: a :: b :: rest)
  | s :: rest =>
      if s.char = '%' || missing ≠ 0 then .error .badTag
      else if isTagChar verbatim s then do
        let (bytes, after) ← tagChars verbatim 0 rest
        .ok (byteOf s.char :: bytes, after)
      else .ok ([], s :: rest)
  | [] => if missing = 0 then .ok ([], []) else .error .badTag

/-- An exclamation mark, a word and perhaps another exclamation mark. -/
def tagHandle (input : Spots) : Except Fault (List Char × Spots) :=
  match input with
  | s :: rest =>
      if s.char ≠ '!' then .error .badTag
      else
        let (name, rest) := word rest
        match rest with
        | e :: after =>
            if e.char = '!' then .ok ('!' :: name ++ ['!'], after)
            else .ok ('!' :: name, e :: after)
        | [] => .ok ('!' :: name, [])
  | [] => .error .badTag

/-- A tag as handle and suffix; a tag without a handle has the empty one. -/
def tagParts (input : Spots) : Except Fault (Tag × Tag × Spots) :=
  match input with
  | _ :: angle :: rest =>
      if angle.char = '<' then do
        let (suffix, after) ← tagChars true 0 rest
        match after with
        | e :: after =>
            if e.char = '>' && suffix ≠ [] then .ok ([], suffix, after) else .error .badTag
        | [] => .error .badTag
      else short
  | _ => short
where
  short : Except Fault (Tag × Tag × Spots) := do
    let (handle, rest) ← tagHandle input
    let (suffix, after) ← tagChars false 0 rest
    if handle.length > 1 ∧ handle.getLast? = some '!' then
      if suffix = [] then .error .badTag
      else .ok (handle.map byteOf, suffix, after)
    else
      match handle.tail.map byteOf ++ suffix with
      | [] => .ok ([], [byteOf '!'], after)
      | whole => .ok ([byteOf '!'], whole, after)

/-- A tag has to end at a gap, or at a comma in a flow collection. -/
def readTag (inFlow : Bool) (input : Spots) : Except Fault (Token × Spots) := do
  let (handle, suffix, rest) ← tagParts input
  if Spots.atGap rest || (inFlow && rest.head?.any (·.char == ',')) then
    .ok (.tag handle suffix, rest)
  else .error .badTag

def versionNumber (input : Spots) : Except Fault (Nat × Spots) :=
  let ds := charsOf (input.takeWhile (·.char.isDigit))
  if ds = [] ∨ 9 < ds.length then .error .badDirective
  else .ok (Nat.ofDigitChars 10 ds 0, input.dropWhile (·.char.isDigit))

def versionDirective (input : Spots) : Except Fault (Token × Spots) := do
  let (major, rest) ← versionNumber (Spots.skipSpaces input)
  match rest with
  | dot :: rest =>
      if dot.char = '.' then
        let (minor, rest) ← versionNumber rest
        .ok (.version major minor, rest)
      else .error .badDirective
  | [] => .error .badDirective

def atSpace (input : Spots) : Bool := input.head?.any Spot.isSpace

def tagDirective (input : Spots) : Except Fault (Token × Spots) := do
  let (handle, rest) ← tagHandle (Spots.skipSpaces input)
  if handle ≠ ['!'] ∧ handle.getLast? ≠ some '!' then .error .badDirective
  if !atSpace rest then .error .badDirective
  let (start, rest) ← tagChars true 0 (Spots.skipSpaces rest)
  if start = [] ∨ !Spots.atGap rest then .error .badDirective
  .ok (.tagDirective (handle.map byteOf) start, rest)

/-- A directive after its percent sign, through the end of its line. -/
def readDirective (input : Spots) : Except Fault (Token × Spots) := do
  let (name, rest) := word input
  if !Spots.atGap rest then .error .badDirective
  let (token, rest) ←
    if name = "YAML".toList then versionDirective rest
    else if name = "TAG".toList then tagDirective rest
    else .error .badDirective
  let rest := Spots.skipComment (Spots.skipSpaces rest)
  if Spots.atBreak rest then .ok (token, rest.drop 1) else .error .badDirective

end BatchedGateway.Yaml
