/- From the characters of a YAML stream to its tokens. -/
import BatchedGateway.Yaml.ScalarText
import BatchedGateway.Yaml.Markup

namespace BatchedGateway.Yaml

/-- A token that may turn out to start a key, once a colon follows it on its line. -/
structure KeyStart where
  /-- Without the colon the indentation is broken. -/
  required : Bool
  /-- How many tokens come before it. -/
  position : Nat
  spot : Spot

/-- The tokens read so far, the latest first, and what the next ones depend on. There is one
place for a key in each flow collection that is open, innermost first, and one outside. -/
structure Scanner where
  tokens : List Token
  /-- How many tokens there are. -/
  count : Nat
  indent : Int
  outerIndents : List Int
  key : Option KeyStart
  outerKeys : List (Option KeyStart)
  keyAllowed : Bool

namespace Scanner

def start : Scanner := ⟨[], 0, -1, [], none, [], true⟩

def inFlow (s : Scanner) : Bool := !s.outerKeys.isEmpty

def emit (t : Token) (s : Scanner) : Scanner :=
  { s with tokens := t :: s.tokens, count := s.count + 1 }

/-- Puts a token in front of the one at `position`. -/
def insertAt (position : Nat) (t : Token) (s : Scanner) : Scanner :=
  let later := s.count - position
  { s with tokens := s.tokens.take later ++ t :: s.tokens.drop later, count := s.count + 1 }

/-- A key cannot go on in another line, nor for more than 1024 characters. -/
def dropStale (here : Spot) (key : Option KeyStart) : Except Fault (Option KeyStart) :=
  match key with
  | none => .ok none
  | some k =>
      if k.spot.line < here.line || k.spot.index + 1024 < here.index then
        if k.required then .error .badKey else .ok none
      else .ok (some k)

def dropStaleKeys (here : Spot) (s : Scanner) : Except Fault Scanner := do
  let key ← dropStale here s.key
  let outerKeys ← s.outerKeys.mapM (dropStale here)
  .ok { s with key, outerKeys }

def forgetKey (s : Scanner) : Except Fault Scanner :=
  if s.key.any (·.required) then .error .badKey else .ok { s with key := none }

/-- Notes that a key may start with the next token. -/
def noteKey (here : Spot) (s : Scanner) : Except Fault Scanner := do
  if s.keyAllowed then
    let s ← s.forgetKey
    let required := !s.inFlow && s.indent == here.column
    .ok { s with key := some ⟨required, s.count, here⟩ }
  else .ok s

/-- Opens a block collection where the column is further right than the indentation. -/
def indentTo (column : Nat) (position : Nat) (t : Token) (s : Scanner) : Scanner :=
  if s.inFlow || (column : Int) ≤ s.indent then s
  else { s.insertAt position t with indent := column, outerIndents := s.indent :: s.outerIndents }

def closeBlocks (column : Int) : List Int → Scanner → Scanner
  | [], s => { s with outerIndents := [] }
  | outer :: rest, s =>
      if column < s.indent then closeBlocks column rest { s.emit .blockEnd with indent := outer }
      else { s with outerIndents := outer :: rest }

/-- Closes the block collections that are further right than the column. -/
def unindentTo (column : Int) (s : Scanner) : Scanner :=
  if s.inFlow then s else closeBlocks column s.outerIndents s

def openFlow (here : Spot) (t : Token) (s : Scanner) : Except Fault Scanner := do
  let s ← s.noteKey here
  .ok { s.emit t with key := none, outerKeys := s.key :: s.outerKeys, keyAllowed := true }

def closeFlow (t : Token) (s : Scanner) : Except Fault Scanner := do
  let s ← s.forgetKey
  let s := match s.outerKeys with
    | key :: outerKeys => { s with key, outerKeys }
    | [] => s
  .ok { s.emit t with keyAllowed := false }

/-- A collection of blocks starts only where a key could. -/
def startBlock (here : Spot) (t : Token) (s : Scanner) : Except Fault Scanner :=
  if s.inFlow then .ok s
  else if s.keyAllowed then .ok (s.indentTo here.column s.count t)
  else .error .badIndicator

def blockEntry (here : Spot) (s : Scanner) : Except Fault Scanner := do
  let s ← s.startBlock here .blockSequence
  let s ← s.forgetKey
  .ok { s.emit .entry with keyAllowed := true }

def explicitKey (here : Spot) (s : Scanner) : Except Fault Scanner := do
  let s ← s.startBlock here .blockMapping
  let s ← s.forgetKey
  .ok { s.emit .key with keyAllowed := !s.inFlow }

/-- The colon: a key that was noted is one now. -/
def valueMark (here : Spot) (s : Scanner) : Except Fault Scanner := do
  match s.key with
  | some k =>
      let s := s.insertAt k.position .key
      let s := s.indentTo k.spot.column k.position .blockMapping
      .ok { s.emit .value with key := none, keyAllowed := false }
  | none =>
      let s ← s.startBlock here .blockMapping
      .ok { s.emit .value with keyAllowed := !s.inFlow }

/-- A token that ends all blocks: a document mark or a directive. -/
def outermost (t : Token) (s : Scanner) : Except Fault Scanner := do
  let s ← (s.unindentTo (-1)).forgetKey
  .ok { s.emit t with keyAllowed := false }

/-- A token that can itself start a key. -/
def node (here : Spot) (t : Token) (s : Scanner) : Except Fault Scanner := do
  let s ← s.noteKey here
  .ok { s.emit t with keyAllowed := false }

/-- Passes over blanks, comments and line breaks. A tab is no blank where a key may start
in a block. -/
def toNext (inFlow : Bool) (inComment keyAllowed : Bool) : Spots → Bool × Spots
  | [] => (keyAllowed, [])
  | s :: rest =>
      if s.isBreak then toNext inFlow false (keyAllowed || !inFlow) rest
      else if inComment then toNext inFlow true keyAllowed rest
      else if s.char = ' ' || (s.char = '\t' && (inFlow || !keyAllowed)) then
        toNext inFlow false keyAllowed rest
      else if s.char = '#' then toNext inFlow true keyAllowed rest
      else (keyAllowed, s :: rest)

def isIndicator (s : Spot) : Bool :=
  s.oneOf ['-', '?', ':', ',', '[', ']', '\x7b', '\x7d', '#', '&', '*', '!', '|', '>', '\'', '"',
    '%', '@', '\x60']

/-- Reads the token at `here`, which is followed by `rest`. -/
def token (here : Spot) (rest : Spots) (s : Scanner) : Except Fault (Scanner × Spots) := do
  let input := here :: rest
  let gapNext := Spots.atGap rest
  if here.column = 0 ∧ here.char = '%' then
    let (t, rest) ← readDirective rest
    return (← s.outermost t, rest)
  if Spots.atDocumentMark input then
    let t := if here.char = '-' then Token.documentStart else Token.documentEnd
    return (← s.outermost t, rest.drop 2)
  match here.char with
  | '[' => return (← s.openFlow here .flowSequence, rest)
  | '\x7b' => return (← s.openFlow here .flowMapping, rest)
  | ']' => return (← s.closeFlow .flowSequenceEnd, rest)
  | '\x7d' => return (← s.closeFlow .flowMappingEnd, rest)
  | ',' =>
      let s ← s.forgetKey
      return ({ s.emit .flowEntry with keyAllowed := true }, rest)
  | '*' =>
      let (name, rest) ← readName rest
      return (← s.node here (.alias name), rest)
  | '&' =>
      let (name, rest) ← readName rest
      return (← s.node here (.anchor name), rest)
  | '!' =>
      let (t, rest) ← readTag s.inFlow input
      return (← s.node here t, rest)
  | '\'' =>
      let (text, rest) ← singleQuoted .none rest
      return (← s.node here (.scalar .quoted (String.ofList text)), rest)
  | '"' =>
      let (text, rest) ← doubleQuoted .none rest
      return (← s.node here (.scalar .quoted (String.ofList text)), rest)
  | _ => pure ()
  if here.char = '-' && gapNext then return (← s.blockEntry here, rest)
  if here.char = '?' && (s.inFlow || gapNext) then return (← s.explicitKey here, rest)
  if here.char = ':' && (s.inFlow || gapNext) then return (← s.valueMark here, rest)
  if here.oneOf ['|', '>'] && !s.inFlow then
    let folded := here.char = '>'
    let (text, rest) ← blockText folded s.indent rest
    let s ← s.forgetKey
    let style := if folded then Style.folded else Style.literal
    let t := Token.scalar style (String.ofList text)
    return ({ s.emit t with keyAllowed := true }, rest)
  if isIndicator here && !(here.oneOf ['-', '?', ':']) then throw .badIndicator
  if here.char = '\t' then throw .badIndicator
  let (text, gap, rest) ← plainText s.inFlow (s.indent + 1) .none input
  let s ← s.node here (.scalar .plain (String.ofList text))
  return ({ s with keyAllowed := s.keyAllowed || gap.hasBreak }, rest)

def finish (s : Scanner) : Except Fault (List Token) := do
  let s ← (s.unindentTo (-1)).forgetKey
  .ok s.tokens.reverse

/-- Each round reads at least one character. -/
def run : (fuel : Nat) → Spots → Scanner → Except Fault (List Token)
  | 0, _, s => s.finish
  | fuel + 1, input, s => do
      let (keyAllowed, input) := toNext s.inFlow false s.keyAllowed input
      match input with
      | [] => s.finish
      | here :: rest =>
          let s ← { s with keyAllowed }.dropStaleKeys here
          let s := s.unindentTo here.column
          let (s, rest) ← s.token here rest
          run fuel rest s

end Scanner

/-- The tokens of a stream. -/
def scan (text : String) : Except Fault (List Token) := do
  let input ← spots text
  Scanner.run (input.length + 1) input Scanner.start

end BatchedGateway.Yaml
