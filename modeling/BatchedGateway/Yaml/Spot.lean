/- The characters of a YAML stream, where they stand, and the tokens they make up. -/

namespace BatchedGateway.Yaml

inductive Fault
  | badCharacter
  | endOfStream
  | badIndicator
  | badKey
  | badEscape
  | badIndentation
  | badTag
  | badAnchor
  | badDirective
  | unexpectedToken
  | unknownAlias
  | severalDocuments
  | tooDeep
  | tooManyAliases
  | repeatedKey
  | badScalar
  | wrongShape
  deriving DecidableEq, Repr

def Fault.message : Fault → String
  | .badCharacter => "control characters are not allowed"
  | .endOfStream => "unexpected end of the stream"
  | .badIndicator => "a character that cannot start any token"
  | .badKey => "could not find the ':' of a key"
  | .badEscape => "unknown escape in a quoted text"
  | .badIndentation => "wrong indentation"
  | .badTag => "invalid tag"
  | .badAnchor => "invalid anchor"
  | .badDirective => "invalid directive"
  | .unexpectedToken => "unexpected token"
  | .unknownAlias => "unknown anchor"
  | .severalDocuments => "more than one document"
  | .tooDeep => "values nested too deeply"
  | .tooManyAliases => "aliases expand too far"
  | .repeatedKey => "a key occurs twice"
  | .badScalar => "a text that does not fit its tag"
  | .wrongShape => "the value does not have the expected shape"

structure Spot where
  char : Char
  index : Nat
  line : Nat
  column : Nat
  deriving DecidableEq, Repr

def isAllowed (c : Char) : Bool :=
  let n := c.toNat
  n == 9 || n == 10 || n == 13 || (0x20 ≤ n && n ≤ 0x7E) || n == 0x85 ||
    (0xA0 ≤ n && n ≤ 0xD7FF) || (0xE000 ≤ n && n ≤ 0xFFFD) || 0x10000 ≤ n

/-- The characters one by one. Every line break is a line feed here, but for the two
separators of lines and paragraphs, which stay as they are. -/
def layOut (index line column : Nat) : List Char → List Spot
  | [] => []
  | '\r' :: '\n' :: rest => ⟨'\n', index, line, column⟩ :: layOut (index + 2) (line + 1) 0 rest
  | c :: rest =>
      if c = '\r' ∨ c = '\n' ∨ c = '\u0085' then
        ⟨'\n', index, line, column⟩ :: layOut (index + 1) (line + 1) 0 rest
      else if c = '\u2028' ∨ c = '\u2029' then
        ⟨c, index, line, column⟩ :: layOut (index + 1) (line + 1) 0 rest
      else ⟨c, index, line, column⟩ :: layOut (index + 1) line (column + 1) rest

/-- The spots of a stream. A byte order mark in front is passed over. -/
def spots (text : String) : Except Fault (List Spot) :=
  let cs := match text.toList with
    | '\ufeff' :: cs => cs
    | cs => cs
  if cs.all isAllowed then .ok (layOut 0 0 0 cs) else .error .badCharacter

namespace Spot

def isBreak (s : Spot) : Bool := s.char = '\n' || s.char = '\u2028' || s.char = '\u2029'

def isSpace (s : Spot) : Bool := s.char = ' ' || s.char = '\t'

/-- Characters of anchors, handles and directive names. -/
def isWord (s : Spot) : Bool :=
  s.char.isAlphanum || s.char = '-' || s.char = '_'

def oneOf (s : Spot) (cs : List Char) : Bool := cs.contains s.char

end Spot

abbrev Spots := List Spot

namespace Spots

/-- The end, a line break, a space or a tab. -/
def atGap : Spots → Bool
  | [] => true
  | s :: _ => s.isSpace || s.isBreak

def atBreak : Spots → Bool
  | [] => true
  | s :: _ => s.isBreak

def skipSpaces (input : Spots) : Spots := input.dropWhile Spot.isSpace

/-- Passes over a comment up to the end of its line. -/
def skipComment : Spots → Spots
  | s :: rest =>
      if s.char = '#' then rest.dropWhile (!·.isBreak) else s :: rest
  | [] => []

def startsWith (word : List Char) (input : Spots) : Bool :=
  (input.take word.length).map (·.char) == word

/-- Three dashes or three dots at the start of a line, with a gap after them. -/
def atDocumentMark (input : Spots) : Bool :=
  match input with
  | s :: _ =>
      s.column == 0 && (startsWith ['-', '-', '-'] input || startsWith ['.', '.', '.'] input) &&
        atGap (input.drop 3)
  | [] => false

end Spots

inductive Style
  | plain
  | quoted
  | literal
  | folded
  deriving DecidableEq, Repr

/-- A tag, as bytes: percent escapes in it need not give text. -/
abbrev Tag := List UInt8

inductive Token
  | version (major minor : Nat)
  | tagDirective (handle start : Tag)
  | documentStart
  | documentEnd
  | blockSequence
  | blockMapping
  | blockEnd
  | flowSequence
  | flowSequenceEnd
  | flowMapping
  | flowMappingEnd
  | entry
  | flowEntry
  | key
  | value
  | alias (name : String)
  | anchor (name : String)
  | tag (handle suffix : Tag)
  | scalar (style : Style) (text : String)
  deriving DecidableEq, Repr

end BatchedGateway.Yaml
