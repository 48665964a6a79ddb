/- The tokens of a type system document. -/

namespace BatchedGateway.Sdl

inductive Fault
  | badCharacter (c : Char)
  | badNumber
  | badString
  | badEscape
  | expected (what : String)
  | tooDeep
  | executable
  | redefined (name : String)
  | repeatedMember (owner name : String)
  | repeatedRoot
  | kindMismatch (name : String)
  | orphanExtension (name : String)
  deriving DecidableEq, Repr

def Fault.message : Fault → String
  | .badCharacter c => "unexpected character '" ++ String.singleton c ++ "'"
  | .badNumber => "invalid number"
  | .badString => "unterminated string"
  | .badEscape => "invalid escape in a string"
  | .expected what => "expected " ++ what
  | .tooDeep => "recursion limit reached"
  | .executable => "a schema document has no executable definitions"
  | .redefined name => "'" ++ name ++ "' is defined more than once"
  | .repeatedMember owner name => "'" ++ name ++ "' occurs more than once in '" ++ owner ++ "'"
  | .repeatedRoot => "a root operation type is defined more than once"
  | .kindMismatch name => "an extension of another kind than '" ++ name ++ "'"
  | .orphanExtension name => "an extension of '" ++ name ++ "', which is not defined"

inductive Token
  | punct (c : Char)
  | name (s : String)
  | int
  | float
  | string
  deriving DecidableEq, Repr

/-- Commas count as blanks. -/
def isIgnored (c : Char) : Bool :=
  c = '\t' || c = '\n' || c = '\r' || c = ' ' || c = ',' || c = '\ufeff'

def isPunct (c : Char) : Bool :=
  ['!', '$', '&', '(', ')', ':', '=', '@', '[', ']', '\x7b', '|', '\x7d'].contains c

def isNameStart (c : Char) : Bool := c.isAlpha || c = '_'

def isNameChar (c : Char) : Bool := c.isAlphanum || c = '_'

def isLineEnd (c : Char) : Bool := c = '\n' || c = '\r'

def isHex (c : Char) : Bool :=
  c.isDigit || ('a' ≤ c && c ≤ 'f') || ('A' ≤ c && c ≤ 'F')

/-- The code units from D800 on up to DFFF stand for no character. -/
def isSurrogate (a b : Char) : Bool :=
  (a = 'd' || a = 'D') && !(b.isDigit && b ≤ '7')

/-- What is left after the closing quote of a string. -/
def skipString : List Char → Except Fault (List Char)
  | [] => .error .badString
  | '"' :: rest => .ok rest
  | '\\' :: 'u' :: a :: b :: c :: d :: rest =>
      if [a, b, c, d].all isHex && !isSurrogate a b then skipString rest else .error .badEscape
  | '\\' :: e :: rest =>
      if ['"', '\\', '/', 'b', 'f', 'n', 'r', 't'].contains e then skipString rest
      else .error .badEscape
  | c :: rest => if isLineEnd c then .error .badString else skipString rest

/-- What is left after the three quotes that close a block string. -/
def skipBlockString : List Char → Except Fault (List Char)
  | [] => .error .badString
  | '\\' :: '"' :: '"' :: '"' :: rest => skipBlockString rest
  | '"' :: '"' :: '"' :: rest => .ok rest
  | _ :: rest => skipBlockString rest

def skipDigits (cs : List Char) : List Char := cs.dropWhile Char.isDigit

/-- Digits, of which there has to be one. -/
def someDigits (cs : List Char) : Except Fault (List Char) :=
  if cs.head?.any Char.isDigit then .ok (skipDigits cs) else .error .badNumber

def skipFraction : List Char → Except Fault (Bool × List Char)
  | '.' :: cs => do .ok (true, ← someDigits cs)
  | cs => .ok (false, cs)

def skipPower : List Char → Except Fault (Bool × List Char)
  | [] => .ok (false, [])
  | e :: cs =>
      if e = 'e' ∨ e = 'E' then do
        let cs := match cs with
          | '+' :: rest => rest
          | '-' :: rest => rest
          | cs => cs
        .ok (true, ← someDigits cs)
      else .ok (false, e :: cs)

/-- A number after its sign. A leading zero stands alone, and neither a name nor a point
may follow directly. -/
def readNumber (cs : List Char) : Except Fault (Token × List Char) := do
  let afterWhole ← match cs with
    | '0' :: d :: rest => if d.isDigit then .error .badNumber else .ok (d :: rest)
    | cs => someDigits cs
  let (fraction, afterFraction) ← skipFraction afterWhole
  let (power, rest) ← skipPower afterFraction
  if rest.head?.any fun c => isNameStart c || c = '.' then .error .badNumber
  else .ok (if fraction || power then .float else .int, rest)

/-- The token at the front, and what is left after it. -/
def readToken (c : Char) (rest : List Char) : Except Fault (Token × List Char) :=
  if isPunct c then .ok (.punct c, rest)
  else if isNameStart c then
    .ok (.name (String.ofList (c :: rest.takeWhile isNameChar)), rest.dropWhile isNameChar)
  else if c = '"' then
    match rest with
    | '"' :: '"' :: rest => do .ok (.string, ← skipBlockString rest)
    | rest => do .ok (.string, ← skipString rest)
  else if c = '-' then readNumber rest
  else if c.isDigit then readNumber (c :: rest)
  else .error (.badCharacter c)

/-- The tokens of a text. Each round of the fuel reads at least one character. -/
def tokensFrom : (fuel : Nat) → List Char → Except Fault (List Token)
  | 0, _ => .ok []
  | fuel + 1, cs =>
      match cs with
      | [] => .ok []
      | '#' :: rest => tokensFrom fuel (rest.dropWhile fun c => !isLineEnd c)
      | c :: rest =>
          if isIgnored c then tokensFrom fuel rest
          else do
            let (t, rest) ← readToken c rest
            .ok (t :: (← tokensFrom fuel rest))

def tokens (text : String) : Except Fault (List Token) :=
  let cs := text.toList
  tokensFrom cs.length cs

end BatchedGateway.Sdl
