/- JSON text taken apart: numerals, escapes and repeated members stay as they were written. -/
import BatchedGateway.Json.Value

namespace BatchedGateway.Json

/-- A character of a written string, or an escape in it. -/
inductive Mark
  | raw (c : Char)
  | short (c : Char)
  | unit (n : Nat)
  deriving DecidableEq, Repr

structure Numeral where
  negative : Bool
  whole : List Char
  fraction : Option (List Char)
  power : Option (Bool × List Char)
  deriving DecidableEq, Repr

inductive Written
  | null
  | bool (b : Bool)
  | numeral (n : Numeral)
  | string (marks : List Mark)
  | array (items : List Written)
  | object (members : List (List Mark × Written))
  deriving Repr, Inhabited

inductive Fault
  | endOfText
  | unexpected (c : Char)
  | badNumeral
  | badEscape
  | controlCharacter
  | loneSurrogate
  | outOfRange
  | tooDeep
  | textAfterValue
  | notUtf8
  | wrongShape
  deriving DecidableEq, Repr

def Fault.message : Fault → String
  | .endOfText => "the text ends early"
  | .unexpected c => "unexpected character '" ++ String.singleton c ++ "'"
  | .badNumeral => "invalid number"
  | .badEscape => "invalid escape"
  | .controlCharacter => "control character in a string"
  | .loneSurrogate => "lone surrogate in a string"
  | .outOfRange => "number out of range"
  | .tooDeep => "values nested too deeply"
  | .textAfterValue => "text after the value"
  | .notUtf8 => "the text is not UTF-8"
  | .wrongShape => "the value does not have the expected shape"

namespace Written

def isSpace (c : Char) : Bool := c = ' ' || c = '\n' || c = '\r' || c = '\t'

def skipSpace (cs : List Char) : List Char := cs.dropWhile isSpace

def hexValue? (c : Char) : Option Nat :=
  if '0' ≤ c ∧ c ≤ '9' then some (c.toNat - 48)
  else if 'a' ≤ c ∧ c ≤ 'f' then some (c.toNat - 87)
  else if 'A' ≤ c ∧ c ≤ 'F' then some (c.toNat - 55)
  else none

def hex4? : List Char → Option (Nat × List Char)
  | a :: b :: c :: d :: rest => do
      let a ← hexValue? a
      let b ← hexValue? b
      let c ← hexValue? c
      let d ← hexValue? d
      some (((a * 16 + b) * 16 + c) * 16 + d, rest)
  | _ => none

def shortEscape? : Char → Option Char
  | '"' => some '"'
  | '\\' => some '\\'
  | '/' => some '/'
  | 'b' => some '\x08'
  | 'f' => some '\x0c'
  | 'n' => some '\n'
  | 'r' => some '\r'
  | 't' => some '\t'
  | _ => none

theorem hex4?_length {cs rest : List Char} {n : Nat} (h : hex4? cs = some (n, rest)) :
    rest.length < cs.length := by
  match cs with
  | a :: b :: c :: d :: tail =>
      simp only [hex4?, Option.bind_eq_bind, Option.bind_eq_some_iff, Option.some.injEq,
        Prod.mk.injEq] at h
      obtain ⟨_, _, _, _, _, _, _, _, _, rfl⟩ := h
      simp only [List.length_cons]
      omega
  | [] | [_] | [_, _] | [_, _, _] => simp [hex4?] at h

/-- The marks up to the closing quote, and the text after it. -/
def readMarks (cs : List Char) : Except Fault (List Mark × List Char) :=
  match cs with
  | [] => .error .endOfText
  | '"' :: rest => .ok ([], rest)
  | '\\' :: 'u' :: rest =>
      match _h : hex4? rest with
      | none => .error .badEscape
      | some (n, after) => do
          let (marks, rest) ← readMarks after
          .ok (.unit n :: marks, rest)
  | '\\' :: c :: rest =>
      match shortEscape? c with
      | none => .error .badEscape
      | some e => do
          let (marks, rest) ← readMarks rest
          .ok (.short e :: marks, rest)
  | '\\' :: [] => .error .endOfText
  | c :: rest =>
      if c.toNat < 32 then .error .controlCharacter
      else do
        let (marks, rest) ← readMarks rest
        .ok (.raw c :: marks, rest)
termination_by cs.length
decreasing_by
  · have := hex4?_length _h
    simp only [List.length_cons]
    omega
  all_goals simp only [List.length_cons]; omega

def digits (cs : List Char) : List Char × List Char :=
  (cs.takeWhile Char.isDigit, cs.dropWhile Char.isDigit)

def readPower : List Char → Except Fault (Option (Bool × List Char) × List Char)
  | e :: cs =>
      if e = 'e' ∨ e = 'E' then
        let (negative, cs) := match cs with
          | '+' :: cs => (false, cs)
          | '-' :: cs => (true, cs)
          | cs => (false, cs)
        match digits cs with
        | ([], _) => .error .badNumeral
        | (ds, rest) => .ok (some (negative, ds), rest)
      else .ok (none, e :: cs)
  | [] => .ok (none, [])

def readFraction : List Char → Except Fault (Option (List Char) × List Char)
  | '.' :: cs =>
      match digits cs with
      | ([], _) => .error .badNumeral
      | (ds, rest) => .ok (some ds, rest)
  | cs => .ok (none, cs)

/-- A numeral after its sign. A leading zero stands alone. -/
def readNumeral (negative : Bool) (cs : List Char) : Except Fault (Written × List Char) :=
  match digits cs with
  | ([], _) => .error .badNumeral
  | ('0' :: _ :: _, _) => .error .badNumeral
  | (whole, rest) => do
      let (fraction, rest) ← readFraction rest
      let (power, rest) ← readPower rest
      .ok (.numeral ⟨negative, whole, fraction, power⟩, rest)

def expectWord (word : String) (value : Written) (cs : List Char) :
    Except Fault (Written × List Char) :=
  if word.toList.isPrefixOf cs then .ok (value, cs.drop word.length)
  else .error .endOfText

mutual
/-- One value at the front of the text. The fuel counts values and separators. -/
def readValue : Nat → List Char → Except Fault (Written × List Char)
  | 0, _ => .error .tooDeep
  | fuel + 1, cs =>
      match skipSpace cs with
      | [] => .error .endOfText
      | 'n' :: rest => expectWord "ull" .null rest
      | 't' :: rest => expectWord "rue" (.bool true) rest
      | 'f' :: rest => expectWord "alse" (.bool false) rest
      | '"' :: rest => do
          let (marks, rest) ← readMarks rest
          .ok (.string marks, rest)
      | '[' :: rest =>
          match skipSpace rest with
          | ']' :: rest => .ok (.array [], rest)
          | rest => do
              let (items, rest) ← readItems fuel rest
              .ok (.array items, rest)
      | '\x7b' :: rest =>
          match skipSpace rest with
          | '\x7d' :: rest => .ok (.object [], rest)
          | rest => do
              let (members, rest) ← readMembers fuel rest
              .ok (.object members, rest)
      | '-' :: rest => readNumeral true rest
      | c :: rest =>
          if c.isDigit then readNumeral false (c :: rest) else .error (.unexpected c)

/-- The items of an array that has some, through the closing bracket. -/
def readItems : Nat → List Char → Except Fault (List Written × List Char)
  | 0, _ => .error .tooDeep
  | fuel + 1, cs => do
      let (item, rest) ← readValue fuel cs
      match skipSpace rest with
      | ',' :: rest =>
          let (items, rest) ← readItems fuel rest
          .ok (item :: items, rest)
      | ']' :: rest => .ok ([item], rest)
      | c :: _ => .error (.unexpected c)
      | [] => .error .endOfText

/-- The members of an object that has some, through the closing brace. -/
def readMembers : Nat → List Char → Except Fault (List (List Mark × Written) × List Char)
  | 0, _ => .error .tooDeep
  | fuel + 1, cs =>
      match skipSpace cs with
      | '"' :: rest => do
          let (key, rest) ← readMarks rest
          match skipSpace rest with
          | ':' :: rest =>
              let (value, rest) ← readValue fuel rest
              match skipSpace rest with
              | ',' :: rest =>
                  let (members, rest) ← readMembers fuel rest
                  .ok ((key, value) :: members, rest)
              | '\x7d' :: rest => .ok ([(key, value)], rest)
              | c :: _ => .error (.unexpected c)
              | [] => .error .endOfText
          | c :: _ => .error (.unexpected c)
          | [] => .error .endOfText
      | c :: _ => .error (.unexpected c)
      | [] => .error .endOfText
end

/-- The one value that the text holds. -/
def read (text : String) : Except Fault Written := do
  let cs := text.toList
  let (value, rest) ← readValue (cs.length + 1) cs
  match skipSpace rest with
  | [] => .ok value
  | _ => .error .textAfterValue

end Written

end BatchedGateway.Json
