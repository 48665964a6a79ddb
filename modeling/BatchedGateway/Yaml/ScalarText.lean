/- Scalars as they are written: blocks, quotes and plain text. -/
import BatchedGateway.Yaml.Spot

namespace BatchedGateway.Yaml

/-- What stands between two words of a scalar. A break that was escaped is no `first`. -/
inductive Gap
  | none
  | spaces (cs : List Char)
  | breaks (first : Option Char) (more : List Char)

namespace Gap

/-- One line feed alone folds into a space. -/
def text : Gap → List Char
  | none => []
  | spaces cs => cs
  | breaks (some '\n') [] => [' ']
  | breaks (some '\n') more => more
  | breaks (some c) more => c :: more
  | breaks Option.none more => more

def add (g : Gap) (s : Spot) : Gap :=
  match g with
  | none => if s.isBreak then breaks s.char [] else spaces [s.char]
  | spaces cs => if s.isBreak then breaks s.char [] else spaces (cs ++ [s.char])
  | breaks first more => if s.isBreak then breaks first (more ++ [s.char]) else breaks first more

def isNone : Gap → Bool
  | none => true
  | _ => false

def hasBreak : Gap → Bool
  | breaks _ _ => true
  | _ => false

end Gap

/-- A plain scalar: its text, the gap after it and the rest. `indent` is the least column
of a line that goes on with it. -/
def plainText (inFlow : Bool) (indent : Int) (gap : Gap) :
    Spots → Except Fault (List Char × Gap × Spots)
  | [] => .ok ([], gap, [])
  | s :: rest =>
      if s.isSpace || s.isBreak then
        if gap.hasBreak && s.char = '\t' && decide ((s.column : Int) < indent) then
          .error .badIndentation
        else plainText inFlow indent (gap.add s) rest
      else if !gap.isNone && ((!inFlow && decide ((s.column : Int) < indent)) || s.char = '#') then
        .ok ([], gap, s :: rest)
      else if Spots.atDocumentMark (s :: rest) then .ok ([], gap, s :: rest)
      else if inFlow && s.char = ':' &&
          rest.head?.any (·.oneOf [',', '?', '[', ']', '\x7b', '\x7d']) then
        .error .badIndicator
      else if (s.char = ':' && Spots.atGap rest) ||
          (inFlow && s.oneOf [',', '[', ']', '\x7b', '\x7d']) then
        .ok ([], gap, s :: rest)
      else do
        let (text, last, after) ← plainText inFlow indent .none rest
        .ok (gap.text ++ s.char :: text, last, after)

/-- The text of a scalar in single quotes, after the first one. -/
def singleQuoted (gap : Gap) : Spots → Except Fault (List Char × Spots)
  | [] => .error .endOfStream
  | [s] => if s.char = '\'' then .ok (gap.text, []) else .error .endOfStream
  | s :: t :: rest =>
      if s.isSpace || s.isBreak then singleQuoted (gap.add s) (t :: rest)
      else if Spots.atDocumentMark (s :: t :: rest) then .error .unexpectedToken
      else if s.char = '\'' then
        if t.char = '\'' then do
          let (text, after) ← singleQuoted .none rest
          .ok (gap.text ++ '\'' :: text, after)
        else .ok (gap.text, t :: rest)
      else do
        let (text, after) ← singleQuoted .none (t :: rest)
        .ok (gap.text ++ s.char :: text, after)

def shortEscape? : Char → Option Char
  | '0' => some '\x00'
  | 'a' => some '\x07'
  | 'b' => some '\x08'
  | 't' | '\t' => some '\t'
  | 'n' => some '\n'
  | 'v' => some '\x0b'
  | 'f' => some '\x0c'
  | 'r' => some '\r'
  | 'e' => some '\x1b'
  | ' ' => some ' '
  | '"' => some '"'
  | '/' => some '/'
  | '\\' => some '\\'
  | 'N' => some '\u0085'
  | '_' => some '\u00a0'
  | 'L' => some '\u2028'
  | 'P' => some '\u2029'
  | _ => none

def hexLength? : Char → Option Nat
  | 'x' => some 2
  | 'u' => some 4
  | 'U' => some 8
  | _ => none

def hexValue? (c : Char) : Option Nat :=
  if '0' ≤ c ∧ c ≤ '9' then some (c.toNat - 48)
  else if 'a' ≤ c ∧ c ≤ 'f' then some (c.toNat - 87)
  else if 'A' ≤ c ∧ c ≤ 'F' then some (c.toNat - 55)
  else none

def hexNumber? (ds : Spots) : Option Nat :=
  ds.foldlM (fun n d => (hexValue? d.char).map (n * 16 + ·)) 0

/-- The character of a code point; surrogates have none. -/
def codeChar? (n : Nat) : Option Char :=
  if 0x10FFFF < n ∨ (0xD800 ≤ n ∧ n ≤ 0xDFFF) then none else some (Char.ofNat n)

/-- The text of a scalar in double quotes, after the first one. -/
def doubleQuoted (gap : Gap) (input : Spots) : Except Fault (List Char × Spots) :=
  match input with
  | [] => .error .endOfStream
  | s :: rest =>
      if s.isSpace || s.isBreak then doubleQuoted (gap.add s) rest
      else if Spots.atDocumentMark (s :: rest) then .error .unexpectedToken
      else if s.char = '"' then .ok (gap.text, rest)
      else if s.char = '\\' then
        match rest with
        | [] => .error .endOfStream
        | e :: rest =>
            if e.isBreak then do
              let (text, after) ← doubleQuoted (.breaks none []) rest
              .ok (gap.text ++ text, after)
            else match hexLength? e.char with
              | some n =>
                  if (rest.take n).length < n then .error .badEscape
                  else match (hexNumber? (rest.take n)).bind codeChar? with
                    | none => .error .badEscape
                    | some c => do
                        let (text, after) ← doubleQuoted .none (rest.drop n)
                        .ok (gap.text ++ c :: text, after)
              | none =>
                  match shortEscape? e.char with
                  | none => .error .badEscape
                  | some c => do
                      let (text, after) ← doubleQuoted .none rest
                      .ok (gap.text ++ c :: text, after)
      else do
        let (text, after) ← doubleQuoted .none rest
        .ok (gap.text ++ s.char :: text, after)
termination_by input.length
decreasing_by all_goals simp +arith [List.length_drop]

/-- Empty lines and indentation in front of a line of a block. An `indent` of zero is not
yet known; the second part of the answer is the furthest column reached. -/
def blockGap (indent reach : Nat) : Spots → Except Fault (List Char × Nat × Spots)
  | [] => .ok ([], reach, [])
  | s :: rest =>
      let inside := indent = 0 || s.column < indent
      if s.char = ' ' && inside then blockGap indent reach rest
      else if s.char = '\t' && inside then .error .badIndentation
      else if s.isBreak then do
        let (breaks, reach, after) ← blockGap indent (max reach s.column) rest
        .ok (s.char :: breaks, reach, after)
      else .ok ([], max reach s.column, s :: rest)

/-- What joins two lines of a folded block: a line feed between two lines that do not
start with a blank becomes a space, or nothing before empty lines. -/
def foldBreak (lead : List Char) (empties : List Char) (blankEdge : Bool) : List Char :=
  if lead = ['\n'] && !blankEdge then
    if empties = [] then [' '] else empties
  else lead ++ empties

/-- The lines of a block scalar from its first line on: the text, then the last line break
and the empty lines at the end, which chomping decides about. -/
def blockLines (folded : Bool) (indent : Nat) :
    (fuel : Nat) → (lead empties : List Char) → (blankBefore : Bool) → Spots →
      Except Fault (List Char × List Char × List Char × Spots)
  | 0, lead, empties, _, input => .ok ([], lead, empties, input)
  | _, lead, empties, _, [] => .ok ([], lead, empties, [])
  | fuel + 1, lead, empties, blankBefore, s :: rest =>
      if s.column ≠ indent then .ok ([], lead, empties, s :: rest)
      else do
        let joint :=
          if folded then foldBreak lead empties (blankBefore || s.isSpace) else lead ++ empties
        let line := ((s :: rest).takeWhile (!·.isBreak)).map (·.char)
        let (lead, after) : List Char × Spots :=
          match (s :: rest).dropWhile (!·.isBreak) with
          | [] => ([], [])
          | b :: after => ([b.char], after)
        let (empties, _, after) ← blockGap indent 0 after
        let (text, lead, empties, after) ←
          blockLines folded indent fuel lead empties s.isSpace after
        .ok (joint ++ line ++ text, lead, empties, after)

inductive Chomp
  | clip
  | strip
  | keep

def Chomp.of? (s : Spot) : Option Chomp :=
  if s.char = '+' then some .keep else if s.char = '-' then some .strip else none

/-- A digit of the header; zero is not allowed. -/
def blockDigit (input : Spots) : Except Fault (Nat × Spots) :=
  match input with
  | s :: rest =>
      if s.char = '0' then .error .badIndentation
      else if s.char.isDigit then .ok (s.char.toNat - 48, rest)
      else .ok (0, s :: rest)
  | [] => .ok (0, [])

/-- The indicators for chomping and indentation, in any order; zero is no indentation. -/
def blockHeader (input : Spots) : Except Fault (Chomp × Nat × Spots) :=
  match input with
  | [] => .ok (.clip, 0, [])
  | s :: rest =>
      match Chomp.of? s with
      | some chomp => do
          let (digit, rest) ← blockDigit rest
          .ok (chomp, digit, rest)
      | none => do
          let (digit, rest) ← blockDigit (s :: rest)
          match digit, rest with
          | 0, rest => .ok (.clip, 0, rest)
          | digit, t :: rest =>
              match Chomp.of? t with
              | some chomp => .ok (chomp, digit, rest)
              | none => .ok (.clip, digit, t :: rest)
          | digit, [] => .ok (.clip, digit, [])

/-- A block scalar after its indicator; `parent` is the column of the block around it. -/
def blockText (folded : Bool) (parent : Int) (input : Spots) :
    Except Fault (List Char × Spots) := do
  let (chomp, digit, rest) ← blockHeader input
  let rest := Spots.skipComment (Spots.skipSpaces rest)
  if !Spots.atBreak rest then .error .unexpectedToken
  let body := rest.drop 1
  let given : Nat := if digit = 0 then 0 else ((max parent 0) + digit).toNat
  let (empties, reach, after) ← blockGap given 0 body
  let indent := if given = 0 then max reach (max (parent + 1).toNat 1) else given
  let (text, lead, empties, after) ←
    blockLines folded indent after.length [] empties false after
  match chomp with
  | .strip => .ok (text, after)
  | .clip => .ok (text ++ lead, after)
  | .keep => .ok (text ++ lead ++ empties, after)

end BatchedGateway.Yaml
