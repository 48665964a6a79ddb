/- JSON text of a value: compact, or indented by two spaces. -/
import BatchedGateway.Json.Value

namespace BatchedGateway.Json

def hexDigit (n : Nat) : Char := if n < 10 then Char.ofNat (48 + n) else Char.ofNat (87 + n)

/-- Quotes, backslashes and control characters are escaped, all else stands as it is. -/
def escape (c : Char) : List Char :=
  match c with
  | '"' => ['\\', '"']
  | '\\' => ['\\', '\\']
  | '\x08' => ['\\', 'b']
  | '\x0c' => ['\\', 'f']
  | '\n' => ['\\', 'n']
  | '\r' => ['\\', 'r']
  | '\t' => ['\\', 't']
  | c =>
      if c.toNat < 32 then ['\\', 'u', '0', '0', hexDigit (c.toNat / 16), hexDigit (c.toNat % 16)]
      else [c]

def quoted (s : String) : List Char := '"' :: s.toList.flatMap escape ++ ['"']

def numberChars : Number → List Char
  | .int n => if n < 0 then '-' :: Nat.toDigits 10 n.natAbs else Nat.toDigits 10 n.natAbs
  | .float x => x.text.toList

mutual
def compactChars : Json → List Char
  | .null => ['n', 'u', 'l', 'l']
  | .bool true => ['t', 'r', 'u', 'e']
  | .bool false => ['f', 'a', 'l', 's', 'e']
  | .num n => numberChars n
  | .str s => quoted s
  | .arr items => '[' :: compactItems items ++ [']']
  | .obj members => '\x7b' :: compactMembers members ++ ['\x7d']

def compactItems : List Json → List Char
  | [] => []
  | [v] => compactChars v
  | v :: w :: rest => compactChars v ++ ',' :: compactItems (w :: rest)

def compactMembers : List (String × Json) → List Char
  | [] => []
  | [(k, v)] => quoted k ++ ':' :: compactChars v
  | (k, v) :: m :: rest => quoted k ++ ':' :: compactChars v ++ ',' :: compactMembers (m :: rest)
end

def indent (depth : Nat) : List Char := '\n' :: List.replicate (2 * depth) ' '

mutual
/-- Each item and member on a line of its own; an empty array or object stays on its line. -/
def prettyChars (depth : Nat) : Json → List Char
  | .null => ['n', 'u', 'l', 'l']
  | .bool true => ['t', 'r', 'u', 'e']
  | .bool false => ['f', 'a', 'l', 's', 'e']
  | .num n => numberChars n
  | .str s => quoted s
  | .arr [] => ['[', ']']
  | .arr (v :: rest) => '[' :: prettyItems (depth + 1) (v :: rest) ++ indent depth ++ [']']
  | .obj [] => ['\x7b', '\x7d']
  | .obj (m :: rest) =>
      '\x7b' :: prettyMembers (depth + 1) (m :: rest) ++ indent depth ++ ['\x7d']

def prettyItems (depth : Nat) : List Json → List Char
  | [] => []
  | [v] => indent depth ++ prettyChars depth v
  | v :: w :: rest => indent depth ++ prettyChars depth v ++ ',' :: prettyItems depth (w :: rest)

def prettyMembers (depth : Nat) : List (String × Json) → List Char
  | [] => []
  | [(k, v)] => indent depth ++ quoted k ++ ':' :: ' ' :: prettyChars depth v
  | (k, v) :: m :: rest =>
      indent depth ++ quoted k ++ ':' :: ' ' :: prettyChars depth v ++
        ',' :: prettyMembers depth (m :: rest)
end

def compact (v : Json) : String := String.ofList (compactChars v)

def pretty (v : Json) : String := String.ofList (prettyChars 0 v)

end BatchedGateway.Json
