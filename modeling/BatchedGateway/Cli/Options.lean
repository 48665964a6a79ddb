/- Options of a command line, as they are written and as they are described. -/
import BatchedGateway.Router.Table
import BatchedGateway.Url.Socket

namespace BatchedGateway.Cli

/-- What the value of an option has to be. -/
inductive ValueKind
  | path
  | text
  | nat64
  | format
  | address
  deriving DecidableEq, Repr

structure OptionSpec where
  long : String
  short : Option Char := none
  /-- None for a flag. -/
  value : Option ValueKind := none
  about : String := ""
  /-- The variable that is read in its place, where what it holds may be shown. -/
  shownVariable : Option String := none
  deriving Repr

/-- Why a command line is not run. -/
inductive Stop
  | usage
  | help
  | version
  deriving DecidableEq, Repr

/-- Options by their long names, with the values they were given. -/
abbrev Given := List (String × String)

def nat64? (s : String) : Option Nat :=
  let ds := match s.toList with
    | '+' :: rest => rest
    | cs => cs
  SocketAddress.number? (UInt64.size - 1) ds

def ValueKind.accepts : ValueKind → String → Bool
  | path, s => s ≠ ""
  | text, _ => true
  | nat64, s => (nat64? s).isSome
  | format, s => s = "text" || s = "json"
  | address, s => (SocketAddress.parse? s).isSome

/-- A word that is neither an option nor the mark for the end of options. -/
def isValue (word : String) : Bool := word = "-" || word.toList.head? ≠ some '-'

def enter (spec : OptionSpec) (value : String) (given : Given) : Except Stop Given :=
  if (given.lookup spec.long).isSome then .error .usage
  else match spec.value with
    | none => .ok ((spec.long, "") :: given)
    | some kind =>
        if kind.accepts value then .ok ((spec.long, value) :: given) else .error .usage

/-- Flags by their letters. -/
def readShort (specs : List OptionSpec) (versioned : Bool) :
    List Char → Given → Except Stop Given
  | [], given => .ok given
  | c :: rest, given =>
      match specs.find? fun spec => spec.short == some c with
      | some spec => do readShort specs versioned rest (← enter spec "" given)
      | none =>
          if c = 'h' then .error .help
          else if c = 'V' ∧ versioned then .error .version
          else .error .usage

/-- Reads options up to the first word that is none; it and the words after it are left. -/
def readOptions (specs : List OptionSpec) (versioned : Bool) (given : Given)
    (words : List String) : Except Stop (Given × List String) :=
  match words with
  | [] => .ok (given, [])
  | word :: rest =>
      match word.toList with
      | ['-', '-'] => if rest = [] then .ok (given, []) else .error .usage
      | '-' :: '-' :: name =>
          let (name, inline) := Text.cutAt '=' name
          let name := String.ofList name
          match specs.find? (·.long == name), inline with
          | none, none =>
              if name = "help" then .error .help
              else if name = "version" ∧ versioned then .error .version
              else .error .usage
          | none, some _ => .error .usage
          | some spec, inline =>
              match spec.value, inline, rest with
              | none, none, rest => do
                  readOptions specs versioned (← enter spec "" given) rest
              | none, some _, _ => .error .usage
              | some _, some value, rest => do
                  readOptions specs versioned (← enter spec (String.ofList value) given) rest
              | some _, none, [] => .error .usage
              | some _, none, value :: rest => do
                  if isValue value then
                    readOptions specs versioned (← enter spec value given) rest
                  else .error .usage
      | '-' :: c :: cs => do
          readOptions specs versioned (← readShort specs versioned (c :: cs) given) rest
      | _ => .ok (given, word :: rest)
termination_by words.length

end BatchedGateway.Cli
