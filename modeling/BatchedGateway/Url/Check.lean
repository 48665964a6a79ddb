/- Which texts are URLs that a path can be added to. -/
import BatchedGateway.Domain.Labels
import BatchedGateway.Url.Address

namespace BatchedGateway.Url

inductive Fault
  | relative
  | emptyHost
  | badPort
  | badDomain
  | badIpv4
  | badIpv6
  | badCharacter
  | notABase
  deriving DecidableEq, Repr

def Fault.message : Fault → String
  | relative => "relative URL without a base"
  | emptyHost => "empty host"
  | badPort => "invalid port number"
  | badDomain => "invalid international domain name"
  | badIpv4 => "invalid IPv4 address"
  | badIpv6 => "invalid IPv6 address"
  | badCharacter => "invalid domain character"
  | notABase => "not a base URL"

/-- Special schemes need a host, file URLs may have one. -/
inductive Scheme
  | special
  | file
  | other
  deriving DecidableEq, Repr

namespace Scheme

def of (name : List Char) : Scheme :=
  let name := String.ofList (name.map Char.toLower)
  if name = "file" then file
  else if ["http", "https", "ws", "wss", "ftp"].contains name then special
  else other

/-- A backslash counts as a slash. -/
def isSlash (s : Scheme) (c : Char) : Bool := c = '/' || (c = '\\' && s ≠ other)

/-- Where the part with the host ends. -/
def endsAuthority (s : Scheme) (c : Char) : Bool := s.isSlash c || c = '?' || c = '#'

end Scheme

def isControl (c : Char) : Bool := c.toNat ≤ 32

/-- Blanks at both ends, tabs and line breaks do not count. -/
def clean (text : String) : List Char :=
  ((text.toList.dropWhile isControl).reverse.dropWhile isControl).reverse.filter
    fun c => c ≠ '\t' && c ≠ '\n' && c ≠ '\r'

def isSchemeChar (c : Char) : Bool := c.isAlphanum || c = '+' || c = '-' || c = '.'

/-- The scheme, and what comes after its colon. -/
def splitScheme? (cs : List Char) : Option (List Char × List Char) :=
  match cs.takeWhile isSchemeChar, cs.dropWhile isSchemeChar with
  | c :: name, ':' :: rest => if c.isAlpha then some (c :: name, rest) else none
  | _, _ => none

def checkIpv6 (host : List Char) : Except Fault Unit :=
  match host.reverse with
  | ']' :: _ :: _ => if isIpv6 (host.drop 1).dropLast then .ok () else .error .badIpv6
  | _ => .error .badIpv6

/-- A host that is a domain name or an address. -/
def checkDomain (host : List Char) : Except Fault Unit :=
  if host.head? = some '[' then checkIpv6 host
  else
    let labels := (Text.ofBytes? (Text.percentDecode host)).bind fun name =>
      Domain.labels? name.toList
    match labels with
    | none => .error .badDomain
    | some [[]] => .error .emptyHost
    | some labels =>
        if !endsInNumber labels || isIpv4 labels then .ok () else .error .badIpv4

/-- A host of a scheme that gives it no meaning. -/
def checkOpaqueHost (host : List Char) : Except Fault Unit :=
  if host.head? = some '[' then checkIpv6 host
  else if host.any fun c => ['\x00', ' ', '#', '/', ':', '<', '>', '?', '@', '[', '\\', ']', '^',
      '|'].contains c then .error .badCharacter
  else .ok ()

/-- The part before a path, a query or a fragment. -/
def authority (s : Scheme) (cs : List Char) : List Char := cs.takeWhile (!s.endsAuthority ·)

/-- The part after the last at sign, with the part before it. -/
def splitUser (cs : List Char) : Option (List Char) × List Char :=
  if cs.contains '@' then
    (some ((cs.reverse.dropWhile (· ≠ '@')).drop 1).reverse,
      (cs.reverse.takeWhile (· ≠ '@')).reverse)
  else (none, cs)

/-- The host ends at a colon outside of brackets. -/
def splitPort : (inside : Bool) → List Char → List Char × Option (List Char)
  | _, [] => ([], none)
  | inside, c :: rest =>
      if c = ':' && !inside then ([], some rest)
      else
        let inside := if c = '[' then true else if c = ']' then false else inside
        let (host, port) := splitPort inside rest
        (c :: host, port)

/-- Digits up to 65535. A backslash ends the port in any scheme. -/
def checkPort (port : List Char) : Except Fault Unit :=
  let ds := port.takeWhile Char.isDigit
  let tooLarge := 65535 < Nat.ofDigitChars 10 ds 0
  match port.drop ds.length with
  | [] => if tooLarge then .error .badPort else .ok ()
  | c :: _ => if tooLarge || c ≠ '\\' then .error .badPort else .ok ()

/-- Checks user, host and port; `rest` is all that follows the two slashes. -/
def checkAuthority (s : Scheme) (rest : List Char) : Except Fault Unit := do
  let whole := authority s rest
  let (user, hostPort) := splitUser whole
  if user = some [] ∧ hostPort = [] ∧ whole.length < rest.length then .error .emptyHost
  let (host, port) := splitPort false hostPort
  if s = .special ∧ host = [] then .error .emptyHost
  if s = .special then checkDomain host else checkOpaqueHost host
  if host = [] ∧ port.isSome then .error .emptyHost
  port.forM checkPort
  if host = [] ∧ user.any (fun name => name ≠ [] && name ≠ [':']) then .error .emptyHost

def isDriveLetter (host : List Char) : Bool :=
  match host with
  | [c, d] => c.isAlpha && (d = ':' || d = '|')
  | _ => false

def checkFile (rest : List Char) : Except Fault Unit :=
  match rest with
  | a :: b :: rest =>
      if Scheme.file.isSlash a && Scheme.file.isSlash b then
        let host := authority .file rest
        if host = [] || isDriveLetter host then .ok () else checkDomain host
      else .ok ()
  | _ => .ok ()

/-- Whether the text is a URL with a path. -/
def check (text : String) : Except Fault Unit := do
  match splitScheme? (clean text) with
  | none => .error .relative
  | some (name, rest) =>
      match Scheme.of name with
      | .file => checkFile rest
      | .special => checkAuthority .special (rest.dropWhile Scheme.special.isSlash)
      | .other =>
          match rest with
          | '/' :: '/' :: rest => checkAuthority .other rest
          | '/' :: _ => .ok ()
          | _ => .error .notABase

end BatchedGateway.Url
