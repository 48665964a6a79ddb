/- The operation a request is for, and the URL it goes to. -/
import BatchedGateway.Text.Pieces
import BatchedGateway.Text.Encoding

namespace BatchedGateway

/-- Path and query of a request. -/
structure RequestTarget where
  path : String
  query : Option String
  deriving DecidableEq, Repr

namespace RequestTarget

/-- What follows scheme and authority in an absolute URL. -/
def afterAuthority? (cs : List Char) : Option (List Char) :=
  let rest := cs.dropWhile fun c => c ≠ ':' && c ≠ '/' && c ≠ '?' && c ≠ '#'
  match rest with
  | ':' :: '/' :: '/' :: rest => some (rest.dropWhile fun c => c ≠ '/' && c ≠ '?' && c ≠ '#')
  | _ => none

/-- A path with a query. A fragment does not count. -/
def ofPath (cs : List Char) : RequestTarget :=
  let (whole, _) := Text.cutAt '#' cs
  let (path, query) := Text.cutAt '?' whole
  ⟨if path = [] then "/" else String.ofList path, query.map String.ofList⟩

/-- Reads the target of a request line: a path, an asterisk, an absolute URL, or an authority
alone, which has no path. -/
def parse (text : String) : RequestTarget :=
  match text.toList with
  | '/' :: rest => ofPath ('/' :: rest)
  | ['*'] => ⟨"*", none⟩
  | cs => (afterAuthority? cs).elim ⟨"", none⟩ ofPath

end RequestTarget

/-- The first part of a path that is not empty, decoded if that gives text. -/
def routingKey (path : String) : Option String :=
  ((Text.pieces '/' path.toList).find? (!·.isEmpty)).map fun segment =>
    (Text.ofBytes? (Text.percentDecode segment)).getD (String.ofList segment)

def dropSlashes (url : String) : List Char :=
  (url.toList.reverse.dropWhile (· = '/')).reverse

/-- The base URL without its slashes at the end, then path and query. -/
def targetUrl (base path : String) (query : Option String) : String :=
  let slash := if path.toList.head? = some '/' then [] else ['/']
  let tail := match query with
    | none => []
    | some q => if q = "" then [] else '?' :: q.toList
  String.ofList (dropSlashes base ++ slash ++ path.toList ++ tail)

end BatchedGateway
