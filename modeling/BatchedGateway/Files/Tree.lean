/- A tree of files held in memory. -/
import BatchedGateway.Files.Access
import BatchedGateway.Text.Encoding
import BatchedGateway.Text.Pieces

namespace BatchedGateway.Files

inductive Entry
  | file (content : List UInt8)
  | directory (entries : List (String × Entry))
  deriving Repr, Inhabited

/-- The entries of the working directory. -/
abbrev Tree := List (String × Entry)

namespace Entry

/-- Puts a new entry at the end, or in the place of the one with its name. -/
def put (name : String) (e : Entry) : List (String × Entry) → List (String × Entry)
  | [] => [(name, e)]
  | (n, old) :: rest => if n = name then (n, e) :: rest else (n, old) :: put name e rest

end Entry

/-- A place in the tree, with the way back to the working directory, innermost first; or one
outside of it, of which nothing is known but that it is a directory. -/
inductive Place
  | inside (way : List (String × Tree)) (here : Entry)
  | outside

namespace Tree

def partsOf (path : String) : List String := (Text.pieces '/' path.toList).map String.ofList

/-- One step on a path. An empty part is a slash too many. -/
def step (part : String) : Place → Except IoError Place
  | .outside => if ["", ".", ".."].contains part then .ok .outside else .error .notFound
  | .inside _ (.file _) => .error .notADirectory
  | .inside way (.directory entries) =>
      if part = "" ∨ part = "." then .ok (.inside way (.directory entries))
      else if part = ".." then
        match way with
        | [] => .ok .outside
        | (_, outer) :: way => .ok (.inside way (.directory outer))
      else if 255 < part.utf8ByteSize then .error (.other "File name too long (os error 36)")
      else match entries.lookup part with
        | some e => .ok (.inside ((part, entries) :: way) e)
        | none => .error .notFound

def start (t : Tree) (path : String) : Place :=
  if path.toList.head? == some '/' then .outside else .inside [] (.directory t)

def find (t : Tree) (path : String) : Except IoError Place :=
  if path = "" then .error .notFound
  else if path.toList.contains '\x00' then
    .error (.other "file name contained an unexpected NUL byte")
  else (partsOf path).foldlM (fun place part => step part place) (start t path)

def read (t : Tree) (path : String) : Except IoError String := do
  match (← t.find path) with
  | .inside _ (.file content) => (Text.ofBytes? content).elim (.error .notUtf8) .ok
  | _ => .error .isADirectory

def isDirectory (t : Tree) (path : String) : Bool :=
  match t.find path with
  | .ok (.inside _ (.directory _)) => true
  | .ok .outside => true
  | _ => false

/-- The tree after the directory at the end of a way has changed. -/
def rebuild : (way : List (String × Tree)) → Tree → Tree
  | [], entries => entries
  | (name, outer) :: way, entries => rebuild way (Entry.put name (.directory entries) outer)

/-- Writes a file in a directory that exists. -/
def write (t : Tree) (path content : String) : Except IoError Tree := do
  let parts := partsOf path
  match parts.getLast? with
  | none => .error .notFound
  | some name =>
      if path = "" then .error .notFound
      if path.toList.contains '\x00' then
        .error (.other "file name contained an unexpected NUL byte")
      let front ← parts.dropLast.foldlM (fun place part => step part place) (start t path)
      match step name front, front with
      | .ok (.inside ((last, entries) :: way) (.file _)), _ =>
          .ok (rebuild way (Entry.put last (.file (Text.toBytes content)) entries))
      | .ok _, _ => .error .isADirectory
      | .error .notFound, .inside way (.directory entries) =>
          .ok (rebuild way (Entry.put name (.file (Text.toBytes content)) entries))
      | .error e, _ => .error e

/-- Adds an entry, and the directories above it. -/
def add (t : Tree) (e : Entry) : (parts : List String) → Tree
  | [] => t
  | [name] =>
      match e, t.lookup name with
      | .directory [], some (.directory entries) => Entry.put name (.directory entries) t
      | _, _ => Entry.put name e t
  | name :: rest =>
      let inner := match t.lookup name with
        | some (.directory entries) => entries
        | _ => []
      Entry.put name (.directory (add inner e rest)) t

/-- Access to a tree that writing changes. -/
def access : Access (StateM Tree) where
  read path := do return (← get).read path
  isDirectory path := do return (← get).isDirectory path
  write path content := do
    match (← get).write path content with
    | .ok t =>
        set t
        return .ok ()
    | .error e => return .error e

end Tree

end BatchedGateway.Files
