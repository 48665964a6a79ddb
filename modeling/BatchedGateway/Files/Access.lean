/- What a build asks of a file system, and the paths it asks for, which are text with slashes
between their parts. -/

namespace BatchedGateway

inductive IoError
  | notFound
  | notADirectory
  | isADirectory
  | notUtf8
  | other (what : String)
  deriving DecidableEq, Repr

def IoError.message : IoError → String
  | notFound => "No such file or directory (os error 2)"
  | notADirectory => "Not a directory (os error 20)"
  | isADirectory => "Is a directory (os error 21)"
  | notUtf8 => "stream did not contain valid UTF-8"
  | other what => what

/-- Files by their paths. -/
structure Access (m : Type → Type) where
  read : String → m (Except IoError String)
  isDirectory : String → m Bool
  write : String → String → m (Except IoError Unit)

namespace Files

def isAbsolute (path : String) : Bool := path.toList.head? == some '/'

/-- A path inside of a directory; an absolute path stays as it is. -/
def join (directory path : String) : String :=
  if isAbsolute path then path
  else match directory.toList.getLast? with
    | none => path
    | some '/' => directory ++ path
    | some _ => directory ++ "/" ++ path

/-- Drops slashes and single points at the end of a path that is written backwards. -/
def dropIdle : List Char → List Char
  | '/' :: rest => dropIdle rest
  | '.' :: '/' :: rest => dropIdle rest
  | path => path

/-- The directory that the last part of a path is in; empty if the path has one part. -/
def parent (path : String) : String :=
  match path.toList.reverse.dropWhile (· ≠ '/') with
  | [] => ""
  | front =>
      match dropIdle front with
      | [] => if isAbsolute path then "/" else ""
      | kept => String.ofList kept.reverse

end Files

end BatchedGateway
