/- The program: its files, its variables and what it prints. -/
import BatchedGateway.Cli.Commands
import BatchedGateway.Proofs.Archive.Gzip

namespace BatchedGateway.Cli

def ioErrorOf : IO.Error → IoError
  | .noFileOrDirectory _ _ _ => .notFound
  | .inappropriateType _ 21 _ => .isADirectory
  | .inappropriateType _ _ _ => .notADirectory
  | .permissionDenied _ _ _ => .other "Permission denied (os error 13)"
  | e => .other (toString e)

def attempt {α : Type} (act : IO α) : IO (Except IoError α) := do
  try return .ok (← act)
  catch e => return .error (ioErrorOf e)

def readText (path : String) : IO (Except IoError String) := do
  match (← attempt (IO.FS.readBinFile path)) with
  | .ok bytes => return (Text.ofBytes? bytes.toList).elim (.error .notUtf8) .ok
  | .error e => return .error e

/-- A directory is what cannot be read because it is one. -/
def isDirectory (path : String) : IO Bool := do
  match (← attempt (IO.FS.readBinFile path)) with
  | .error .isADirectory => return true
  | _ => return false

/-- Without a listener: serving never starts. -/
def host (env : Environment) : Host IO where
  read := readText
  isDirectory := isDirectory
  write := fun path content => attempt (IO.FS.writeFile path content)
  env := env
  compressor := .fixedCode
  serve := fun _ _ => return .error (.other "Operation not supported (os error 95)")

end BatchedGateway.Cli

open BatchedGateway in
def main (args : List String) : IO UInt32 := do
  let names := [Cli.maxResourcesVariable, operationsVariable, endpointsVariable]
  let values ← names.mapM fun name => return (name, ← IO.getEnv name)
  let outcome ← Cli.run (Cli.host fun name => (values.lookup name).join) args
  (← IO.getStdout).putStr outcome.out
  (← IO.getStderr).putStr outcome.err
  return outcome.exit.toUInt32
