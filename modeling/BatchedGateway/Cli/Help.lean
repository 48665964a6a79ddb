/- The texts that describe the command line. -/
import BatchedGateway.Cli.Arguments

namespace BatchedGateway.Cli

def versionText : String := "shardgate 0.1.0\n"

/-- An option with the name of its value. -/
def OptionSpec.heading (spec : OptionSpec) : String :=
  let upper := String.ofList (spec.long.toList.map fun c => if c = '-' then '_' else c.toUpper)
  let value := if spec.value.isSome then " <" ++ upper ++ ">" else ""
  let short := match spec.short with
    | some c => "-" ++ String.singleton c ++ ", "
    | none => "    "
  short ++ "--" ++ spec.long ++ value

/-- Lines of two columns. -/
def columns (rows : List (String × String)) : String :=
  let width := (rows.map (·.1.length)).foldl max 0
  String.join (rows.map fun (left, right) =>
    "  " ++ left ++ String.ofList (List.replicate (width - left.length + 2) ' ') ++ right ++ "\n")

def OptionSpec.describe (env : Environment) (spec : OptionSpec) : String :=
  match spec.shownVariable with
  | some name => "[env: " ++ name ++ "=" ++ (env name).getD "" ++ "]"
  | none => spec.about

def optionRows (env : Environment) (specs : List OptionSpec) : List (String × String) :=
  specs.map fun spec => (spec.heading, spec.describe env)

def helpRow : String × String := ("-h, --help", "Print help")

def versionRow : String × String := ("-V, --version", "Print version")

def commandRows : List (String × String) :=
  CommandName.all.map (fun c => (c.text, c.about)) ++
    [("help", "Print this message or the help of the given subcommand(s)")]

/-- The option that all commands have comes after the first one of the command itself. -/
def commandOptions (c : CommandName) : List OptionSpec :=
  match c.options with
  | first :: rest =>
      if first.long < logOption.long then first :: logOption :: rest
      else logOption :: first :: rest
  | [] => [logOption]

def helpText (env : Environment) : Option CommandName → String
  | none =>
      "Batched front doors for a single GraphQL backend\n\n" ++
        "Usage: shardgate [OPTIONS] <COMMAND>\n\nCommands:\n" ++ columns commandRows ++
        "\nOptions:\n" ++ columns (optionRows env [logOption] ++ [helpRow, versionRow])
  | some c =>
      c.about ++ "\n\nUsage: shardgate " ++ c.text ++ " [OPTIONS]\n\nOptions:\n" ++
        columns (optionRows env (commandOptions c) ++ [helpRow])

end BatchedGateway.Cli
