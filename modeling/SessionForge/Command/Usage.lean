/-
How the program is used, in words.
-/

namespace SessionForge.Usage

/-- What the program and its commands do. -/
def summary : Option String → String
  | none => "Code Generation Orchestrator"
  | some "catalog" => "List the template catalog"
  | some "select" => "Select a template for a project request"
  | some "clone" => "Clone a session state into a fresh agent"
  | some _ => "Print this message or the help of the given subcommand(s)"

/-- How a command is called. -/
def synopsis : Option String → String
  | none => "cgo [OPTIONS] <COMMAND>"
  | some "catalog" => "cgo catalog [OPTIONS] --dir <dir>"
  | some "select" => "cgo select [OPTIONS] --dir <dir> --query <query>"
  | some "clone" => "cgo clone [OPTIONS] --state <state>"
  | some other => "cgo " ++ other ++ " [COMMAND]..."

/-- The lines on the options of a command. -/
def optionLines : Option String → List String
  | some "catalog" => ["      --dir <dir>        Directory holding the catalog blob"]
  | some "select" =>
    ["      --dir <dir>        Directory holding the catalog blob",
      "      --query <query>    Free-text project request",
      "      --user <user>      Requesting user, forwarded to the matcher"]
  | some "clone" => ["      --state <state>    JSON file with the source agent's state"]
  | some _ | none => []

/-- The lines on the commands. -/
def commandLines : List String :=
  ["catalog", "select", "clone", "help"].map fun name =>
    "  " ++ name ++ String.ofList (List.replicate (9 - name.length) ' ') ++ summary (some name)

/-- How the program, or one of its commands, is used. -/
def text (command : Option String) : String :=
  let commands := if command.isNone then ["Commands:"] ++ commandLines ++ [""] else []
  let version := if command.isNone then ["  -V, --version          Print version"] else []
  let lines :=
    [summary command, "", "Usage: " ++ synopsis command, ""] ++ commands
      ++ ["Options:", "      --config <config>  Path to a TOML configuration file"]
      ++ optionLines command ++ ["  -h, --help             Print help"] ++ version
  String.join (lines.map (· ++ "\n"))

end SessionForge.Usage
