/-
The arguments of the command line. Options are written `--name value` or `--name=value`, each at
most once; an option whose value begins with a hyphen needs the second form. The configuration may
be named before or after the command, and the later place counts.
-/

namespace SessionForge

/-- What is to be done. -/
inductive Command where
  | catalog (folder : String)
  | select (folder query : String) (user : Option String)
  | clone (state : String)
  deriving DecidableEq

/-- A command and the file of its configuration, if one is named. -/
structure Invocation where
  config : Option String
  command : Command
  deriving DecidableEq

/-- What the arguments ask for. -/
inductive Request where
  | run (invocation : Invocation)
  | version
  | help (command : Option String)
  | misuse
  deriving DecidableEq

namespace Arguments

/-- What an option holds; a path is never empty. -/
inductive OptionKind where
  | path
  | text
  deriving DecidableEq

/-- Whether an option may have a value. -/
def OptionKind.accepts (kind : OptionKind) (value : String) : Bool :=
  match kind with
  | .path => !value.isEmpty
  | .text => true

/-- What may be written at one place: options, commands, and the question for the version. -/
structure Level where
  options : List (String × OptionKind)
  commands : List String
  hasVersion : Bool

/-- The values of options by their names. -/
abbrev Given := List (String × String)

/-- How the arguments of a level end. -/
inductive LevelEnd where
  | finished (given : Given)
  | command (name : String) (given : Given) (rest : List String)
  | version
  | help
  | misuse

/-- Whether an argument looks like an option. -/
def looksLikeOption (argument : String) : Bool :=
  argument.toList.head? = some '-' && argument != "-"

/-- The name of a long option and the value attached to it. -/
def long? (argument : String) : Option (String × Option String) :=
  match argument.toList with
  | '-' :: '-' :: rest =>
    let name := String.ofList (rest.takeWhile (· != '='))
    match rest.dropWhile (· != '=') with
    | [] => some (name, none)
    | _ :: value => some (name, some (String.ofList value))
  | _ => none

/-- Reads the arguments of a level. Two hyphens end the options, and nothing may follow them. An
option without an attached value is `pending` until its value comes. -/
def readLevel (level : Level) :
    (pending : Option (String × OptionKind)) → Given → List String → LevelEnd
  | none, given, [] => .finished given
  | some _, _, [] => .misuse
  | some (name, kind), given, argument :: rest =>
    if looksLikeOption argument then .misuse
    else if kind.accepts argument then readLevel level none ((name, argument) :: given) rest
    else .misuse
  | none, given, argument :: rest =>
    if level.commands.contains argument then .command argument given rest
    else if argument = "--" then if rest.isEmpty then .finished given else .misuse
    else
      match long? argument with
      | some (name, attached) =>
        if name = "help" then if attached.isNone then .help else .misuse
        else if name = "version" && level.hasVersion then
          if attached.isNone then .version else .misuse
        else
          match level.options.lookup name with
          | none => .misuse
          | some kind =>
            if (given.lookup name).isSome then .misuse
            else
              match attached with
              | none => readLevel level (some (name, kind)) given rest
              | some value =>
                if kind.accepts value then readLevel level none ((name, value) :: given) rest
                else .misuse
      | none =>
        match argument.toList with
        | '-' :: 'h' :: _ => .help
        | '-' :: 'V' :: _ => if level.hasVersion then .version else .misuse
        | _ => .misuse

/-- What may be written before the command. -/
def topLevel : Level where
  options := [("config", .path)]
  commands := ["catalog", "select", "clone", "help"]
  hasVersion := true

/-- The options of a command. -/
def optionsOf : String → List (String × OptionKind)
  | "catalog" => [("dir", .path)]
  | "select" => [("dir", .path), ("query", .text), ("user", .text)]
  | "clone" => [("state", .path)]
  | _ => []

/-- What may be written after a command. -/
def levelOf (name : String) : Level where
  options := ("config", .path) :: optionsOf name
  commands := []
  hasVersion := false

/-- The command of a name, if all options that it needs are there. -/
def command? (name : String) (given : Given) : Option Command :=
  match name with
  | "catalog" => (given.lookup "dir").map .catalog
  | "select" => do
    return .select (← given.lookup "dir") (← given.lookup "query") (given.lookup "user")
  | "clone" => (given.lookup "state").map .clone
  | _ => none

/-- What is asked for by the command for help. -/
def helpOn : List String → Request
  | [] => .help none
  | [name] => if topLevel.commands.contains name then .help name else .misuse
  | _ => .misuse

/-- What the arguments ask for. -/
def read (arguments : List String) : Request :=
  match readLevel topLevel none [] arguments with
  | .finished _ => .misuse
  | .version => .version
  | .help => .help none
  | .misuse => .misuse
  | .command "help" _ rest => helpOn rest
  | .command name before rest =>
    match readLevel (levelOf name) none [] rest with
    | .finished given =>
      match command? name given with
      | some command =>
        .run ⟨(given.lookup "config").or (before.lookup "config"), command⟩
      | none => .misuse
    | .help => .help name
    | .version | .misuse | .command _ _ _ => .misuse

end Arguments

end SessionForge
