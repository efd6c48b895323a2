import EventWiki.CommandLine.Arguments

namespace EventWiki.CommandLine

inductive ColorChoice where
  | auto
  | always
  | never
  deriving DecidableEq, Repr

namespace ColorChoice

def all : List ColorChoice :=
  [auto, always, never]

def name : ColorChoice → String
  | auto => "auto"
  | always => "always"
  | never => "never"

def ofName? (name : String) : Option ColorChoice :=
  all.find? (·.name == name)

end ColorChoice

structure SourceOptions where
  config : Option String
  settings : Settings
  deriving DecidableEq, Repr

inductive ScriptSource where
  | text (script : String)
  | file (path : String)
  deriving DecidableEq, Repr

inductive Command where
  | render (source : SourceOptions)
  | check (files : List String) (json : Bool)
  | coverage (source : SourceOptions) (strict json : Bool)
  | eval (source : SourceOptions) (script : ScriptSource) (json : Bool)
  deriving DecidableEq, Repr

abbrev Environment := List (String × String)

structure Invocation where
  color : ColorChoice
  verbosity : Nat
  command : Command
  deriving DecidableEq, Repr

/-- Gives the path of the game where no option does. -/
def gamePathVariable : String := "SCRIPTDOC_GAME_PATH"

def globalSpecs : List OptionSpec := [
  ⟨"color", none, .choice (ColorChoice.all.map ColorChoice.name)⟩,
  ⟨"verbose", some 'v', .count⟩,
  ⟨"help", some 'h', .flag⟩]

def versionSpec : OptionSpec :=
  ⟨"version", some 'V', .flag⟩

def sourceSpecs : List OptionSpec := [
  ⟨"config", none, .path⟩,
  ⟨"game-path", none, .path⟩,
  ⟨"game", none, .text⟩,
  ⟨"rules", none, .path⟩]

def jsonSpec : OptionSpec :=
  ⟨"json", none, .flag⟩

def commandSpecs? : String → Option (List OptionSpec)
  | "render" => some (sourceSpecs ++ [⟨"output", none, .path⟩])
  | "check" => some [jsonSpec]
  | "coverage" => some (sourceSpecs ++ [⟨"strict", none, .flag⟩, jsonSpec])
  | "eval" =>
      some (sourceSpecs ++ [⟨"script", none, .text⟩, ⟨"file", none, .path⟩, jsonSpec])
  | _ => none

def sourceOptions (environment : Environment) (given : Given) : Except Stop SourceOptions :=
  let fromEnvironment :=
    if given.has "game-path" then none else environment.lookup gamePathVariable
  if fromEnvironment = some "" then .error (.refused (.badValue "game-path" ""))
  else .ok ⟨given.value? "config",
    { gamePath := given.value? "game-path" <|> fromEnvironment
      game := given.value? "game"
      rules := given.value? "rules"
      output := given.value? "output" }⟩

/-- The files to check are operands, and no other command takes any. -/
def takesOperands (command : String) : Bool :=
  command == "check"

def commandOf (environment : Environment) (name : String) (given : Given) :
    Except Stop Command :=
  match name with
  | "check" =>
      if given.operands.isEmpty then .error (.refused .missingFiles)
      else .ok (.check given.operands (given.has "json"))
  | "render" => (sourceOptions environment given).map .render
  | "coverage" =>
      (sourceOptions environment given).map fun source =>
        .coverage source (given.has "strict") (given.has "json")
  | "eval" => do
      let source ← sourceOptions environment given
      match given.value? "script", given.value? "file" with
      | some _, some _ => .error (.refused .scriptAndFile)
      | some script, none => .ok (.eval source (.text script) (given.has "json"))
      | none, some path => .ok (.eval source (.file path) (given.has "json"))
      | none, none => .error (.refused .missingScript)
  | _ => .error (.refused (.unknownCommand name))

/-- Help is given on the program, or on the command that is named. -/
def helpOn : List String → Stop
  | [] => .help
  | name :: rest =>
      if !(name == "help" || (commandSpecs? name).isSome) then .refused (.unknownCommand name)
      else rest.head?.elim .help fun next => .refused (.unknownCommand next)

/-- A global option behind the command counts before the same one in front of it. -/
def colorOf (before behind : Given) : ColorChoice :=
  ((behind.value? "color" <|> before.value? "color").bind ColorChoice.ofName?).getD .auto

def verbosityOf (before behind : Given) : Nat :=
  if behind.has "verbose" then behind.count "verbose" else before.count "verbose"

def Invocation.read (environment : Environment) (arguments : List String) :
    Except Stop Invocation := do
  let (before, command) ← readGlobal (globalSpecs ++ [versionSpec]) .nothing arguments
  match command with
  | none => .error (.refused .missingCommand)
  | some (name, rest) =>
      if name = "help" then .error (helpOn rest)
      else
        match commandSpecs? name with
        | none => .error (.refused (.unknownCommand name))
        | some specs =>
            let behind ← readCommand (globalSpecs ++ specs) (takesOperands name) .nothing rest
            return ⟨colorOf before behind, verbosityOf before behind,
              ← commandOf environment name behind⟩

end EventWiki.CommandLine
