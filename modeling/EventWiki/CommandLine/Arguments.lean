import EventWiki.Settings.Basic

namespace EventWiki.CommandLine

inductive OptionKind where
  /-- No value, and given at most once. -/
  | flag
  /-- No value, and counted. -/
  | count
  | text
  | path
  | choice (values : List String)
  deriving DecidableEq, Repr

structure OptionSpec where
  name : String
  letter : Option Char
  kind : OptionKind
  deriving DecidableEq, Repr

inductive UsageError where
  | unknownOption (argument : String)
  | missingValue (option : String)
  | unexpectedValue (option : String)
  | badValue (option value : String)
  | repeated (option : String)
  | unknownCommand (name : String)
  | unexpectedOperand (operand : String)
  | missingCommand
  | missingFiles
  | missingScript
  | scriptAndFile
  deriving DecidableEq, Repr

namespace UsageError

def message : UsageError → String
  | unknownOption argument => s!"unexpected argument '{argument}' found"
  | missingValue option => s!"a value is required for '--{option}' but none was supplied"
  | unexpectedValue option => s!"unexpected value for '--{option}' found; no more were expected"
  | badValue option value => s!"invalid value '{value}' for '--{option}'"
  | repeated option => s!"the argument '--{option}' cannot be used multiple times"
  | unknownCommand name => s!"unrecognized subcommand '{name}'"
  | unexpectedOperand operand => s!"unexpected argument '{operand}' found"
  | missingCommand => "a subcommand is required but one was not provided"
  | missingFiles => "the following required arguments were not provided: FILES"
  | missingScript => "the following required arguments were not provided: --script"
  | scriptAndFile => "the argument '--script' cannot be used with '--file'"

end UsageError

inductive Stop where
  | refused (error : UsageError)
  | version
  | help
  deriving DecidableEq, Repr

structure Given where
  options : List (String × String)
  operands : List String
  deriving DecidableEq, Repr

namespace Given

def nothing : Given :=
  ⟨[], []⟩

def has (given : Given) (name : String) : Bool :=
  given.options.any (·.1 == name)

def value? (given : Given) (name : String) : Option String :=
  given.options.lookup name

def count (given : Given) (name : String) : Nat :=
  (given.options.filter (·.1 == name)).length

/-- Adds an option. Only a counted one may be given again. -/
def add (given : Given) (spec : OptionSpec) (value : String) : Except Stop Given :=
  let next := { given with options := given.options ++ [(spec.name, value)] }
  match spec.kind with
  | .count => .ok next
  | _ => if given.has spec.name then .error (.refused (.repeated spec.name)) else .ok next

def addOperand (given : Given) (operand : String) : Except Stop Given :=
  if operand.isEmpty then .error (.refused (.badValue "files" operand))
  else .ok { given with operands := given.operands ++ [operand] }

end Given

def OptionKind.accepts : OptionKind → String → Bool
  | .choice values, value => values.contains value
  | .path, value => !value.isEmpty
  | _, _ => true

def OptionKind.takesValue : OptionKind → Bool
  | .flag | .count => false
  | _ => true

def addValue (given : Given) (spec : OptionSpec) (value : String) : Except Stop Given :=
  if spec.kind.accepts value then given.add spec value
  else .error (.refused (.badValue spec.name value))

/-- An option without a value that ends the run is not recorded. -/
def addFlag (given : Given) (spec : OptionSpec) : Except Stop Given :=
  if spec.name = "version" then .error .version
  else if spec.name = "help" then .error .help
  else given.add spec ""

/-- Options are written with dashes, and a single dash is an operand. -/
def isOption (argument : String) : Bool :=
  match argument.toList with
  | '-' :: _ :: _ => true
  | _ => false

def addLetters (specs : List OptionSpec) (argument : String) (given : Given) :
    List Char → Except Stop Given
  | [] => .ok given
  | letter :: rest =>
      match specs.find? (·.letter == some letter) with
      | none => .error (.refused (.unknownOption argument))
      | some spec =>
          match addFlag given spec with
          | .error stop => .error stop
          | .ok given =>
              if rest.head? = some '=' then .error (.refused (.unexpectedValue spec.name))
              else addLetters specs argument given rest

inductive Reading where
  | escape
  | operand
  | done (given : Given)
  /-- The value of the option is the next argument. -/
  | awaits (spec : OptionSpec)
  deriving DecidableEq, Repr

def readOne (specs : List OptionSpec) (given : Given) (argument : String) :
    Except Stop Reading :=
  match argument.toList with
  | ['-', '-'] => .ok .escape
  | '-' :: '-' :: body =>
      let name := String.ofList (body.takeWhile (· != '='))
      match specs.find? (·.name == name), body.dropWhile (· != '=') with
      | none, _ => .error (.refused (.unknownOption argument))
      | some spec, _ :: value =>
          if spec.kind.takesValue then (addValue given spec (String.ofList value)).map .done
          else .error (.refused (.unexpectedValue name))
      | some spec, [] =>
          if spec.kind.takesValue then .ok (.awaits spec) else (addFlag given spec).map .done
  | '-' :: letter :: letters =>
      (addLetters specs argument given (letter :: letters)).map .done
  | _ => .ok .operand

def readGlobal (specs : List OptionSpec) (given : Given) :
    List String → Except Stop (Given × Option (String × List String))
  | [] => .ok (given, none)
  | argument :: rest =>
      match readOne specs given argument with
      | .error stop => .error stop
      | .ok .escape =>
          match rest with
          | [] => .ok (given, none)
          | operand :: _ => .error (.refused (.unexpectedOperand operand))
      | .ok .operand => .ok (given, some (argument, rest))
      | .ok (.done given) => readGlobal specs given rest
      | .ok (.awaits spec) =>
          match rest with
          | [] => .error (.refused (.missingValue spec.name))
          | value :: rest =>
              if isOption value then .error (.refused (.missingValue spec.name))
              else
                match addValue given spec value with
                | .error stop => .error stop
                | .ok given => readGlobal specs given rest

def readCommand (specs : List OptionSpec) (takesOperands : Bool) (given : Given) :
    List String → Except Stop Given
  | [] => .ok given
  | argument :: rest =>
      match readOne specs given argument with
      | .error stop => .error stop
      | .ok .escape =>
          match rest with
          | [] => .ok given
          | operand :: _ =>
              if takesOperands then rest.foldlM Given.addOperand given
              else .error (.refused (.unexpectedOperand operand))
      | .ok .operand =>
          if takesOperands then
            match given.addOperand argument with
            | .error stop => .error stop
            | .ok given => readCommand specs takesOperands given rest
          else .error (.refused (.unexpectedOperand argument))
      | .ok (.done given) => readCommand specs takesOperands given rest
      | .ok (.awaits spec) =>
          match rest with
          | [] => .error (.refused (.missingValue spec.name))
          | value :: rest =>
              if isOption value then .error (.refused (.missingValue spec.name))
              else
                match addValue given spec value with
                | .error stop => .error stop
                | .ok given => readCommand specs takesOperands given rest

end EventWiki.CommandLine
