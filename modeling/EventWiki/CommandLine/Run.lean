import EventWiki.CommandLine.Commands

namespace EventWiki.CommandLine

def programVersion : String := "scriptdoc 0.1.0"

def usage : String :=
  "Usage: scriptdoc [OPTIONS] <COMMAND>\n\nCommands: render, check, coverage, eval\n"

/-- The program, with a layout for what is wrong with a script. -/
def runWith (layout : String → Script.Report → String) (environment : Environment)
    (arguments : List String) (disk : Disk) : Outcome :=
  match Invocation.read environment arguments with
  | .error .version => ⟨ExitCode.success, programVersion ++ "\n", "", disk⟩
  | .error .help => ⟨ExitCode.success, usage, "", disk⟩
  | .error (.refused error) =>
      ⟨ExitCode.usage, "", "error: " ++ error.message ++ "\n\n" ++ usage, disk⟩
  | .ok invocation =>
      let console : Console :=
        ⟨.choose environment invocation.color, .choose environment invocation.verbosity, layout⟩
      match invocation.command with
      | .render source => render console disk source
      | .check files json => check console disk files json
      | .coverage source strict json => coverage console disk source strict json
      | .eval source script json => eval console disk source script json

/-- The report library that lays out what is wrong with a script for a terminal is not part of this
project. Here a script is shown by its path and the message. -/
def run : Environment → List String → Disk → Outcome :=
  runWith fun path report => path ++ ": " ++ report.message ++ "\n"

end EventWiki.CommandLine
