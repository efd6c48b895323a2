import EventWiki.CommandLine.Invocation
import EventWiki.Decimal.Whole
import EventWiki.Text.Search

namespace EventWiki.CommandLine

/-! If no option decides, the environment does: it may force colours, it may refuse them, and
otherwise it says what the terminal can show. -/

structure Palette where
  isColored : Bool
  deriving DecidableEq, Repr

namespace Environment

def has (environment : Environment) (name : String) : Bool :=
  (environment.lookup name).isSome

def holds (environment : Environment) (name value : String) : Bool :=
  environment.lookup name == some value

/-- Some variables speak for something by any value but a zero. -/
def affirms (environment : Environment) (name : String) : Bool :=
  (environment.lookup name).any (· != "0")

end Environment

namespace Terminal

def forceVariable : String := "FORCE_COLOR"

def forcesColor (environment : Environment) : Bool :=
  match environment.lookup forceVariable with
  | some value => value != "false" && Decimal.word? value.toList != some 0
  | none => environment.affirms "CLICOLOR_FORCE"

def presenceVariable : String := "IGNORE_IS_TERMINAL"

def refusesColor (environment : Environment) : Bool :=
  environment.affirms "NO_COLOR" || environment.holds "TERM" "dumb"
    || !environment.affirms presenceVariable

/-- What the names of terminals with colours begin with. -/
def coloredFamilies : List String :=
  ["screen", "xterm", "vt100", "vt220", "rxvt"]

/-- What the names of terminals with colours hold. -/
def coloredWords : List String :=
  ["color", "ansi", "cygwin", "linux"]

/-- What the names of terminals with many colours end in. -/
def coloredEndings : List String :=
  ["direct", "truecolor", "256", "256color"]

def hasColor (name : String) : Bool :=
  coloredFamilies.any (name.startsWith ·)
    || coloredWords.any (fun word => Text.contains word.toList name.toList)
    || coloredEndings.any (name.endsWith ·)

def coloredPrograms : List String :=
  ["iTerm.app", "Apple_Terminal"]

/-- Each of these is set by a service that builds projects and shows colours in its logs. -/
def buildServiceVariables : List String :=
  ["CI_NAME", "GITHUB_ACTION", "GITLAB_CI", "NETLIFY", "TRAVIS", "CODEBUILD_SRC_DIR",
    "BUILDER_OUTPUT", "GITLAB_DEPLOYMENT", "NOW_GITHUB_DEPLOYMENT", "NOW_BUILDER",
    "BITBUCKET_DEPLOYMENT", "GERRIT_PROJECT", "SYSTEM_TEAMFOUNDATIONCOLLECTIONURI", "BITRISE_IO",
    "BUDDY_WORKSPACE_ID", "BUILDKITE", "CIRRUS_CI", "APPVEYOR", "CIRCLECI", "SEMAPHORE", "DRONE",
    "DSARI", "TDDIUM", "STRIDER", "TASKCLUSTER_ROOT_URL", "JENKINS_URL", "bamboo.buildKey",
    "GO_PIPELINE_NAME", "HUDSON_URL", "WERCKER", "MAGNUM", "NEVERCODE", "RENDER", "SAIL_CI",
    "SHIPPABLE"]

def isBuildService (environment : Environment) : Bool :=
  ["true", "1", "woodpecker"].any (environment.holds "CI" ·)
    || buildServiceVariables.any environment.has

def showsColor (environment : Environment) : Bool :=
  environment.has "COLORTERM" || (environment.lookup "TERM").any hasColor
    || coloredPrograms.any (environment.holds "TERM_PROGRAM" ·)
    || environment.affirms "CLICOLOR" || isBuildService environment

def watched : List String :=
  [forceVariable, "CLICOLOR_FORCE", "NO_COLOR", "TERM", presenceVariable, "COLORTERM",
    "TERM_PROGRAM", "CLICOLOR", "CI"] ++ buildServiceVariables

end Terminal

namespace Palette

def escape : String := "\x1b["

def paint (palette : Palette) (color : Nat) (label : String) : String :=
  if palette.isColored then
    escape ++ "1m" ++ escape ++ toString color ++ "m" ++ label ++ escape ++ "39m" ++ escape ++ "0m"
  else label

def success (palette : Palette) (label : String) : String :=
  palette.paint 32 label

def warning (palette : Palette) (label : String) : String :=
  palette.paint 33 label

def ofEnvironment (environment : Environment) : Palette :=
  ⟨Terminal.forcesColor environment
    || !Terminal.refusesColor environment && Terminal.showsColor environment⟩

def choose (environment : Environment) : ColorChoice → Palette
  | .always => ⟨true⟩
  | .never => ⟨false⟩
  | .auto => ofEnvironment environment

end Palette

end EventWiki.CommandLine
