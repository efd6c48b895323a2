import EventWiki.CommandLine.Console
import EventWiki.CommandLine.Outcome
import EventWiki.Page
import EventWiki.Report.Json
import EventWiki.Report.Table
import EventWiki.Suggestion

namespace EventWiki.CommandLine

def outlineOrReport (source : String) : Except Script.Report Outline :=
  let lines := Script.normalize source
  (Script.outline lines).mapError (Script.Report.ofError lines)

def outlineAt (disk : Disk) (path : String) :
    Except LoadError (Except Script.Report Outline) :=
  (disk.readScript path).map outlineOrReport

def settingsFile (disk : Disk) (path : String) : Except SettingsError Settings :=
  match disk.read path with
  | .error _ => .error (.unreadable path)
  | .ok bytes =>
      match Text.Utf8.strict? bytes with
      | none => .error (.unreadable path)
      | some text => (Settings.parse? text).elim (.error (.malformed path)) .ok

def settingsOf (disk : Disk) (source : SourceOptions) : Except SettingsError Settings :=
  match source.config with
  | some path => (settingsFile disk path).map source.settings.orElse
  | none =>
      if disk.isFile Settings.defaultFile then
        (settingsFile disk Settings.defaultFile).map source.settings.orElse
      else .ok source.settings

structure Setup where
  settings : Settings
  sources : Sources
  book : Rulebook

def setUp (disk : Disk) (source : SourceOptions) : Except String Setup := do
  let settings ← (settingsOf disk source).mapError SettingsError.message
  let sources ← settings.sources.mapError SettingsError.message
  let book ← (Rulebook.load disk sources).mapError LoadError.message
  return ⟨settings, sources, book⟩

def logLoaded (console : Console) (disk : Disk) (setup : Setup) : String :=
  console.logLoad disk setup.sources setup.book

structure CheckResult where
  file : String
  error : Option String
  deriving DecidableEq, Repr

namespace CheckResult

def toJson (result : CheckResult) : Report.Json :=
  .object ([("file", .text result.file), ("ok", .bool result.error.isNone)] ++
    (result.error.elim [] fun error => [("error", .text error)]))

end CheckResult

structure CheckState where
  results : List CheckResult
  out : String
  err : String

def CheckState.add (console : Console) (json : Bool) (state : CheckState) (path : String) :
    Except Script.Report Outline → CheckState
  | .ok outline =>
      let line :=
        console.palette.success "ok" ++ s!" {path} ({outline.size - 1} statements)\n"
      { state with
        results := state.results ++ [⟨path, none⟩]
        out := state.out ++ (if json then "" else line) }
  | .error report =>
      { state with
        results := state.results ++ [⟨path, some report.message⟩]
        err := state.err ++ (if json then "" else console.layout path report) }

def checkFiles (console : Console) (disk : Disk) (json : Bool) (state : CheckState) :
    List String → CheckState × Option LoadError
  | [] => (state, none)
  | path :: rest =>
      match outlineAt disk path with
      | .error error => (state, some error)
      | .ok result => checkFiles console disk json (state.add console json path result) rest

def check (console : Console) (disk : Disk) (files : List String) (json : Bool) : Outcome :=
  match checkFiles console disk json ⟨[], "", ""⟩ files with
  | (state, some error) => .failed disk state.out state.err error.message
  | (state, none) =>
      let report :=
        if json then (Report.Json.array (state.results.map CheckResult.toJson)).pretty ++ "\n"
        else ""
      let code :=
        if state.results.all (·.error.isNone) then ExitCode.success else ExitCode.badData
      ⟨code, state.out ++ report, state.err, disk⟩

def findingsFile : String := "errors.txt"

/-- The file of a document is named like that of its script. -/
def documentName (path : String) : String :=
  (Path.fileName? path).getD path

structure RenderState where
  disk : Disk
  findings : Findings
  rendered : Nat
  broken : Nat
  err : String

def renderFile (console : Console) (book : Rulebook) (output : String) (state : RenderState)
    (path : String) : Except String RenderState :=
  match outlineAt state.disk path with
  | .error error => .error error.message
  | .ok (.error report) =>
      .ok { state with
        broken := state.broken + 1, err := state.err ++ console.layout path report }
  | .ok (.ok outline) =>
      let (document, own) := book.render outline .empty
      let name := documentName path
      match state.disk.write output name document.toText.toUTF8 with
      | .error error =>
          .error s!"Cannot write {Path.join output name}: {error.message}"
      | .ok disk =>
          .ok { state with
            disk, findings := state.findings.union own, rendered := state.rendered + 1 }

def renderFiles (console : Console) (book : Rulebook) (output : String) (state : RenderState) :
    List String → RenderState × Option String
  | [] => (state, none)
  | path :: rest =>
      match renderFile console book output state path with
      | .error reason => (state, some reason)
      | .ok next => renderFiles console book output next rest

def findingsText (findings : Findings) : String :=
  String.join (findings.kinds.map (· ++ "\n"))

def render (console : Console) (disk : Disk) (source : SourceOptions) : Outcome :=
  match setUp disk source with
  | .error reason => .failed disk "" "" reason
  | .ok setup =>
      let log := logLoaded console disk setup
      let output := setup.settings.outputDirectory
      match disk.makeDirectories output with
      | .error error =>
          .failed disk "" log s!"Cannot create output directory {output}: {error.message}"
      | .ok ready =>
          match ready.listFiles setup.sources.events with
          | .error error => .failed ready "" log error.message
          | .ok paths =>
              match renderFiles console setup.book output ⟨ready, .empty, 0, 0, log⟩ paths with
              | (state, some reason) => .failed state.disk "" state.err reason
              | (state, none) =>
                  match state.disk.write output findingsFile
                      (findingsText state.findings).toUTF8 with
                  | .error error =>
                      .failed state.disk "" state.err
                        s!"Cannot write {Path.join output findingsFile}: {error.message}"
                  | .ok disk =>
                      let out := console.palette.success "Rendered"
                        ++ s!" {state.rendered} files into {output} "
                        ++ s!"({state.findings.size} unresolved statement types)\n"
                      if state.broken = 0 then ⟨ExitCode.success, out, state.err, disk⟩
                      else
                        ⟨ExitCode.badData, out,
                          state.err ++ s!"error: {state.broken} files could not be parsed\n", disk⟩

structure Unresolved where
  kind : String
  files : Nat
  suggestions : List String
  deriving DecidableEq, Repr

abbrev KindCounts := Dictionary Nat

def KindCounts.count (counts : KindCounts) (kind : String) : KindCounts :=
  counts.insert kind (counts.getD kind 0 + 1)

def KindCounts.countAll (counts : KindCounts) (findings : Findings) : KindCounts :=
  findings.kinds.foldl count counts

structure CoverageState where
  counts : KindCounts
  files : Nat
  err : String

/-- Takes in scripts in order, up to one that cannot be read. -/
def coverFiles (console : Console) (book : Rulebook) (disk : Disk) (state : CoverageState) :
    List String → Except (CoverageState × LoadError) CoverageState
  | [] => .ok state
  | path :: rest =>
      match outlineAt disk path with
      | .error error => .error (state, error)
      | .ok (.error report) =>
          coverFiles console book disk
            { state with err := state.err ++ console.layout path report } rest
      | .ok (.ok outline) =>
          let own := (book.render outline .empty).2
          coverFiles console book disk
            { state with counts := state.counts.countAll own, files := state.files + 1 } rest

def unresolved (known : List String) (counts : KindCounts) : List Unresolved :=
  counts.toList.map fun (kind, files) => ⟨kind, files, Suggestion.nearest kind known⟩

namespace Unresolved

def toJson (row : Unresolved) : Report.Json :=
  .object [("kind", .text row.kind), ("files", .number row.files),
    ("suggestions", .texts row.suggestions)]

def cells (row : Unresolved) : List String :=
  [row.kind, toString row.files, String.intercalate ", " row.suggestions]

end Unresolved

def coverageReport (console : Console) (json : Bool) (known : List String) (files : Nat)
    (rows : List Unresolved) : String :=
  if json then
    (Report.Json.object [("files", .number files), ("templates", .number known.length),
      ("unresolved", .array (rows.map Unresolved.toJson))]).pretty ++ "\n"
  else if rows.isEmpty then
    console.palette.success "ok" ++ s!" every statement in {files} files has a template\n"
  else
    Report.table ["Statement", "Files", "Did you mean"] (rows.map Unresolved.cells) ++ "\n\n"
      ++ console.palette.warning "warning:"
      ++ s!" {rows.length} unresolved statement types across {files} files\n"

def coverage (console : Console) (disk : Disk) (source : SourceOptions) (strict json : Bool) :
    Outcome :=
  match setUp disk source with
  | .error reason => .failed disk "" "" reason
  | .ok setup =>
      let log := logLoaded console disk setup
      match disk.listFiles setup.sources.events with
      | .error error => .failed disk "" log error.message
      | .ok paths =>
          match coverFiles console setup.book disk ⟨∅, 0, log⟩ paths with
          | .error (state, error) => .failed disk "" state.err error.message
          | .ok state =>
              let known := setup.book.templateKeys
              let rows := unresolved known state.counts
              let code :=
                if strict && !rows.isEmpty then ExitCode.badData else ExitCode.success
              ⟨code, coverageReport console json known state.files rows, state.err, disk⟩

def styleJson : LineStyle → Report.Json
  | .header => .text "header"
  | .subtitle => .text "subtitle"
  | .bullet markers => .object [("bullet", .number markers)]

def documentJson (document : Document) (findings : Findings) : Report.Json :=
  .object [
    ("document", .object [("lines", .texts document.lines),
      ("kinds", .array (document.styles.map styleJson))]),
    ("unresolved", .texts findings.kinds)]

def scriptText (disk : Disk) : ScriptSource → Except LoadError (String × String)
  | .text script => .ok ("<script>", script)
  | .file path => (disk.readScript path).map (path, ·)

def eval (console : Console) (disk : Disk) (source : SourceOptions) (script : ScriptSource)
    (json : Bool) : Outcome :=
  match setUp disk source with
  | .error reason => .failed disk "" "" reason
  | .ok setup =>
      let log := logLoaded console disk setup
      match scriptText disk script with
      | .error error => .failed disk "" log error.message
      | .ok (name, text) =>
          match outlineOrReport text with
          | .error report =>
              let err :=
                if json then (Report.Json.object [("error", .text report.message)]).pretty ++ "\n"
                else console.layout name report
              ⟨ExitCode.badData, "", log ++ err, disk⟩
          | .ok outline =>
              let (document, findings) := setup.book.render outline .empty
              let out :=
                if json then (documentJson document findings).pretty ++ "\n"
                else document.toText
              ⟨ExitCode.success, out, log, disk⟩

end EventWiki.CommandLine
