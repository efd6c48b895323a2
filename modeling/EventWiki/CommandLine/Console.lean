import EventWiki.CommandLine.LogFilter
import EventWiki.CommandLine.Palette
import EventWiki.Rulebook.LoadEvent
import EventWiki.Script.Span

namespace EventWiki.CommandLine

structure Console where
  palette : Palette
  filter : LogFilter
  layout : String → Script.Report → String

namespace LogMessage

def loadingTopic : String := "scriptdoc::interpreter::loader"

def findingsTopic : String := "scriptdoc::types::diagnostics"

def ofLoadEvent : LoadEvent → LogMessage
  | .noLocalisation path =>
      ⟨.debug, loadingTopic, "no game localisation", [("path", path)]⟩
  | .noVariations path =>
      ⟨.debug, loadingTopic, "skipping missing variation source", [("path", path)]⟩
  | .noRegions path =>
      ⟨.debug, loadingTopic, "skipping missing region source", [("path", path)]⟩
  | .noModifiers path =>
      ⟨.debug, loadingTopic, "no modifier definitions", [("path", path)]⟩
  | .unresolved kind =>
      ⟨.trace, findingsTopic, "unresolved statement", [("kind", kind)]⟩
  | .expandedModifiers modifiers unresolved =>
      ⟨.debug, loadingTopic, "expanded modifiers",
        [("modifiers", toString modifiers), ("unresolved", toString unresolved)]⟩
  | .loaded templates localisation variations modifiers =>
      ⟨.info, loadingTopic, "loaded rule tables",
        [("templates", toString templates), ("localisation", toString localisation),
          ("variations", toString variations), ("modifiers", toString modifiers)]⟩

end LogMessage

def LogFilter.variableName : String := "RUST_LOG"

/-- A filter that cannot be read is passed over. -/
def LogFilter.choose (environment : Environment) (verbosity : Nat) : LogFilter :=
  ((environment.lookup LogFilter.variableName).bind LogFilter.parse?).getD
    (.ofLevel (.ofVerbosity verbosity))

namespace Console

def logLoad (console : Console) (disk : Disk) (sources : Sources) (book : Rulebook) : String :=
  console.filter.log ((book.loadEvents disk sources).map LogMessage.ofLoadEvent)

end Console

end EventWiki.CommandLine
