import EventWiki.CommandLine.Commands

namespace EventWiki.CommandLine

/-! The paths that a command may read, as far as they can be told from what has been read. -/

def SourceOptions.settingsPath (source : SourceOptions) : String :=
  source.config.getD Settings.defaultFile

/-- The parts of the rules and of the game that a rulebook is loaded from. -/
def sourcePaths (disk : Disk) (sources : Sources) : List String :=
  [sources.operatorWords, sources.gameRules, sources.localisation, sources.modifiers,
    sources.events] ++ sources.regions ++ Rulebook.variationPaths disk sources

def SourceOptions.paths (disk : Disk) (source : SourceOptions) : List String :=
  match settingsOf disk source with
  | .error _ => [source.settingsPath]
  | .ok settings =>
      match settings.sources with
      | .error _ => [source.settingsPath]
      | .ok sources => source.settingsPath :: sourcePaths disk sources

def Command.paths (disk : Disk) : Command → List String
  | .check files _ => files
  | .coverage source _ _ => source.paths disk
  | .render source =>
      let output :=
        match settingsOf disk source with
        | .ok settings => [settings.outputDirectory]
        | .error _ => []
      output ++ source.paths disk
  | .eval source (.text _) _ => source.paths disk
  | .eval source (.file path) _ => path :: source.paths disk

end EventWiki.CommandLine
