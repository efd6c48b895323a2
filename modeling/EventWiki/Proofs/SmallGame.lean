import EventWiki.Proofs.LoadedParts
import EventWiki.Proofs.RenderRun

namespace EventWiki

/-! A game with nothing but event files, whose rules are there but word nothing. It can be loaded
and rendered, whatever its event files are. -/

namespace Disk

variable {disk : Disk} {path : String}

theorem ruleEntries_of_empty (found : disk.find path = .ok (.file .empty)) :
    disk.ruleEntries path = .ok [] := by
  rw [ruleEntries, readText, readBytes, read, found]
  rfl

theorem listFiles_of_empty (found : disk.find path = .ok (.directory [])) :
    disk.listFiles path = .ok [] := by
  rw [listFiles, filesUnder, found]
  simp [Except.map, Except.mapError, Entry.files, Entry.filesOfEach]

end Disk

namespace CommandLine

def emptyRuleFile (name : String) : String × Disk.Entry :=
  (name, .file .empty)

def emptyRules : Disk.Entry :=
  .directory [
    emptyRuleFile "operators.txt",
    ("eu4", .directory [
      ("localisation", .directory []), emptyRuleFile "lookupRules.txt",
      emptyRuleFile "namedSections.txt", emptyRuleFile "exceptions.txt",
      emptyRuleFile "parentExceptions.txt", emptyRuleFile "variations.txt"])]

def smallGame (events : Disk.Entries) : Disk :=
  ⟨[("game", .directory [("events", .directory events)]), ("rules", emptyRules)], []⟩

def plainFiles (files : List (String × ByteArray)) : Disk.Entries :=
  files.map fun (name, bytes) => (name, .file bytes)

def smallGameOptions : SourceOptions :=
  ⟨none, ⟨some "game", some "eu4", some "rules", some "output"⟩⟩

def smallGameSetup : Setup :=
  ⟨smallGameOptions.settings, ⟨"rules", "game", "eu4"⟩, Rulebook.empty⟩

def plainConsole : Console :=
  ⟨⟨false⟩, .ofLevel .warn, fun path _ => path ++ "\n"⟩

variable (events : Disk.Entries)

theorem isSound_smallGame :
    (smallGame events).isSound = (Disk.Entry.directory events).isSound := by
  have names : ∀ name ∈ ["game", "events", "rules", "operators.txt", "eu4", "localisation",
      "lookupRules.txt", "namedSections.txt", "exceptions.txt", "parentExceptions.txt",
      "variations.txt"], Path.isName name = true := by
    decide
  simp only [List.forall_mem_cons] at names
  simp [smallGame, emptyRules, emptyRuleFile, Disk.isSound, Disk.Entry.isSound,
    Disk.Entry.isSoundAll, names]

theorem find_rule {name : String}
    (listed : name ∈ ["lookupRules.txt", "namedSections.txt", "exceptions.txt",
      "parentExceptions.txt", "variations.txt"]) :
    (smallGame events).find (smallGameSetup.sources.rulePath name) = .ok (.file .empty) := by
  simp only [List.mem_cons, List.not_mem_nil, or_false] at listed
  rcases listed with rfl | rfl | rfl | rfl | rfl <;> rfl

theorem ruleEntries_smallGame {name : String}
    (listed : name ∈ ["lookupRules.txt", "namedSections.txt", "exceptions.txt",
      "parentExceptions.txt", "variations.txt"]) :
    (smallGame events).ruleEntries (smallGameSetup.sources.rulePath name) = .ok [] :=
  Disk.ruleEntries_of_empty (find_rule events listed)

def smallGameParts : Rulebook.LoadedParts (smallGame events) smallGameSetup.sources where
  templateFiles := []
  templates := []
  localisation := []
  countries := []
  operatorWords := []
  valueKinds := []
  namedBlocks := []
  mergedBlocks := []
  parentExceptions := []
  variations := []
  regions := []
  templateFiles_listed := Disk.listFiles_of_empty rfl
  templates_read := rfl
  localisation_read := rfl
  countries_read := rfl
  operatorWords_read := by
    rw [Rulebook.loadOperatorWords, Disk.ruleEntries_of_empty rfl]
    rfl
  valueKinds_read := by
    rw [Rulebook.loadValueKinds, Sources.valueKinds, ruleEntries_smallGame events (by decide)]
    rfl
  namedBlocks_read := by
    rw [Disk.ruleLists, Sources.namedBlocks, ruleEntries_smallGame events (by decide)]
    rfl
  mergedBlocks_read := by
    rw [Disk.ruleLists, Sources.mergedBlocks, ruleEntries_smallGame events (by decide)]
    rfl
  parentExceptions_read := by
    rw [Disk.ruleLists, Sources.parentExceptions, ruleEntries_smallGame events (by decide)]
    rfl
  variations_read := by
    rw [Rulebook.loadVariations, Sources.variations, ruleEntries_smallGame events (by decide)]
    rfl
  regions_read := rfl

theorem load_smallGame :
    Rulebook.load (smallGame events) smallGameSetup.sources = .ok Rulebook.empty :=
  (smallGameParts events).load_eq rfl

theorem setUp_of_load {disk : Disk} {source : SourceOptions} {settings : Settings}
    {sources : Sources} {book : Rulebook} (given : settingsOf disk source = .ok settings)
    (located : settings.sources = .ok sources) (loaded : Rulebook.load disk sources = .ok book) :
    setUp disk source = .ok ⟨settings, sources, book⟩ := by
  simp only [setUp, given, located, loaded, Except.mapError, bind, Except.bind]
  rfl

theorem setUp_smallGame : setUp (smallGame events) smallGameOptions = .ok smallGameSetup := by
  have no_file : (smallGame events).isFile Settings.defaultFile = false := rfl
  have given : settingsOf (smallGame events) smallGameOptions = .ok smallGameOptions.settings := by
    rw [settingsOf]
    simp only [smallGameOptions, no_file]
    rfl
  exact setUp_of_load given rfl (load_smallGame events)

theorem listFiles_smallGame :
    (smallGame events).listFiles smallGameSetup.sources.events =
      .ok ((Disk.Entry.directory events).trails.map fun names =>
        names.foldl Path.join "game/events") :=
  Disk.listFiles_ok_iff.mpr ⟨.directory events, _, rfl, rfl⟩

theorem listFiles_smallGame_of_files {files : List (String × ByteArray)}
    (sorted : (files.map Prod.fst).Pairwise (· ≤ ·)) :
    (smallGame (plainFiles files)).listFiles smallGameSetup.sources.events =
      .ok (files.map fun (name, _) => Path.join "game/events" name) := by
  rw [listFiles_smallGame, plainFiles, Disk.Entry.trails_of_sorted]
  · simp only [List.flatMap_map, List.map_flatMap, Disk.Entry.trails, List.map_cons, List.map_nil,
      List.foldl_cons, List.foldl_nil]
    exact congrArg _ List.map_eq_flatMap.symm
  · simpa [Function.comp_def] using sorted

theorem canWrite_smallGame (names : List String) : CanWrite (smallGame events) "output" names :=
  ⟨_, rfl, fun _ _ _ => ⟨_, rfl⟩⟩

theorem writesOutside_smallGame : WritesOutside (smallGame events) smallGameSetup := by
  change ¬ ["game"] <+: ["output"]
  decide

variable {events} {console : Console} {paths : List String}

theorem loaded_smallGame (sound : (Disk.Entry.directory events).isSound = true)
    (listed : (smallGame events).listFiles smallGameSetup.sources.events = .ok paths) :
    Loaded (smallGame events) smallGameOptions smallGameSetup paths :=
  ⟨(isSound_smallGame events).trans sound, setUp_smallGame events, listed⟩

theorem render_smallGame_ended
    (game : Loaded (smallGame events) smallGameOptions smallGameSetup paths) :
    (render console (smallGame events) smallGameOptions).code ≠ ExitCode.failure :=
  game.render_succeeds (game.undisturbed (writesOutside_smallGame events))
    (canWrite_smallGame events _)

theorem leaves_smallGame (console : Console)
    (game : Loaded (smallGame events) smallGameOptions smallGameSetup paths) :
    Leaves smallGameSetup.book console "output" (smallGame events) paths
      (render console (smallGame events) smallGameOptions) :=
  game.leaves (writesOutside_smallGame events) (canWrite_smallGame events _) console

end CommandLine

end EventWiki
