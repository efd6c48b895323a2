import EventWiki.Proofs.SmallGame

namespace EventWiki

namespace Disk

variable {disk wider : Disk} {place names : List String} {added : ByteArray} {path : String}

/-- The disk with one file more, and with the directories that it needs. -/
structure AddsFile (disk wider : Disk) (place : List String) (added : ByteArray) : Prop where
  working : wider.working = disk.working
  vacant : disk.node? place = none
  stored : wider.node? place = some (.file added)
  node? : ∀ names, names ≠ place → wider.node? names = disk.node? names ∨
    disk.node? names = none ∧ wider.node? names = some .directory

namespace AddsFile

theorem grows (adds : disk.AddsFile wider place added) : disk.Grows wider := by
  have kept {names : List String} {node : Node} (found : disk.node? names = some node) :
      wider.node? names = some node := by
    have other : names ≠ place := by
      rintro rfl
      simp [adds.vacant] at found
    rcases adds.node? names other with same | ⟨vacant, _⟩
    · rw [same, found]
    · simp [found] at vacant
  exact ⟨adds.working, fun _ => kept, fun _ bytes found => ⟨bytes, kept found⟩⟩

theorem fileAt? (adds : disk.AddsFile wider place added) :
    wider.fileAt? = Function.update disk.fileAt? place (some added) := by
  funext names
  rw [Function.update_apply]
  split
  · next here => rw [here, fileAt?_eq_some_iff, adds.stored]
  · next other =>
    rw [Disk.fileAt?, Disk.fileAt?]
    rcases adds.node? names other with same | ⟨vacant, made⟩
    · rw [same]
    · rw [vacant, made]

theorem read (adds : disk.AddsFile wider place added) {bytes : List UInt8}
    (ok : disk.read path = .ok bytes) : wider.read path = .ok bytes := by
  obtain ⟨stored, there, rfl⟩ := exists_fileAt?_of_read ok
  refine adds.grows.read ok ?_
  rw [adds.fileAt?, Function.update_of_ne, there]
  intro here
  rw [here, Disk.fileAt?, adds.vacant] at there
  simp at there

theorem of_changedAt (changed : disk.ChangedAt wider place (.file added))
    (vacant : disk.node? place = none) : disk.AddsFile wider place added where
  working := changed.working
  vacant := vacant
  stored := by rw [changed.node?, if_pos rfl]
  node? := fun names other => .inl (by rw [changed.node?, if_neg other])

theorem trails {start start' : Entry} {above above' : Above}
    (adds : disk.AddsFile wider (disk.location path ++ names) added)
    (sound : disk.isSound = true) (wider_sound : wider.isSound = true)
    (located : disk.locate path = .ok (start, above))
    (located' : wider.locate path = .ok (start', above')) :
    names ∈ start'.trails ∧ start.trails = start'.trails.filter (· ≠ names) := by
  have mem_iff {other : List String} : other ∈ start.trails ↔
      ∃ bytes, disk.fileAt? (disk.location path ++ other) = some bytes :=
    mem_trails_iff_fileAt? sound located
  have mem_iff' {other : List String} : other ∈ start'.trails ↔
      ∃ bytes, wider.fileAt? (wider.location path ++ other) = some bytes :=
    mem_trails_iff_fileAt? wider_sound located'
  rw [adds.grows.location, adds.fileAt?] at mem_iff'
  refine ⟨mem_iff'.mpr ⟨added, Function.update_self ..⟩, ?_⟩
  -- Both listings are in order, so it is enough that they have the same members.
  refine eq_of_sorted (Entry.trails_sorted (isSound_of_locate sound located))
    ((Entry.trails_sorted (isSound_of_locate wider_sound located')).filter _) fun other => ?_
  rw [List.mem_filter, decide_eq_true_eq, mem_iff, mem_iff']
  by_cases here : other = names
  · rw [here, Disk.fileAt?, adds.vacant]
    simp
  · rw [Function.update_of_ne (by simpa using here), and_iff_left here]

end AddsFile

end Disk

namespace CommandLine

variable {disk wider : Disk} {source : SourceOptions} {setup : Setup} {paths more : List String}
  {names : List String} {added : ByteArray} {output : String}

theorem foldl_lay_congr {files files' : List String → Option ByteArray} {names : List String}
    (same : files names = files' names) (pages : List Page) :
    pages.foldl (lay disk output) files names = pages.foldl (lay disk output) files' names := by
  induction pages generalizing files files' with
  | nil => exact same
  | cons page rest ih =>
      refine ih ?_
      rw [lay, lay, Function.update_apply, Function.update_apply, same]

theorem foldl_lay_update {files : List String → Option ByteArray} {pages : List Page}
    (untouched : ∀ page ∈ pages, documentPlace disk output page.path ≠ names)
    (content : Option ByteArray) :
    pages.foldl (lay disk output) (Function.update files names content) =
      Function.update (pages.foldl (lay disk output) files) names content := by
  funext other
  rw [Function.update_apply]
  split
  · next here => rw [here, foldl_lay_of_untouched untouched, Function.update_self]
  · next elsewhere => exact foldl_lay_congr (Function.update_of_ne elsewhere ..) pages

/-- Two games with the same rules, one of which has an event file more that holds no script. -/
structure BreaksScript (disk wider : Disk) (source : SourceOptions) (setup : Setup)
    (paths more names : List String) (added : ByteArray) : Prop where
  game : Loaded disk source setup paths
  wider_game : Loaded wider source setup more
  adds : disk.AddsFile wider (disk.location setup.sources.events ++ names) added
  rejected : ∀ outline, Script.parse (Text.decodeScript added.data.toList) ≠ .ok outline

namespace BreaksScript

variable (broken : BreaksScript disk wider source setup paths more names added)

include broken

theorem read_added : names.foldl Path.join setup.sources.events ∈ more ∧
    wider.read (names.foldl Path.join setup.sources.events) = .ok added.data.toList := by
  obtain ⟨start, above, located, _⟩ := Disk.listFiles_ok_iff.mp broken.game.listed
  obtain ⟨start', above', located', rfl⟩ := Disk.listFiles_ok_iff.mp broken.wider_game.listed
  have member :=
    (broken.adds.trails broken.game.sound broken.wider_game.sound located located').1
  refine ⟨List.mem_map_of_mem member, ?_⟩
  obtain ⟨stored, there, _, read⟩ := Disk.read_listed broken.wider_game.sound located' member
  rw [broken.adds.grows.location, broken.adds.fileAt?, Function.update_self,
    Option.some.injEq] at there
  rw [read, there]

theorem rejects_added : accepts wider (names.foldl Path.join setup.sources.events) = false := by
  rw [Bool.eq_false_iff]
  intro accepted
  obtain ⟨outline, parsed⟩ := (accepts_iff_of_read broken.read_added.2).mp accepted
  exact broken.rejected outline parsed

theorem pages_eq (book : Rulebook) : pages book wider more = pages book disk paths := by
  obtain ⟨start, above, located, rfl⟩ := Disk.listFiles_ok_iff.mp broken.game.listed
  obtain ⟨start', above', located', rfl⟩ := Disk.listFiles_ok_iff.mp broken.wider_game.listed
  have others :=
    (broken.adds.trails broken.game.sound broken.wider_game.sound located located').2
  rw [pages, pages, others, List.filterMap_map, List.filterMap_map, List.filterMap_filter]
  refine List.filterMap_congr fun trail member => ?_
  by_cases here : trail = names
  · rw [here, Function.comp_apply, page?_of_rejected broken.rejects_added]
    simp
  · have kept : trail ∈ start.trails := by
      rw [others, List.mem_filter]
      exact ⟨member, decide_eq_true here⟩
    obtain ⟨_, _, _, read⟩ := Disk.read_listed broken.game.sound located kept
    rw [if_pos (decide_eq_true here)]
    refine page?_congr ?_
    rw [outlineAt_of_read read, outlineAt_of_read (broken.adds.read read)]

end BreaksScript

/-- An event file more that holds no script changes nothing that a run writes or prints, and only
its exit code tells of it. -/
theorem render_with_broken_script (console : Console)
    (broken : BreaksScript disk wider source setup paths more names added)
    (outside : WritesOutside disk setup)
    (writes : CanWrite disk setup.settings.outputDirectory (writtenNames disk paths))
    (wider_writes : CanWrite wider setup.settings.outputDirectory (writtenNames wider more)) :
    (render console wider source).disk.fileAt? =
        Function.update (render console disk source).disk.fileAt?
          (disk.location setup.sources.events ++ names) (some added) ∧
      (render console wider source).out = (render console disk source).out ∧
      (render console wider source).code = ExitCode.badData ∧
      (render console disk source).code =
        if ∀ path ∈ paths, accepts disk path = true then ExitCode.success
        else ExitCode.badData := by
  have wider_outside : WritesOutside wider setup := by
    rw [WritesOutside, broken.adds.grows.location, broken.adds.grows.location]
    exact outside
  have leaves := broken.game.leaves outside writes console
  have wider_leaves := broken.wider_game.leaves wider_outside wider_writes console
  refine ⟨?_, ?_, ?_, leaves.code⟩
  · have untouched : ∀ page ∈ pages setup.book disk paths,
        documentPlace disk setup.settings.outputDirectory page.path ≠
          disk.location setup.sources.events ++ names :=
      fun page _ => outside.place_ne (documentName page.path) names
    rw [wider_leaves.files, leaves.files, broken.pages_eq, lay_of_grows broken.adds.grows,
      broken.adds.fileAt?, foldl_lay_update untouched, broken.adds.grows.location]
    exact Function.update_comm (outside.place_ne findingsFile names).symm ..
  · rw [leaves.out, wider_leaves.out, broken.pages_eq]
  · rw [wider_leaves.code, if_neg]
    intro accepted
    have claimed := accepted _ broken.read_added.1
    rw [broken.rejects_added] at claimed
    simp at claimed

def goodFile : String × ByteArray :=
  ("b.txt", "trigger = \x7b is_year = 5 \x7d".toUTF8)

def brokenFile : String × ByteArray :=
  ("c.txt", "option = \x7b".toUTF8)

theorem loaded_goodFile :
    Loaded (smallGame (plainFiles [goodFile])) smallGameOptions smallGameSetup
      ["game/events/b.txt"] :=
  loaded_smallGame (by decide +kernel) (listFiles_smallGame_of_files (by decide))

theorem loaded_goodFile_brokenFile :
    Loaded (smallGame (plainFiles [goodFile, brokenFile])) smallGameOptions smallGameSetup
      ["game/events/b.txt", "game/events/c.txt"] :=
  loaded_smallGame (by decide +kernel) (listFiles_smallGame_of_files (by decide))

theorem breaksScript_brokenFile :
    BreaksScript (smallGame (plainFiles [goodFile])) (smallGame (plainFiles [goodFile, brokenFile]))
      smallGameOptions smallGameSetup ["game/events/b.txt"]
      ["game/events/b.txt", "game/events/c.txt"] ["c.txt"] brokenFile.2 where
  game := loaded_goodFile
  wider_game := loaded_goodFile_brokenFile
  adds := by
    have wrote : (smallGame (plainFiles [goodFile])).write "game/events" "c.txt" brokenFile.2 =
        .ok (smallGame (plainFiles [goodFile, brokenFile])) := rfl
    exact .of_changedAt (Disk.changedAt_of_write wrote).2 rfl
  rejected := by
    have broken : (Script.parse (Text.decodeScript brokenFile.2.data.toList)).isOk = false := by
      decide +kernel
    intro outline parsed
    simp [parsed, Except.isOk, Except.toBool] at broken

theorem render_with_brokenFile :
    (render plainConsole (smallGame (plainFiles [goodFile, brokenFile])) smallGameOptions).out =
        (render plainConsole (smallGame (plainFiles [goodFile])) smallGameOptions).out ∧
      (render plainConsole (smallGame (plainFiles [goodFile, brokenFile])) smallGameOptions).code =
        ExitCode.badData := by
  obtain ⟨_, same_out, wider_code, _⟩ := render_with_broken_script plainConsole
    breaksScript_brokenFile (writesOutside_smallGame _) (canWrite_smallGame _ _)
    (canWrite_smallGame _ _)
  exact ⟨same_out, wider_code⟩

end CommandLine

end EventWiki
