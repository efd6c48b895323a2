import EventWiki.Proofs.BrokenScript
import EventWiki.Proofs.FindingLines
import EventWiki.Proofs.KindCounts
import EventWiki.Proofs.OwnDocuments

namespace EventWiki.CommandLine

/-! The commands read the event files of a game each in a way of its own, and tell of the same
pages. -/

variable {book : Rulebook} {disk : Disk} {paths : List String} {path : String} {console : Console}
  {source : SourceOptions} {setup : Setup} {json : Bool}

theorem outlineAt_eq_ok_iff {outline : Outline} :
    outlineAt disk path = .ok (.ok outline) ↔
      ∃ text, disk.readScript path = .ok text ∧ Script.parse text = .ok outline := by
  rw [outlineAt]
  cases disk.readScript path with
  | error error => simp [Except.map]
  | ok text => simp [Except.map, outlineOrReport_eq_ok_iff]

theorem accepts_iff_parse :
    accepts disk path = true ↔
      ∃ text outline, disk.readScript path = .ok text ∧ Script.parse text = .ok outline := by
  simp only [accepts_iff, outlineAt_eq_ok_iff]
  exact exists_comm

theorem exists_render_of_mem_pages {page : Page} (member : page ∈ pages book disk paths) :
    ∃ text outline, disk.readScript page.path = .ok text ∧ Script.parse text = .ok outline ∧
      book.render outline .empty = (page.document, page.findings) := by
  obtain ⟨path, _, found⟩ := List.mem_filterMap.mp member
  obtain rfl := path_of_page? found
  cases accepted : accepts disk page.path with
  | false => simp [page?_of_rejected accepted] at found
  | true =>
      obtain ⟨outline, ok⟩ := accepts_iff.mp accepted
      obtain ⟨text, read, parsed⟩ := outlineAt_eq_ok_iff.mp ok
      rw [page?_of_ok ok] at found
      exact ⟨text, outline, read, parsed, by rw [← Option.some.inj found]⟩

theorem checkFiles_of_read (console : Console) (json : Bool)
    (readable : ∀ path ∈ paths, ∃ bytes, disk.read path = .ok bytes) (state : CheckState) :
    ∃ final, checkFiles console disk json state paths = (final, none) ∧
      final.results.all (·.error.isNone) =
        (state.results.all (·.error.isNone) && paths.all (accepts disk)) := by
  induction paths generalizing state with
  | nil => exact ⟨state, rfl, by simp⟩
  | cons path rest ih =>
      rw [List.forall_mem_cons] at readable
      obtain ⟨bytes, read⟩ := readable.1
      have result := outlineAt_of_read read
      rw [checkFiles, result]
      obtain ⟨final, checked, verdict⟩ :=
        ih readable.2 (state.add console json path (outlineOrReport (Text.decodeScript bytes)))
      refine ⟨final, checked, ?_⟩
      rw [verdict, List.all_cons, accepts, result]
      cases outlineOrReport (Text.decodeScript bytes) <;> simp [CheckState.add]

theorem check_code (readable : ∀ path ∈ paths, ∃ bytes, disk.read path = .ok bytes) :
    (check console disk paths json).code =
      if ∀ path ∈ paths, accepts disk path = true then ExitCode.success else ExitCode.badData := by
  obtain ⟨final, checked, verdict⟩ :=
    checkFiles_of_read console json readable ⟨[], "", ""⟩
  simp only [check, checked, verdict, List.all_nil, Bool.true_and, List.all_eq_true]

theorem eval_page (prepared : setUp disk source = .ok setup) {page : Page}
    (member : page ∈ pages setup.book disk paths) :
    (eval console disk source (.file page.path) json).code = ExitCode.success ∧
      (eval console disk source (.file page.path) json).out =
        if json then (documentJson page.document page.findings).pretty ++ "\n"
        else page.document.toText := by
  obtain ⟨text, outline, read, parsed, rendered⟩ := exists_render_of_mem_pages member
  simp only [eval, prepared, scriptText, read, Except.map, outlineOrReport_eq_ok_iff.mpr parsed,
    rendered, and_self]

theorem eval_code (prepared : setUp disk source = .ok setup) {bytes : List UInt8}
    (read : disk.read path = .ok bytes) :
    (eval console disk source (.file path) json).code =
      if accepts disk path = true then ExitCode.success else ExitCode.badData := by
  have script : disk.readScript path = .ok (Text.decodeScript bytes) := by
    rw [Disk.readScript, Disk.readBytes, read]
    rfl
  simp only [eval, prepared, scriptText, script, Except.map, accepts, outlineAt]
  cases outlineOrReport (Text.decodeScript bytes) <;> simp

theorem coverFiles_of_read (console : Console) (book : Rulebook)
    (readable : ∀ path ∈ paths, ∃ bytes, disk.read path = .ok bytes) (state : CoverageState) :
    ∃ err, coverFiles console book disk state paths =
      .ok ⟨(pages book disk paths).foldl (fun counts page => counts.countAll page.findings)
        state.counts, state.files + (pages book disk paths).length, err⟩ := by
  induction paths generalizing state with
  | nil => exact ⟨state.err, rfl⟩
  | cons path rest ih =>
      rw [List.forall_mem_cons] at readable
      obtain ⟨bytes, read⟩ := readable.1
      have result := outlineAt_of_read read
      rw [coverFiles, result, pages, List.filterMap_cons, page?, result, ← pages]
      cases outlineOrReport (Text.decodeScript bytes) with
      | error report => exact ih readable.2 _
      | ok outline =>
          let own := (book.render outline .empty).2
          obtain ⟨err, covered⟩ := ih readable.2
            { state with counts := state.counts.countAll own, files := state.files + 1 }
          refine ⟨err, covered.trans ?_⟩
          rw [List.foldl_cons, List.length_cons, Nat.add_assoc, Nat.add_comm 1]

/-- What is missing in the scripts of a game, with the number of scripts for each kind. -/
def unresolvedIn (book : Rulebook) (disk : Disk) (paths : List String) : List Unresolved :=
  unresolved book.templateKeys (.ofPages (pages book disk paths))

theorem kinds_unresolvedIn (book : Rulebook) (disk : Disk) (paths : List String) :
    (unresolvedIn book disk paths).map Unresolved.kind =
      (findingsOf (pages book disk paths)).kinds := by
  rw [← KindCounts.keys_ofPages, ← Std.TreeMap.map_fst_toList_eq_keys, unresolvedIn, unresolved,
    List.map_map]
  rfl

theorem isEmpty_unresolvedIn_iff :
    (unresolvedIn book disk paths).isEmpty = true ↔
      findingsText (findingsOf (pages book disk paths)) = "" := by
  rw [findingsText_eq_empty_iff, ← kinds_unresolvedIn, List.map_eq_nil_iff, List.isEmpty_iff]

theorem files_of_mem_unresolvedIn {row : Unresolved} (member : row ∈ unresolvedIn book disk paths) :
    row.files = (pages book disk paths).countP (·.findings.contains row.kind) := by
  rw [unresolvedIn, unresolved] at member
  obtain ⟨⟨kind, files⟩, entry, rfl⟩ := List.mem_map.mp member
  have counted := Std.TreeMap.mem_toList_iff_getElem?_eq_some.mp entry
  rw [← KindCounts.getD_ofPages, Std.TreeMap.getD_eq_getD_getElem?, counted, Option.getD_some]

theorem coverage_eq (game : Loaded disk source setup paths) (console : Console)
    (strict json : Bool) :
    ∃ err, coverage console disk source strict json =
      ⟨if strict && !(unresolvedIn setup.book disk paths).isEmpty then ExitCode.badData
        else ExitCode.success,
        coverageReport console json setup.book.templateKeys (pages setup.book disk paths).length
          (unresolvedIn setup.book disk paths), err, disk⟩ := by
  obtain ⟨err, covered⟩ := coverFiles_of_read console setup.book game.exists_read
    ⟨∅, 0, logLoaded console disk setup⟩
  refine ⟨err, ?_⟩
  rw [coverage, game.prepared]
  simp only [game.listed, covered, Nat.zero_add]
  rfl

theorem book_of_setUp (prepared : setUp disk source = .ok setup) :
    Rulebook.load disk setup.sources = .ok setup.book := by
  obtain ⟨settings, _, prepared⟩ := bind_eq_ok prepared
  obtain ⟨sources, _, prepared⟩ := bind_eq_ok prepared
  obtain ⟨book, loaded, prepared⟩ := bind_eq_ok prepared
  obtain rfl := Except.ok.inj prepared
  cases result : Rulebook.load disk sources with
  | error error => simp [result, Except.mapError] at loaded
  | ok other => simpa [result, Except.mapError] using loaded

theorem lines_findingsOf (prepared : setUp disk source = .ok setup) :
    (Text.lines (findingsText (findingsOf (pages setup.book disk paths))).toList).map
        String.ofList = (findingsOf (pages setup.book disk paths)).kinds := by
  refine lines_findingsText fun kind member => ?_
  obtain ⟨page, inside, member⟩ := mem_findingsOf.mp member
  obtain ⟨text, outline, _, parsed, rendered⟩ := exists_render_of_mem_pages inside
  refine Rulebook.isLine_of_mem_findings
    (Rulebook.hasLineVariations_of_load (book_of_setUp prepared)) parsed ?_
  rw [rendered]
  exact member

/-- The event files that hold scripts. -/
def scripts (disk : Disk) (paths : List String) : List String :=
  paths.filter (accepts disk)

/-- The files of a disk once texts for some scripts have been written to the places of their
documents, one after the other. -/
def layTexts (disk : Disk) (output : String) (text : String → String) (paths : List String) :
    List String → Option ByteArray :=
  paths.foldl
    (fun files path =>
      Function.update files (documentPlace disk output path) (some (text path).toUTF8))
    disk.fileAt?

theorem layTexts_scripts {output : String} {text : String → String}
    (same : ∀ page ∈ pages book disk paths, text page.path = page.document.toText) :
    layTexts disk output text (scripts disk paths) =
      (pages book disk paths).foldl (lay disk output) disk.fileAt? := by
  rw [layTexts, scripts, ← map_path_pages book, List.foldl_map]
  exact List.foldl_ext _ _ _ fun files page member => by rw [same page member, lay]

/-- What the commands tell of the same event files, where `report` is what a run that renders them
leaves as its findings. -/
structure CommandsAgree (disk : Disk) (source : SourceOptions) (setup : Setup)
    (paths : List String) (report : String) : Prop where
  scripts_parse : ∀ path ∈ paths, path ∈ scripts disk paths ↔
    ∃ text outline, disk.readScript path = .ok text ∧ Script.parse text = .ok outline
  pages_of_scripts : (pages setup.book disk paths).map Page.path = scripts disk paths
  page_rendered : ∀ page ∈ pages setup.book disk paths, ∃ text outline,
    disk.readScript page.path = .ok text ∧ Script.parse text = .ok outline ∧
      setup.book.render outline .empty = (page.document, page.findings)
  check_code : ∀ console json, ∀ path ∈ paths, (check console disk [path] json).code =
    if path ∈ scripts disk paths then ExitCode.success else ExitCode.badData
  eval_code : ∀ console json, ∀ path ∈ paths,
    (eval console disk source (.file path) json).code =
      if path ∈ scripts disk paths then ExitCode.success else ExitCode.badData
  eval_out : ∀ console, ∀ page ∈ pages setup.book disk paths,
    (eval console disk source (.file page.path) false).out = page.document.toText
  /-- A run that renders writes for every script what is printed for it, one after the other, and
  its findings at last. -/
  rendered : ∀ console console', (render console disk source).code ≠ ExitCode.failure →
    (render console disk source).disk.fileAt? =
      Function.update
        (layTexts disk setup.settings.outputDirectory
          (fun path => (eval console' disk source (.file path) false).out) (scripts disk paths))
        (disk.location setup.settings.outputDirectory ++ [findingsFile]) (some report.toUTF8)
  render_ends : ∀ console,
    CanWrite disk setup.settings.outputDirectory (writtenNames disk paths) →
    (render console disk source).code ≠ ExitCode.failure
  coverage_out : ∀ console strict, (coverage console disk source strict true).out =
    (Report.Json.object [
      ("files", .number (scripts disk paths).length),
      ("templates", .number setup.book.templateKeys.length),
      ("unresolved", .array ((unresolvedIn setup.book disk paths).map Unresolved.toJson))]).pretty
        ++ "\n"
  kinds_reported : (unresolvedIn setup.book disk paths).map Unresolved.kind =
    (Text.lines report.toList).map String.ofList
  files_counted : ∀ row ∈ unresolvedIn setup.book disk paths,
    row.files = (pages setup.book disk paths).countP (·.findings.contains row.kind) ∧
      1 ≤ row.files ∧ row.files ≤ (scripts disk paths).length
  strict_code : ∀ console json, (coverage console disk source true json).code =
    if report = "" then ExitCode.success else ExitCode.badData

theorem mem_scripts_iff (member : path ∈ paths) :
    path ∈ scripts disk paths ↔ accepts disk path = true := by
  rw [scripts, List.mem_filter, and_iff_right member]

theorem length_pages (book : Rulebook) (disk : Disk) (paths : List String) :
    (pages book disk paths).length = (scripts disk paths).length := by
  rw [scripts, ← map_path_pages book, List.length_map]

theorem files_bounds {row : Unresolved} (member : row ∈ unresolvedIn book disk paths) :
    1 ≤ row.files ∧ row.files ≤ (scripts disk paths).length := by
  have found : row.kind ∈ findingsOf (pages book disk paths) := by
    rw [Findings.mem_def, ← kinds_unresolvedIn]
    exact List.mem_map_of_mem member
  obtain ⟨page, inside, found⟩ := mem_findingsOf.mp found
  rw [files_of_mem_unresolvedIn member, ← length_pages book]
  exact ⟨List.countP_pos_iff.mpr ⟨page, inside, List.contains_iff_mem.mpr found⟩,
    List.countP_le_length⟩

/-- Rendering, checking, counting and evaluating the event files of a game agree, when the documents
are written outside the game. -/
theorem commands_agree (game : Loaded disk source setup paths)
    (outside : WritesOutside disk setup) :
    ∃ report, CommandsAgree disk source setup paths report := by
  have undisturbed := game.undisturbed outside
  refine ⟨findingsText (findingsOf (pages setup.book disk paths)), ?_⟩
  exact {
    scripts_parse := fun path member => (mem_scripts_iff member).trans accepts_iff_parse
    pages_of_scripts := map_path_pages ..
    page_rendered := fun page member => exists_render_of_mem_pages member
    check_code := fun console json path member => by
      rw [check_code fun _ inside => game.exists_read _ (List.mem_singleton.mp inside ▸ member)]
      simp only [List.forall_mem_singleton, mem_scripts_iff member]
    eval_code := fun console json path member => by
      obtain ⟨bytes, read⟩ := game.exists_read path member
      simp only [eval_code game.prepared read, mem_scripts_iff member]
    eval_out := fun console page member => (eval_page game.prepared member).2
    rendered := fun console console' ended => by
      rw [(game.render_leaves undisturbed ended).files,
        layTexts_scripts fun page member => (eval_page game.prepared member).2]
    render_ends := fun console writes => game.render_succeeds undisturbed writes
    coverage_out := fun console strict => by
      obtain ⟨err, covered⟩ := coverage_eq game console strict true
      rw [covered, ← length_pages setup.book]
      rfl
    kinds_reported := (kinds_unresolvedIn ..).trans (lines_findingsOf game.prepared).symm
    files_counted := fun row member => ⟨files_of_mem_unresolvedIn member, files_bounds member⟩
    strict_code := fun console json => by
      obtain ⟨err, covered⟩ := coverage_eq game console true json
      rw [covered]
      simp only [← isEmpty_unresolvedIn_iff, Bool.true_and]
      cases (unresolvedIn setup.book disk paths).isEmpty <;> rfl }

theorem commands_agree_on_brokenFile :
    ∃ report, CommandsAgree (smallGame (plainFiles [goodFile, brokenFile])) smallGameOptions
        smallGameSetup ["game/events/b.txt", "game/events/c.txt"] report ∧
      scripts (smallGame (plainFiles [goodFile, brokenFile]))
        ["game/events/b.txt", "game/events/c.txt"] = ["game/events/b.txt"] ∧
      unresolvedIn smallGameSetup.book (smallGame (plainFiles [goodFile, brokenFile]))
        ["game/events/b.txt", "game/events/c.txt"] = [⟨"trigger", 1, []⟩] := by
  obtain ⟨report, agree⟩ := commands_agree loaded_goodFile_brokenFile (writesOutside_smallGame _)
  exact ⟨report, agree, by decide +kernel, by decide +kernel⟩

end EventWiki.CommandLine
