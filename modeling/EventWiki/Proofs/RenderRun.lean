import EventWiki.Proofs.EventFiles

namespace EventWiki.CommandLine

/-! Each file is read as it was before the run, as long as no document has been written in its
place. -/

variable {book : Rulebook} {output : String} {start disk : Disk} {done paths : List String}
  {path : String} {state next final : RenderState} {bytes : List UInt8} {console : Console}

def documentPlace (disk : Disk) (output path : String) : List String :=
  disk.location output ++ [documentName path]

def lay (disk : Disk) (output : String) (files : List String → Option ByteArray) (page : Page) :
    List String → Option ByteArray :=
  Function.update files (documentPlace disk output page.path) (some page.document.toText.toUTF8)

theorem foldl_lay_of_untouched {pages : List Page} {names : List String}
    (untouched : ∀ page ∈ pages, documentPlace disk output page.path ≠ names)
    (files : List String → Option ByteArray) :
    pages.foldl (lay disk output) files names = files names := by
  induction pages generalizing files with
  | nil => rfl
  | cons page rest ih =>
      rw [List.forall_mem_cons] at untouched
      rw [List.foldl_cons, ih untouched.2, lay, Function.update_of_ne untouched.1.symm]

theorem mem_of_mem_pages {page : Page} (member : page ∈ pages book disk paths) :
    page.path ∈ paths.filter (accepts disk) := by
  rw [← map_path_pages book disk paths]
  exact List.mem_map_of_mem member

def Spares (disk : Disk) (output earlier later : String) : Prop :=
  accepts disk earlier = true → documentPlace disk output earlier ≠ disk.location later

/-- No document is written in the place of an event file that is read later. -/
def Undisturbed (disk : Disk) (output : String) (paths : List String) : Prop :=
  paths.Pairwise (Spares disk output)

def findingsOf (pages : List Page) : Findings :=
  (pages.map Page.findings).foldl Findings.union .empty

structure Rendered (book : Rulebook) (output : String) (start : Disk) (done : List String)
    (state : RenderState) : Prop where
  grows : start.Grows state.disk
  directories : ∀ names, state.disk.node? names = some .directory →
    start.node? names = some .directory
  files : state.disk.fileAt? = (pages book start done).foldl (lay start output) start.fileAt?
  findings : state.findings = findingsOf (pages book start done)
  rendered : state.rendered = (pages book start done).length
  broken : state.broken = 0 ↔ ∀ path ∈ done, accepts start path = true

namespace Rendered

theorem begin (book : Rulebook) (output : String) (start : Disk) (log : String) :
    Rendered book output start [] ⟨start, .empty, 0, 0, log⟩ where
  grows := .refl start
  directories := fun _ => id
  files := rfl
  findings := rfl
  rendered := rfl
  broken := by simp

theorem outlineAt_eq (kept : Rendered book output start done state)
    (read : start.read path = .ok bytes)
    (apart : ∀ earlier ∈ done, Spares start output earlier path) :
    outlineAt state.disk path = outlineAt start path := by
  obtain ⟨stored, there, same⟩ := Disk.exists_fileAt?_of_read read
  have untouched : ∀ page ∈ pages book start done,
      documentPlace start output page.path ≠ start.location path :=
    fun page member =>
      let ⟨listed, accepted⟩ := List.mem_filter.mp (mem_of_mem_pages member)
      apart page.path listed accepted
  -- The disk has grown, so the path still leads there, and there the old file stands.
  have kept_there : state.disk.fileAt? (start.location path) = some stored := by
    rw [kept.files, foldl_lay_of_untouched untouched, there]
  have again := kept.grows.read read kept_there
  rw [same] at again
  rw [outlineAt_of_read again, outlineAt_of_read read]

theorem pages_concat (book : Rulebook) (disk : Disk) (done : List String) (path : String) :
    pages book disk (done ++ [path]) = pages book disk done ++ (page? book disk path).toList := by
  rw [pages, List.filterMap_append, ← pages]
  cases found : page? book disk path <;> simp [found]

theorem findingsOf_concat (done : List Page) (page : Page) :
    findingsOf (done ++ [page]) = (findingsOf done).union page.findings := by
  rw [findingsOf, List.map_append, List.foldl_append]
  rfl

theorem reject (kept : Rendered book output start done state)
    (rejected : accepts start path = false) (err : String) :
    Rendered book output start (done ++ [path])
      { state with broken := state.broken + 1, err := err } := by
  have same : pages book start (done ++ [path]) = pages book start done := by
    rw [pages_concat, page?_of_rejected rejected, Option.toList_none, List.append_nil]
  exact {
    grows := kept.grows
    directories := kept.directories
    files := same ▸ kept.files
    findings := same ▸ kept.findings
    rendered := same ▸ kept.rendered
    broken := by simp [rejected] }

theorem accept (kept : Rendered book output start done state) {outline : Outline} {written : Disk}
    (ok : outlineAt start path = .ok (.ok outline))
    (wrote : state.disk.write output (documentName path)
      (book.render outline .empty).1.toText.toUTF8 = .ok written) :
    Rendered book output start (done ++ [path])
      { state with
        disk := written, findings := state.findings.union (book.render outline .empty).2,
        rendered := state.rendered + 1 } := by
  obtain ⟨free, changed⟩ := Disk.changedAt_of_write wrote
  rw [kept.grows.location] at free changed
  have more : pages book start (done ++ [path]) = pages book start done ++
      [⟨path, (book.render outline .empty).1, (book.render outline .empty).2⟩] := by
    rw [pages_concat, page?_of_ok ok, Option.toList_some]
  have accepted : accepts start path = true := accepts_iff.mpr ⟨outline, ok⟩
  refine ⟨kept.grows.trans (changed.grows free), fun names found => ?_, ?_, ?_, ?_, ?_⟩
  · rw [changed.node?] at found
    split at found
    · simp at found
    · exact kept.directories names found
  · rw [more, List.foldl_append, ← kept.files, List.foldl_cons, List.foldl_nil, lay]
    funext names
    rw [changed.fileAt?, Function.update_apply]
    rfl
  · rw [more, findingsOf_concat, ← kept.findings]
  · rw [more, List.length_append, ← kept.rendered, List.length_singleton]
  · simp [kept.broken, accepted, or_imp, forall_and]

theorem step (kept : Rendered book output start done state) (read : start.read path = .ok bytes)
    (apart : ∀ earlier ∈ done, Spares start output earlier path)
    (ok : renderFile console book output state path = .ok next) :
    Rendered book output start (done ++ [path]) next := by
  have same := kept.outlineAt_eq read apart
  rw [renderFile, same] at ok
  split at ok
  · simp at ok
  · next report broken =>
    rw [← Except.ok.inj ok]
    refine kept.reject ?_ _
    rw [accepts, broken]
  · next outline read_ok =>
    simp only at ok
    split at ok
    · simp at ok
    · next written wrote =>
      rw [← Except.ok.inj ok]
      exact kept.accept read_ok wrote

theorem exists_step (console : Console) (kept : Rendered book output start done state)
    (read : start.read path = .ok bytes)
    (apart : ∀ earlier ∈ done, Spares start output earlier path)
    (writes : accepts start path = true →
      ∃ content written, start.write output (documentName path) content = .ok written) :
    ∃ next, renderFile console book output state path = .ok next := by
  have same := kept.outlineAt_eq read apart
  rw [renderFile, same, outlineAt_of_read read]
  cases parsed : outlineOrReport (Text.decodeScript bytes) with
  | error report => exact ⟨_, rfl⟩
  | ok outline =>
      obtain ⟨content, written, wrote⟩ := writes (accepts_iff.mpr
        ⟨outline, by rw [outlineAt_of_read read, parsed]⟩)
      have free : state.disk.node? (start.location output ++ [documentName path]) ≠
          some .directory :=
        fun found => (Disk.changedAt_of_write wrote).1 (kept.directories _ found)
      obtain ⟨later, wrote'⟩ := kept.grows.exists_write wrote free
        (book.render outline .empty).1.toText.toUTF8
      simp only [wrote']
      exact ⟨_, rfl⟩

theorem run (kept : Rendered book output start done state)
    (read : ∀ path ∈ paths, ∃ bytes, start.read path = .ok bytes)
    (apart : Undisturbed start output (done ++ paths))
    (ok : renderFiles console book output state paths = (final, none)) :
    Rendered book output start (done ++ paths) final := by
  -- One file after the other moves from those that are left to those that are done.
  induction paths generalizing done state with
  | nil =>
      rw [renderFiles, Prod.mk.injEq] at ok
      rw [List.append_nil]
      exact ok.1 ▸ kept
  | cons path rest ih =>
      rw [List.forall_mem_cons] at read
      obtain ⟨bytes, readable⟩ := read.1
      have behind := (List.pairwise_append.mp apart).2.2
      rw [renderFiles] at ok
      split at ok
      · simp at ok
      · next next rendered =>
        have more := kept.step readable
          (fun earlier member => behind earlier member path List.mem_cons_self) rendered
        rw [List.append_cons] at apart ⊢
        exact ih more read.2 apart ok

theorem exists_run (console : Console) (kept : Rendered book output start done state)
    (read : ∀ path ∈ paths, ∃ bytes, start.read path = .ok bytes)
    (apart : Undisturbed start output (done ++ paths))
    (writes : ∀ path ∈ paths, accepts start path = true →
      ∃ content written, start.write output (documentName path) content = .ok written) :
    ∃ final, renderFiles console book output state paths = (final, none) := by
  induction paths generalizing done state with
  | nil => exact ⟨state, rfl⟩
  | cons path rest ih =>
      rw [List.forall_mem_cons] at read writes
      obtain ⟨bytes, readable⟩ := read.1
      have behind := (List.pairwise_append.mp apart).2.2
      have here : ∀ earlier ∈ done, Spares start output earlier path :=
        fun earlier member => behind earlier member path List.mem_cons_self
      obtain ⟨next, rendered⟩ := kept.exists_step console readable here writes.1
      rw [List.append_cons] at apart
      rw [renderFiles, rendered]
      exact ih (kept.step readable here rendered) read.2 apart writes.2

end Rendered

def renderSummary (console : Console) (output : String) (rendered : Nat) (findings : Findings) :
    String :=
  console.palette.success "Rendered" ++ s!" {rendered} files into {output} "
    ++ s!"({findings.size} unresolved statement types)\n"

variable {source : SourceOptions} {setup : Setup}

/-- A run that is set up fails, or every file has been rendered and the findings written. -/
theorem render_cases (console : Console) (prepared : setUp disk source = .ok setup) :
    (render console disk source).code = ExitCode.failure ∨
      ∃ ready paths state last, disk.makeDirectories setup.settings.outputDirectory = .ok ready ∧
        ready.listFiles setup.sources.events = .ok paths ∧
        renderFiles console setup.book setup.settings.outputDirectory
            ⟨ready, .empty, 0, 0, logLoaded console disk setup⟩ paths = (state, none) ∧
        state.disk.write setup.settings.outputDirectory findingsFile
            (findingsText state.findings).toUTF8 = .ok last ∧
        (render console disk source).disk = last ∧
        (render console disk source).out = renderSummary console setup.settings.outputDirectory
            state.rendered state.findings ∧
        (render console disk source).code =
            if state.broken = 0 then ExitCode.success else ExitCode.badData := by
  rw [render, prepared]
  simp only
  split
  · exact .inl rfl
  · next ready made =>
    split
    · exact .inl rfl
    · next paths listed =>
      split
      · exact .inl rfl
      · next state rendered =>
        split
        · exact .inl rfl
        · next last wrote =>
          refine .inr ⟨ready, paths, state, last, made, listed, rendered, wrote, ?_⟩
          split <;> exact ⟨rfl, rfl, rfl⟩

theorem render_ended_iff (prepared : setUp disk source = .ok setup) :
    (render console disk source).code ≠ ExitCode.failure ↔
      (render console disk source).code = ExitCode.success ∨
        (render console disk source).code = ExitCode.badData := by
  constructor
  · intro ended
    rcases render_cases console prepared with
      failed | ⟨_, _, state, _, _, _, _, _, _, _, code_eq⟩
    · exact absurd failed ended
    · rw [code_eq]
      split
      · exact .inl rfl
      · exact .inr rfl
  · rintro (success | broken)
    · rw [success]
      decide
    · rw [broken]
      decide

/-- What a run leaves behind that has rendered the event files at some paths. -/
structure Leaves (book : Rulebook) (console : Console) (output : String) (disk : Disk)
    (paths : List String) (outcome : Outcome) : Prop where
  grows : disk.Grows outcome.disk
  files : outcome.disk.fileAt? =
    Function.update ((pages book disk paths).foldl (lay disk output) disk.fileAt?)
      (disk.location output ++ [findingsFile])
      (some (findingsText (findingsOf (pages book disk paths))).toUTF8)
  out : outcome.out = renderSummary console output (pages book disk paths).length
    (findingsOf (pages book disk paths))
  code : outcome.code = if ∀ path ∈ paths, accepts disk path = true then ExitCode.success
    else ExitCode.badData

theorem outlineAt_of_adds {ready : Disk} (sound : disk.isSound = true)
    (adds : disk.AddsDirectories ready) {directory : String}
    (listed : disk.listFiles directory = .ok paths) :
    ∀ path ∈ paths, outlineAt ready path = outlineAt disk path := by
  intro path member
  obtain ⟨bytes, read⟩ := Disk.exists_read_of_mem_listFiles sound listed member
  rw [outlineAt_of_read read, outlineAt_of_read (adds.read read)]

theorem undisturbed_of_adds {ready : Disk} (adds : disk.AddsDirectories ready)
    (same : ∀ path ∈ paths, outlineAt ready path = outlineAt disk path)
    (apart : Undisturbed disk output paths) : Undisturbed ready output paths := by
  refine List.Pairwise.imp_of_mem (fun {earlier later} member _ spares accepted => ?_) apart
  rw [accepts_congr (same earlier member)] at accepted
  rw [documentPlace, adds.grows.location, adds.grows.location]
  exact spares accepted

theorem lay_of_grows {wider : Disk} (grows : disk.Grows wider) (output : String) :
    lay wider output = lay disk output := by
  funext files page
  rw [lay, lay, documentPlace, documentPlace, grows.location]

/-- The directory can be made, and files with these names can be written into it. -/
def CanWrite (disk : Disk) (output : String) (names : List String) : Prop :=
  ∃ ready, disk.makeDirectories output = .ok ready ∧
    ∀ name ∈ names, ∀ content, ∃ written, ready.write output name content = .ok written

def writtenNames (disk : Disk) (paths : List String) : List String :=
  findingsFile :: (paths.filter (accepts disk)).map documentName

structure Loaded (disk : Disk) (source : SourceOptions) (setup : Setup) (paths : List String) :
    Prop where
  sound : disk.isSound = true
  prepared : setUp disk source = .ok setup
  listed : disk.listFiles setup.sources.events = .ok paths

def WritesOutside (disk : Disk) (setup : Setup) : Prop :=
  ¬ disk.location setup.sources.gameRoot <+: disk.location setup.settings.outputDirectory

theorem location_events (disk : Disk) (sources : Sources) :
    disk.location sources.events = disk.location sources.gameRoot ++ ["events"] :=
  disk.location_join sources.gameRoot (by decide)

theorem WritesOutside.place_ne (outside : WritesOutside disk setup) (name : String)
    (names : List String) :
    disk.location setup.settings.outputDirectory ++ [name] ≠
      disk.location setup.sources.events ++ names := by
  intro same
  rw [location_events] at same
  have longer := congrArg List.length same
  simp only [List.length_append, List.length_singleton] at longer
  refine outside (List.prefix_of_prefix_length_le ?_ (List.prefix_append _ [name]) (by omega))
  rw [same, List.append_assoc]
  exact List.prefix_append ..

namespace Loaded

theorem exists_read (game : Loaded disk source setup paths) :
    ∀ path ∈ paths, ∃ bytes, disk.read path = .ok bytes := fun _ member =>
  Disk.exists_read_of_mem_listFiles game.sound game.listed member

/-- A run that does not fail leaves every document in its place, but for those that others are
written over, and the findings of all. -/
theorem render_leaves (game : Loaded disk source setup paths)
    (apart : Undisturbed disk setup.settings.outputDirectory paths)
    (ended : (render console disk source).code ≠ ExitCode.failure) :
    Leaves setup.book console setup.settings.outputDirectory disk paths
      (render console disk source) := by
  obtain ⟨sound, prepared, listed⟩ := game
  rcases render_cases console prepared with failed |
    ⟨ready, paths', state, last, made, listed', ran, wrote, disk_eq, out_eq, code_eq⟩
  · exact absurd failed ended
  have adds := Disk.addsDirectories_of_makeDirectories made
  have ready_sound := Disk.isSound_of_makeDirectories made sound
  obtain rfl : paths = paths' :=
    Except.ok.inj ((adds.listFiles sound ready_sound listed).symm.trans listed')
  have read : ∀ path ∈ paths, ∃ bytes, ready.read path = .ok bytes := fun path member =>
    Disk.exists_read_of_mem_listFiles ready_sound listed' member
  have same := outlineAt_of_adds sound adds listed
  have kept := (Rendered.begin ..).run read (undisturbed_of_adds adds same apart) ran
  rw [List.nil_append] at kept
  have same_pages : pages setup.book ready paths = pages setup.book disk paths := pages_congr same
  obtain ⟨free, changed⟩ := Disk.changedAt_of_write wrote
  rw [kept.grows.location, adds.grows.location] at free changed
  refine ⟨?_, ?_, ?_, ?_⟩
  · rw [disk_eq]
    exact adds.grows.trans (kept.grows.trans (changed.grows free))
  · have files := kept.files
    rw [same_pages, lay_of_grows adds.grows,
      show ready.fileAt? = disk.fileAt? from funext adds.fileAt?] at files
    rw [disk_eq, ← files, ← same_pages, ← kept.findings]
    funext names
    rw [changed.fileAt?, Function.update_apply]
  · rw [out_eq, kept.rendered, kept.findings, same_pages]
  · have same_verdicts : (∀ path ∈ paths, accepts ready path = true) ↔
        ∀ path ∈ paths, accepts disk path = true :=
      forall₂_congr fun path member => by rw [accepts_congr (same path member)]
    rw [code_eq]
    simp only [kept.broken, same_verdicts]

theorem render_succeeds (game : Loaded disk source setup paths)
    (apart : Undisturbed disk setup.settings.outputDirectory paths)
    (writes : CanWrite disk setup.settings.outputDirectory (writtenNames disk paths)) :
    (render console disk source).code ≠ ExitCode.failure := by
  obtain ⟨sound, prepared, listed⟩ := game
  obtain ⟨ready, made, can_write⟩ := writes
  rw [writtenNames, List.forall_mem_cons] at can_write
  obtain ⟨findings_free, documents_free⟩ := can_write
  have adds := Disk.addsDirectories_of_makeDirectories made
  have ready_sound := Disk.isSound_of_makeDirectories made sound
  have listed' := adds.listFiles sound ready_sound listed
  have read : ∀ path ∈ paths, ∃ bytes, ready.read path = .ok bytes := fun path member =>
    Disk.exists_read_of_mem_listFiles ready_sound listed' member
  have same := outlineAt_of_adds sound adds listed
  have documents : ∀ path ∈ paths, accepts ready path = true → ∃ content written,
      ready.write setup.settings.outputDirectory (documentName path) content = .ok written := by
    intro path member accepted
    rw [accepts_congr (same path member)] at accepted
    exact ⟨.empty, documents_free _
      (List.mem_map_of_mem (List.mem_filter.mpr ⟨member, accepted⟩)) .empty⟩
  have begun := Rendered.begin setup.book setup.settings.outputDirectory ready
    (logLoaded console disk setup)
  have undisturbed := undisturbed_of_adds adds same apart
  obtain ⟨state, ran⟩ := begun.exists_run console read undisturbed documents
  have kept := begun.run read undisturbed ran
  obtain ⟨written, wrote⟩ := findings_free .empty
  have free : state.disk.node? (ready.location setup.settings.outputDirectory ++ [findingsFile]) ≠
      some .directory :=
    fun found => (Disk.changedAt_of_write wrote).1 (kept.directories _ found)
  obtain ⟨last, wrote'⟩ := kept.grows.exists_write wrote free (findingsText state.findings).toUTF8
  rw [render, prepared]
  simp only [made, listed', ran, wrote']
  split
  · show ExitCode.success ≠ ExitCode.failure
    decide
  · show ExitCode.badData ≠ ExitCode.failure
    decide

theorem undisturbed (game : Loaded disk source setup paths)
    (outside : WritesOutside disk setup) :
    Undisturbed disk setup.settings.outputDirectory paths := by
  obtain ⟨start, above, located, rfl⟩ := Disk.listFiles_ok_iff.mp game.listed
  refine List.pairwise_of_forall_mem_list fun earlier _ later member _ same => ?_
  obtain ⟨names, inside, rfl⟩ := List.mem_map.mp member
  have are_names := Disk.are_names_of_mem_trails game.sound located inside
  rw [disk.location_foldl_join are_names] at same
  exact outside.place_ne (documentName earlier) names same

theorem leaves (game : Loaded disk source setup paths) (outside : WritesOutside disk setup)
    (writes : CanWrite disk setup.settings.outputDirectory (writtenNames disk paths))
    (console : Console) :
    Leaves setup.book console setup.settings.outputDirectory disk paths
      (render console disk source) :=
  game.render_leaves (game.undisturbed outside)
    (game.render_succeeds (game.undisturbed outside) writes)

end Loaded

end EventWiki.CommandLine
