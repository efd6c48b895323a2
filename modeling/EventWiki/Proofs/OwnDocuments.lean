import EventWiki.Proofs.SmallGame

namespace EventWiki.CommandLine

/-! A document is named by the last name of its script alone, and the findings have a name as
well, so a later file can take the place of an earlier one. -/

variable {book : Rulebook} {output : String} {disk : Disk} {paths : List String}

def lastPage? (pages : List Page) (name : String) : Option Page :=
  (pages.filter fun page => documentName page.path = name).getLast?

theorem foldl_lay_name (pages : List Page) (files : List String → Option ByteArray)
    (name : String) :
    pages.foldl (lay disk output) files (disk.location output ++ [name]) =
      match lastPage? pages name with
      | some page => some page.document.toText.toUTF8
      | none => files (disk.location output ++ [name]) := by
  induction pages using List.reverseRecOn with
  | nil => rfl
  | append_singleton pages page ih =>
      rw [List.foldl_append, List.foldl_cons, List.foldl_nil, lay, lastPage?, List.filter_append]
      by_cases here : documentName page.path = name
      · simp [here, documentPlace]
      · rw [Function.update_of_ne (by simpa [documentPlace] using Ne.symm here), ih, lastPage?]
        simp [here]

theorem Leaves.file_at_name {console : Console} {outcome : Outcome}
    (leaves : Leaves book console output disk paths outcome) (name : String) :
    outcome.disk.fileAt? (disk.location output ++ [name]) =
      if name = findingsFile then some (findingsText (findingsOf (pages book disk paths))).toUTF8
      else
        match lastPage? (pages book disk paths) name with
        | some page => some page.document.toText.toUTF8
        | none => disk.fileAt? (disk.location output ++ [name]) := by
  rw [leaves.files, Function.update_apply, ← foldl_lay_name]
  simp

theorem lastPage?_of_distinct {pages : List Page} {page : Page}
    (distinct : (pages.map fun page => documentName page.path).Nodup) (member : page ∈ pages) :
    lastPage? pages (documentName page.path) = some page := by
  have matching : page ∈ pages.filter fun other =>
      documentName other.path = documentName page.path := by
    simp [member]
  obtain ⟨last, found⟩ := List.getLast?_isSome.mpr (List.ne_nil_of_mem matching) |>
    Option.isSome_iff_exists.mp
  have inside := List.mem_of_getLast? found
  rw [List.mem_filter, decide_eq_true_eq] at inside
  rw [lastPage?, found, List.inj_on_of_nodup_map distinct inside.1 member inside.2]

/-- Every script that can be read has its document in a file of its own. -/
structure HasOwnDocuments (book : Rulebook) (output : String) (before : Disk)
    (paths : List String) (after : Disk) : Prop where
  document : ∀ path ∈ paths, ∀ outline, outlineAt before path = .ok (.ok outline) →
    after.fileAt? (documentPlace before output path) =
      some (book.render outline .empty).1.toText.toUTF8
  apart : (paths.filter (accepts before)).Pairwise fun path other =>
    documentPlace before output path ≠ documentPlace before output other
  not_findings : ∀ path ∈ paths, accepts before path = true →
    documentPlace before output path ≠ before.location output ++ [findingsFile]

theorem documentPlace_ne_iff {path : String} {name : String} :
    documentPlace disk output path ≠ disk.location output ++ [name] ↔ documentName path ≠ name := by
  simp [documentPlace]

theorem mem_pages_of_outlineAt {path : String} (member : path ∈ paths) {outline : Outline}
    (ok : outlineAt disk path = .ok (.ok outline)) :
    ⟨path, (book.render outline .empty).1, (book.render outline .empty).2⟩ ∈
      pages book disk paths :=
  List.mem_filterMap.mpr ⟨path, member, page?_of_ok ok⟩

theorem map_documentName_pages (book : Rulebook) (disk : Disk) (paths : List String) :
    (pages book disk paths).map (fun page => documentName page.path) =
      (paths.filter (accepts disk)).map documentName := by
  rw [← map_path_pages book, List.map_map]
  rfl

/-- The scripts have documents of their own if and only if their names differ from each other and
from that of the findings. -/
theorem Leaves.hasOwnDocuments_iff {console : Console} {outcome : Outcome}
    (leaves : Leaves book console output disk paths outcome) :
    HasOwnDocuments book output disk paths outcome.disk ↔ (writtenNames disk paths).Nodup := by
  rw [writtenNames, List.nodup_cons]
  constructor
  · intro own
    constructor
    · intro member
      obtain ⟨path, inside, same⟩ := List.mem_map.mp member
      obtain ⟨listed, accepted⟩ := List.mem_filter.mp inside
      exact own.not_findings path listed accepted (congrArg (disk.location output ++ [·]) same)
    · refine List.pairwise_map.mpr (own.apart.imp fun differ same => differ ?_)
      rw [documentPlace, documentPlace, same]
  · rintro ⟨clear, distinct⟩
    have not_findings : ∀ path ∈ paths, accepts disk path = true →
        documentName path ≠ findingsFile := by
      intro path listed accepted same
      exact clear (same ▸ List.mem_map_of_mem (List.mem_filter.mpr ⟨listed, accepted⟩))
    refine ⟨?_, ?_, ?_⟩
    · intro path listed outline ok
      have last := lastPage?_of_distinct (map_documentName_pages book disk paths ▸ distinct)
        (mem_pages_of_outlineAt listed ok)
      rw [documentPlace, leaves.file_at_name,
        if_neg (not_findings path listed (accepts_iff.mpr ⟨outline, ok⟩)), last]
    · exact (List.pairwise_map.mp distinct).imp fun differ => documentPlace_ne_iff.mpr differ
    · exact fun path listed accepted =>
        documentPlace_ne_iff.mpr (not_findings path listed accepted)

theorem documentName_foldl_join {path : String} {names : List String} (filled : names ≠ [])
    (are_names : ∀ name ∈ names, Path.isName name = true) :
    documentName (names.foldl Path.join path) = names.getLast filled := by
  obtain ⟨directory, joined⟩ := Disk.exists_join_of_names path filled
  rw [joined, documentName, Path.fileName?_join directory (are_names _ (List.getLast_mem filled)),
    Option.getD_some]

/-- Event files with different names are not written over before they are read, even if they are
rendered into their own directory. -/
theorem undisturbed_of_distinct {directory : String} (sound : disk.isSound = true)
    (listed : disk.listFiles directory = .ok paths) (distinct : (paths.map documentName).Nodup) :
    Undisturbed disk output paths := by
  obtain ⟨start, above, located, rfl⟩ := Disk.listFiles_ok_iff.mp listed
  cases start with
  | file bytes => exact List.pairwise_singleton ..
  | directory entries =>
      refine (List.pairwise_map.mp distinct).imp_of_mem fun _ member differ _ same => ?_
      obtain ⟨names, inside, rfl⟩ := List.mem_map.mp member
      obtain ⟨_, _, stands, _⟩ := Disk.read_listed sound located inside
      have filled : names ≠ [] := by
        obtain ⟨name, _, rest, _, _, rfl⟩ := Disk.Entry.mem_trails_directory_iff.mp inside
        exact List.cons_ne_nil _ _
      -- A document in the place of the later file has the name of that file.
      rw [documentPlace, stands, ← List.dropLast_append_getLast filled, ← List.append_assoc] at same
      rw [documentName_foldl_join filled (Disk.are_names_of_mem_trails sound located inside)]
        at differ
      exact differ (List.singleton_inj.mp (List.append_inj_right' same rfl))

variable {console : Console} {source : SourceOptions} {setup : Setup}

/-- Rendering event files with different names, none of which is that of the findings, leaves every
document in a file of its own. -/
theorem own_documents_of_distinct_names (game : Loaded disk source setup paths)
    (ended : (render console disk source).code = ExitCode.success ∨
      (render console disk source).code = ExitCode.badData)
    (distinct : (findingsFile :: paths.map documentName).Nodup) :
    HasOwnDocuments setup.book setup.settings.outputDirectory disk paths
      (render console disk source).disk := by
  have undisturbed : Undisturbed disk setup.settings.outputDirectory paths :=
    undisturbed_of_distinct game.sound game.listed (List.nodup_cons.mp distinct).2
  refine (game.render_leaves undisturbed
    ((render_ended_iff game.prepared).mpr ended)).hasOwnDocuments_iff.mpr ?_
  exact distinct.sublist (List.filter_sublist.map documentName |>.cons_cons findingsFile)

def twoScripts : Disk.Entries :=
  plainFiles [("a.txt", "trigger = \x7b is_year = 5 \x7d".toUTF8),
    ("b.txt", "option = \x7b name = end \x7d".toUTF8)]

theorem loaded_twoScripts :
    Loaded (smallGame twoScripts) smallGameOptions smallGameSetup
      ["game/events/a.txt", "game/events/b.txt"] :=
  loaded_smallGame (by decide +kernel) (listFiles_smallGame_of_files (by decide))

theorem own_documents_of_twoScripts :
    HasOwnDocuments smallGameSetup.book "output" (smallGame twoScripts)
      ["game/events/a.txt", "game/events/b.txt"]
      (render plainConsole (smallGame twoScripts) smallGameOptions).disk :=
  own_documents_of_distinct_names loaded_twoScripts
    ((render_ended_iff loaded_twoScripts.prepared).mp (render_smallGame_ended loaded_twoScripts))
    (by decide)

def sameNames : Disk.Entries :=
  [("a", .directory (plainFiles [("x.txt", "trigger = \x7b is_year = 5 \x7d".toUTF8)])),
    ("b", .directory (plainFiles [("x.txt", "option = \x7b name = end \x7d".toUTF8)]))]

theorem loaded_sameNames :
    Loaded (smallGame sameNames) smallGameOptions smallGameSetup
      ["game/events/a/x.txt", "game/events/b/x.txt"] := by
  refine loaded_smallGame (by decide +kernel) ?_
  rw [listFiles_smallGame, sameNames, Disk.Entry.trails_of_sorted (by decide)]
  simp only [plainFiles, List.map_cons, List.map_nil, List.flatMap_cons, List.flatMap_nil]
  rw [Disk.Entry.trails_of_sorted (by decide), Disk.Entry.trails_of_sorted (by decide)]
  rfl

/-- The run succeeds, but the document of the second script stands where that of the first was. -/
theorem not_own_documents_of_same_names :
    (render plainConsole (smallGame sameNames) smallGameOptions).code = ExitCode.success ∧
      (render plainConsole (smallGame sameNames) smallGameOptions).disk.fileAt?
        ["output", "x.txt"] = some "\n== option ==\n\n".toUTF8 ∧
      ¬ HasOwnDocuments smallGameSetup.book "output" (smallGame sameNames)
        ["game/events/a/x.txt", "game/events/b/x.txt"]
        (render plainConsole (smallGame sameNames) smallGameOptions).disk := by
  have leaves := leaves_smallGame plainConsole loaded_sameNames
  refine ⟨?_, ?_, fun own => ?_⟩
  · rw [leaves.code]
    decide +kernel
  · exact (leaves.file_at_name "x.txt").trans (by decide +kernel)
  · exact absurd (leaves.hasOwnDocuments_iff.mp own) (by decide +kernel)

end EventWiki.CommandLine
