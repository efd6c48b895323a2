import EventWiki.CommandLine.Commands
import EventWiki.Proofs.DiskListing

namespace EventWiki

namespace Disk

variable {disk wider : Disk} {path : String} {names : List String} {paths : List String}

theorem eq_of_sorted {left right : List (List String)} (left_sorted : left.Pairwise (· < ·))
    (right_sorted : right.Pairwise (· < ·)) (same : ∀ names, names ∈ left ↔ names ∈ right) :
    left = right := by
  have distinct {trails : List (List String)} (sorted : trails.Pairwise (· < ·)) : trails.Nodup :=
    sorted.imp fun {first second} before => by
      rintro rfl
      exact List.lt_irrefl first before
  refine List.Perm.eq_of_pairwise (fun first second _ _ before after => ?_) left_sorted right_sorted
    ((List.perm_ext_iff_of_nodup (distinct left_sorted) (distinct right_sorted)).mpr same)
  exact absurd (List.lt_trans before after) (List.lt_irrefl first)

theorem listFiles_ok_iff :
    disk.listFiles path = .ok paths ↔ ∃ start above, disk.locate path = .ok (start, above) ∧
      paths = start.trails.map fun names => names.foldl Path.join path := by
  rw [listFiles, filesUnder, find]
  cases disk.locate path with
  | error error => simp [Except.map, Except.mapError]
  | ok reached =>
      obtain ⟨start, above⟩ := reached
      simp [Except.map, Except.mapError, Entry.files_eq, eq_comm]

theorem isSound_of_locate {start : Entry} {above : Above} (sound : disk.isSound = true)
    (located : disk.locate path = .ok (start, above)) : start.isSound = true :=
  (leadsTo_of_locate located).1.isSound (Bool.and_eq_true_iff.mp sound).1

theorem mem_trails_iff_fileAt? {start : Entry} {above : Above} (sound : disk.isSound = true)
    (located : disk.locate path = .ok (start, above)) :
    names ∈ start.trails ↔ ∃ bytes, disk.fileAt? (disk.location path ++ names) = some bytes := by
  rw [Entry.mem_trails_iff (isSound_of_locate sound located)]
  simp only [fileAt?_eq_some_iff, node?, entryAt?_append, entryAt?_of_locate located,
    Option.bind_some, Option.map_eq_some_iff, Entry.node_eq_file_iff]
  exact exists_congr fun bytes => by simp

theorem are_names_of_mem_trails {start : Entry} {above : Above} (sound : disk.isSound = true)
    (located : disk.locate path = .ok (start, above)) (member : names ∈ start.trails) :
    ∀ name ∈ names, Path.isName name = true := by
  have start_sound := isSound_of_locate sound located
  obtain ⟨bytes, there⟩ := (Entry.mem_trails_iff start_sound).mp member
  exact (Entry.isSound_of_at? start_sound there).2

theorem read_listed {start : Entry} {above : Above} (sound : disk.isSound = true)
    (located : disk.locate path = .ok (start, above)) (member : names ∈ start.trails) :
    ∃ stored, disk.fileAt? (disk.location path ++ names) = some stored ∧
      disk.location (names.foldl Path.join path) = disk.location path ++ names ∧
      disk.read (names.foldl Path.join path) = .ok stored.data.toList := by
  have are_names := are_names_of_mem_trails sound located member
  obtain ⟨bytes, there⟩ := (Entry.mem_trails_iff (isSound_of_locate sound located)).mp member
  obtain ⟨place, reached⟩ := exists_locate_foldl_join located are_names there
  have stands : disk.location (names.foldl Path.join path) = disk.location path ++ names :=
    disk.location_foldl_join are_names
  refine ⟨bytes, fileAt?_eq_some_iff.mpr ?_, stands, read_ok_iff.mpr ⟨bytes, place, reached, rfl⟩⟩
  rw [node?, ← stands, entryAt?_of_locate reached, Option.map_some, Entry.node_file]

theorem exists_read_of_mem_listFiles {listed : String} (sound : disk.isSound = true)
    (ok : disk.listFiles path = .ok paths) (member : listed ∈ paths) :
    ∃ bytes, disk.read listed = .ok bytes := by
  obtain ⟨start, above, located, rfl⟩ := listFiles_ok_iff.mp ok
  obtain ⟨names, inside, rfl⟩ := List.mem_map.mp member
  obtain ⟨stored, _, _, read⟩ := read_listed sound located inside
  exact ⟨_, read⟩

theorem exists_join_of_names (path : String) (filled : names ≠ []) :
    ∃ directory, names.foldl Path.join path = Path.join directory (names.getLast filled) := by
  refine ⟨names.dropLast.foldl Path.join path, ?_⟩
  conv_lhs => rw [← List.dropLast_append_getLast filled]
  rw [List.foldl_append, List.foldl_cons, List.foldl_nil]

theorem AddsDirectories.listFiles (adds : disk.AddsDirectories wider) (sound : disk.isSound = true)
    (wider_sound : wider.isSound = true) (listed : disk.listFiles path = .ok paths) :
    wider.listFiles path = .ok paths := by
  obtain ⟨start, above, located, rfl⟩ := listFiles_ok_iff.mp listed
  obtain ⟨start', above', located'⟩ := adds.grows.exists_locate located
  refine listFiles_ok_iff.mpr ⟨start', above', located', ?_⟩
  have same : start.trails = start'.trails :=
    eq_of_sorted (Entry.trails_sorted (isSound_of_locate sound located))
      (Entry.trails_sorted (isSound_of_locate wider_sound located')) fun names => by
        rw [mem_trails_iff_fileAt? sound located, mem_trails_iff_fileAt? wider_sound located',
          adds.grows.location]
        simp only [adds.fileAt?]
  rw [same]

theorem AddsDirectories.read (adds : disk.AddsDirectories wider) {bytes : List UInt8}
    (ok : disk.read path = .ok bytes) : wider.read path = .ok bytes := by
  obtain ⟨stored, there, rfl⟩ := exists_fileAt?_of_read ok
  exact adds.grows.read ok ((adds.fileAt? _).trans there)

end Disk

namespace CommandLine

variable {disk wider : Disk} {path : String} {paths : List String} {bytes : List UInt8}

def accepts (disk : Disk) (path : String) : Bool :=
  match outlineAt disk path with
  | .ok (.ok _) => true
  | _ => false

theorem outlineAt_of_read (ok : disk.read path = .ok bytes) :
    outlineAt disk path = .ok (outlineOrReport (Text.decodeScript bytes)) := by
  rw [outlineAt, Disk.readScript, Disk.readBytes, ok]
  rfl

theorem accepts_iff :
    accepts disk path = true ↔ ∃ outline, outlineAt disk path = .ok (.ok outline) := by
  rw [accepts]
  split
  · next outline read => simp [read]
  · next other =>
    simp only [Bool.false_eq_true, false_iff, not_exists]
    exact other

theorem outlineOrReport_eq_ok_iff {text : String} {outline : Outline} :
    outlineOrReport text = .ok outline ↔ Script.parse text = .ok outline := by
  rw [outlineOrReport, Script.parse]
  cases Script.outline (Script.normalize text) <;> simp [Except.mapError]

theorem accepts_iff_of_read (ok : disk.read path = .ok bytes) :
    accepts disk path = true ↔ ∃ outline, Script.parse (Text.decodeScript bytes) = .ok outline := by
  simp only [accepts_iff, outlineAt_of_read ok, Except.ok.injEq, outlineOrReport_eq_ok_iff]

/-- A script that can be read, with the document and the findings that it is rendered to. -/
structure Page where
  path : String
  document : Document
  findings : Findings

def page? (book : Rulebook) (disk : Disk) (path : String) : Option Page :=
  match outlineAt disk path with
  | .ok (.ok outline) => some ⟨path, (book.render outline .empty).1, (book.render outline .empty).2⟩
  | _ => none

def pages (book : Rulebook) (disk : Disk) (paths : List String) : List Page :=
  paths.filterMap (page? book disk)

theorem page?_of_ok {book : Rulebook} {outline : Outline}
    (ok : outlineAt disk path = .ok (.ok outline)) :
    page? book disk path =
      some ⟨path, (book.render outline .empty).1, (book.render outline .empty).2⟩ := by
  rw [page?, ok]

theorem page?_of_rejected {book : Rulebook} (rejected : accepts disk path = false) :
    page? book disk path = none := by
  rw [page?]
  split
  · next outline ok =>
    rw [Bool.eq_false_iff] at rejected
    exact absurd (accepts_iff.mpr ⟨outline, ok⟩) rejected
  · rfl

theorem path_of_page? {book : Rulebook} {page : Page} (found : page? book disk path = some page) :
    page.path = path := by
  rw [page?] at found
  split at found
  · rw [← Option.some.inj found]
  · simp at found

theorem page?_congr {book : Rulebook} (same : outlineAt wider path = outlineAt disk path) :
    page? book wider path = page? book disk path := by
  rw [page?, page?, same]

theorem accepts_congr (same : outlineAt wider path = outlineAt disk path) :
    accepts wider path = accepts disk path := by
  rw [accepts, accepts, same]

theorem pages_congr {book : Rulebook}
    (same : ∀ path ∈ paths, outlineAt wider path = outlineAt disk path) :
    pages book wider paths = pages book disk paths :=
  List.filterMap_congr fun path member => page?_congr (same path member)

theorem map_path_pages (book : Rulebook) (disk : Disk) (paths : List String) :
    (pages book disk paths).map Page.path = paths.filter (accepts disk) := by
  induction paths with
  | nil => rfl
  | cons path rest ih =>
      rw [pages, List.filterMap_cons, List.filter_cons]
      cases found : page? book disk path with
      | none =>
          rw [if_neg, ← pages, ih]
          intro accepted
          obtain ⟨outline, ok⟩ := accepts_iff.mp accepted
          simp [page?_of_ok ok] at found
      | some page =>
          rw [if_pos, ← pages, List.map_cons, ih, path_of_page? found]
          by_contra rejected
          simp [page?_of_rejected (Bool.eq_false_iff.mpr rejected)] at found

end CommandLine

end EventWiki
