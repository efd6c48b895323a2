import EventWiki.Proofs.ByteOrder
import EventWiki.Proofs.EventFiles

namespace EventWiki

namespace Path

variable {name : String} {names : List String}

/-- The components of a path. A dot counts as one only at the start of a relative path. -/
def components (path : String) : List String :=
  (if isAbsolute path then ["/"] else if (steps path).head? = some "." then ["."] else []) ++
    (steps path).filter (!isStill ·)

/-- A path stands before another if the bytes of its component do where the two first differ, or if
the other one goes on from it. -/
def Before (left right : String) : Prop :=
  (components left).map Text.bytes < (components right).map Text.bytes

theorem components_join {directory : String} (filled : directory ≠ "")
    (is_name : isName name = true) :
    components (join directory name) = components directory ++ [name] := by
  obtain ⟨front, front_filled, joined, own⟩ := exists_steps_join filled is_name
  have kept : [name].filter (!isStill ·) = [name] := by
    simp [(isName_iff.mp is_name).1]
  have same_head : (steps directory).head? = front.head? := by
    rcases own with own | own
    · rw [own]
    · rw [own, List.head?_append_of_ne_nil _ front_filled]
  have same_names : (steps directory).filter (!isStill ·) = front.filter (!isStill ·) := by
    rcases own with own | own
    · rw [own]
    · rw [own, List.filter_append]
      exact List.append_nil _
  rw [components, components, isAbsolute_join filled is_name, joined, same_head, same_names,
    List.head?_append_of_ne_nil _ front_filled, List.filter_append, kept, List.append_assoc]

theorem components_foldl_join {directory : String} (filled : directory ≠ "")
    (are_names : ∀ name ∈ names, isName name = true) :
    components (names.foldl join directory) = components directory ++ names := by
  induction names generalizing directory with
  | nil => rw [List.foldl_nil, List.append_nil]
  | cons name rest ih =>
      rw [List.forall_mem_cons] at are_names
      rw [List.foldl_cons, ih (join_ne_empty directory are_names.1) are_names.2,
        components_join filled are_names.1, List.append_assoc, List.singleton_append]

theorem map_bytes_lt {left right : List String} (less : left < right) :
    left.map Text.bytes < right.map Text.bytes := by
  induction less with
  | nil => exact List.nil_lt_cons ..
  | rel less => exact List.cons_lt_cons_iff.mpr (.inl (Text.bytes_lt_bytes less))
  | cons _ ih => exact List.cons_lt_cons_iff.mpr (.inr ⟨rfl, ih⟩)

theorem before_of_names {directory : String} {others : List String} (filled : directory ≠ "")
    (are_names : ∀ name ∈ names, isName name = true)
    (others_are_names : ∀ name ∈ others, isName name = true) (less : names < others) :
    Before (names.foldl join directory) (others.foldl join directory) := by
  rw [Before, components_foldl_join filled are_names,
    components_foldl_join filled others_are_names]
  exact map_bytes_lt (List.append_left_lt less)

end Path

namespace Disk

variable {disk : Disk} {path : String} {names : List String} {files : List String}

/-- The files below a path, each under the path that its names lead to, in the order of these. -/
structure Lists (disk : Disk) (path : String) (files : List String) : Prop where
  ordered : files.Pairwise Path.Before
  mem_iff : ∀ file, file ∈ files ↔ ∃ names : List String,
    (∀ name ∈ names, Path.isName name = true) ∧ file = names.foldl Path.join path ∧
      disk.isFile file = true

theorem Lists.isFile (lists : disk.Lists path files) {file : String} (member : file ∈ files) :
    disk.isFile file = true := by
  obtain ⟨_, _, _, is_file⟩ := (lists.mem_iff file).mp member
  exact is_file

theorem find_ok_iff {entry : Entry} :
    disk.find path = .ok entry ↔ ∃ place, disk.locate path = .ok (entry, place) := by
  rw [find]
  cases disk.locate path with
  | error error => simp [Except.map]
  | ok reached => simp [Except.map, Prod.ext_iff]

theorem isFile_iff : disk.isFile path = true ↔
    ∃ bytes place, disk.locate path = .ok (.file bytes, place) := by
  simp only [isFile, ← find_ok_iff]
  split <;> simp_all

theorem isDirectory_iff : disk.isDirectory path = true ↔
    ∃ entries place, disk.locate path = .ok (.directory entries, place) := by
  simp only [isDirectory, ← find_ok_iff]
  split <;> simp_all

theorem ne_empty_of_locate {reached : Entry × Above} (located : disk.locate path = .ok reached) :
    path ≠ "" := by
  rintro rfl
  simp [locate] at located

theorem isFile_foldl_join_iff {start : Entry} {above : Above} (sound : disk.isSound = true)
    (located : disk.locate path = .ok (start, above))
    (are_names : ∀ name ∈ names, Path.isName name = true) :
    disk.isFile (names.foldl Path.join path) = true ↔ names ∈ start.trails := by
  rw [isFile_iff]
  constructor
  · rintro ⟨bytes, place, reached⟩
    have stands := entryAt?_of_locate reached
    rw [disk.location_foldl_join are_names, entryAt?_append, entryAt?_of_locate located,
      Option.bind_some] at stands
    exact (Entry.mem_trails_iff (isSound_of_locate sound located)).mpr ⟨bytes, stands⟩
  · intro listed
    obtain ⟨bytes, there⟩ := (Entry.mem_trails_iff (isSound_of_locate sound located)).mp listed
    obtain ⟨place, reached⟩ := exists_locate_foldl_join located are_names there
    exact ⟨bytes, place, reached⟩

theorem lists_of_listFiles (sound : disk.isSound = true)
    (listed : disk.listFiles path = .ok files) : disk.Lists path files := by
  obtain ⟨start, above, located, rfl⟩ := listFiles_ok_iff.mp listed
  have are_names (names) (member : names ∈ start.trails) :=
    are_names_of_mem_trails sound located member
  constructor
  · have sorted := Entry.trails_sorted (isSound_of_locate sound located)
    refine List.pairwise_map.mpr (sorted.imp_of_mem fun {left right} first second less => ?_)
    exact Path.before_of_names (ne_empty_of_locate located) (are_names left first)
      (are_names right second) less
  · intro file
    rw [List.mem_map]
    constructor
    · rintro ⟨names, member, rfl⟩
      exact ⟨names, are_names names member, rfl,
        (isFile_foldl_join_iff sound located (are_names names member)).mpr member⟩
    · rintro ⟨names, are_names, rfl, is_file⟩
      exact ⟨names, (isFile_foldl_join_iff sound located are_names).mp is_file, rfl⟩

theorem lists_nil_of_error {error : FileError} (filled : path ≠ "")
    (nowhere : disk.locate path = .error error) : disk.Lists path [] := by
  refine ⟨.nil, fun file => ⟨fun member => absurd member List.not_mem_nil, ?_⟩⟩
  rintro ⟨names, are_names, rfl, is_file⟩
  obtain ⟨bytes, place, reached⟩ := isFile_iff.mp is_file
  obtain ⟨start, located⟩ := exists_locate_of_foldl_join filled are_names reached
  exact absurd (nowhere.symm.trans located) (by simp)

theorem count_location_of_listFiles (sound : disk.isSound = true)
    (listed : disk.listFiles path = .ok files) (place : List String) :
    (files.map disk.location).count place =
      if disk.location path <+: place ∧ (disk.fileAt? place).isSome = true then 1 else 0 := by
  obtain ⟨start, above, located, rfl⟩ := listFiles_ok_iff.mp listed
  have places : (start.trails.map fun names => names.foldl Path.join path).map disk.location =
      start.trails.map (disk.location path ++ ·) := by
    rw [List.map_map]
    exact List.map_congr_left fun names member =>
      disk.location_foldl_join (are_names_of_mem_trails sound located member)
  have apart : (start.trails.map (disk.location path ++ ·)).Nodup := by
    have sorted := Entry.trails_sorted (isSound_of_locate sound located)
    refine List.Nodup.map (List.append_right_injective _) (sorted.imp fun {left right} less => ?_)
    rintro rfl
    exact List.lt_irrefl left less
  have listed_iff : place ∈ start.trails.map (disk.location path ++ ·) ↔
      disk.location path <+: place ∧ (disk.fileAt? place).isSome = true := by
    rw [List.mem_map]
    constructor
    · rintro ⟨names, member, rfl⟩
      obtain ⟨bytes, there⟩ := (mem_trails_iff_fileAt? sound located).mp member
      exact ⟨List.prefix_append .., by rw [there, Option.isSome_some]⟩
    · rintro ⟨⟨names, rfl⟩, there⟩
      exact ⟨names, (mem_trails_iff_fileAt? sound located).mpr (Option.isSome_iff_exists.mp there),
        rfl⟩
  rw [places]
  split
  · next below => exact List.count_eq_one_of_mem apart (listed_iff.mpr below)
  · next elsewhere => exact List.count_eq_zero.mpr (mt listed_iff.mp elsewhere)

/-- Every file below a directory is listed once, no directory is, and the listing is strictly in the
order of the paths; of a file just its own path is listed. -/
theorem listFiles_ordered (sound : disk.isSound = true) :
    (disk.isFile path = true → disk.listFiles path = .ok [path]) ∧
      (disk.isDirectory path = true → ∃ files, disk.listFiles path = .ok files ∧
        disk.Lists path files ∧ ∀ place, (files.map disk.location).count place =
          if disk.location path <+: place ∧ (disk.fileAt? place).isSome = true then 1 else 0) := by
  constructor
  · intro is_file
    obtain ⟨bytes, above, located⟩ := isFile_iff.mp is_file
    exact listFiles_ok_iff.mpr ⟨.file bytes, above, located, rfl⟩
  · intro is_directory
    obtain ⟨entries, above, located⟩ := isDirectory_iff.mp is_directory
    have listed := listFiles_ok_iff.mpr ⟨_, above, located, rfl⟩
    exact ⟨_, listed, lists_of_listFiles sound listed, count_location_of_listFiles sound listed⟩

/-- A directory beside a file whose name begins with that of the directory. As plain texts the two
paths stand the other way round. -/
def besideEntries : Entries :=
  [("a.txt", .file .empty), ("a", .directory [("b", .file .empty)])]

def besideDirectory : Disk :=
  ⟨[("game", .directory besideEntries)], []⟩

theorem listFiles_besideDirectory :
    besideDirectory.isSound = true ∧ besideDirectory.isDirectory "game" = true ∧
      besideDirectory.listFiles "game" = .ok ["game/a/b", "game/a.txt"] ∧
      besideDirectory.Lists "game" ["game/a/b", "game/a.txt"] ∧
      "game/a.txt" < "game/a/b" := by
  have sound : besideDirectory.isSound = true := by decide
  have is_directory : besideDirectory.isDirectory "game" = true := by decide
  have trails : (Entry.directory besideEntries).trails = [["a", "b"], ["a.txt"]] := by
    have order : ¬ "a.txt" ≤ "a" := by decide
    simp [besideEntries, Entry.trails, Entry.trailsOfEach, List.mergeSort,
      List.MergeSort.Internal.splitInTwo, order]
  have listed : besideDirectory.listFiles "game" = .ok ["game/a/b", "game/a.txt"] :=
    listFiles_ok_iff.mpr ⟨.directory besideEntries, _, rfl, by rw [trails]; decide⟩
  obtain ⟨files, again, lists, _⟩ := (listFiles_ordered sound).2 is_directory
  obtain rfl := Except.ok.inj (again.symm.trans listed)
  exact ⟨sound, is_directory, listed, lists, by decide⟩

end Disk

end EventWiki
