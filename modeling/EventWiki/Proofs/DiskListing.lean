import EventWiki.Proofs.DiskChanges
import EventWiki.Proofs.PhysicalLines

namespace EventWiki

namespace Path

def isName (name : String) : Bool :=
  !isStill name && name != ".." && !name.toList.contains '/'

variable {name : String}

theorem isName_iff :
    isName name = true ↔ isStill name = false ∧ name ≠ ".." ∧ '/' ∉ name.toList := by
  simp [isName, and_assoc]

theorem follow_of_isName (is_name : isName name = true) (names : List String) :
    follow names name = names ++ [name] := by
  obtain ⟨moves, down, _⟩ := isName_iff.mp is_name
  rw [follow, if_neg (by simp [moves]), if_neg down]

theorem follow_empty (names : List String) : follow names "" = names := rfl

theorem not_isAbsolute_of_isName (is_name : isName name = true) : isAbsolute name = false := by
  obtain ⟨_, _, no_slash⟩ := isName_iff.mp is_name
  rw [isAbsolute, beq_eq_false_iff_ne]
  exact fun slash => no_slash (List.mem_of_mem_head? (Option.mem_def.mpr slash))

theorem steps_of_isName (is_name : isName name = true) : steps name = [name] := by
  rw [steps, Text.splitAt_of_not_mem (isName_iff.mp is_name).2.2, List.map_singleton,
    String.ofList_toList]

theorem isAbsolute_join {directory : String} (filled : directory ≠ "")
    (is_name : isName name = true) : isAbsolute (join directory name) = isAbsolute directory := by
  have head (rest : List Char) : (directory.toList ++ rest).head? = directory.toList.head? :=
    List.head?_append_of_ne_nil _ (by simpa using filled)
  rw [join, not_isAbsolute_of_isName is_name, Bool.false_or, if_neg (by simpa using filled)]
  split
  · rw [isAbsolute, isAbsolute, String.toList_append, head]
  · rw [isAbsolute, isAbsolute, String.toList_append, String.toList_append, List.append_assoc, head]

/-- A name is the last step of a path that it was added to. Behind the last slash of a directory
stands an empty step, which the name takes over. -/
theorem exists_steps_join {directory : String} (filled : directory ≠ "")
    (is_name : isName name = true) : ∃ front, front ≠ [] ∧
      steps (join directory name) = front ++ [name] ∧
        (steps directory = front ∨ steps directory = front ++ [""]) := by
  rw [join, not_isAbsolute_of_isName is_name, Bool.false_or, if_neg (by simpa using filled)]
  split
  · next slash =>
    obtain ⟨front, text⟩ := List.getLast?_eq_some_iff.mp (eq_of_beq slash)
    have own : steps directory = (Text.splitAt '/' front).map String.ofList ++ [""] := by
      rw [steps, text, Text.splitAt_append_cons, List.map_append, Text.splitAt_nil]
      rfl
    have joined : steps (directory ++ name) =
        (Text.splitAt '/' front).map String.ofList ++ [name] := by
      rw [steps, String.toList_append, text, List.append_assoc, List.singleton_append,
        Text.splitAt_append_cons, List.map_append, ← steps, steps_of_isName is_name]
    exact ⟨_, by simpa using Text.splitAt_ne_nil '/' front, joined, .inr own⟩
  · have joined : steps (directory ++ "/" ++ name) = steps directory ++ [name] := by
      rw [steps, String.toList_append, String.toList_append, List.append_assoc]
      change (Text.splitAt '/' (directory.toList ++ '/' :: name.toList)).map String.ofList = _
      rw [Text.splitAt_append_cons, List.map_append, ← steps, ← steps, steps_of_isName is_name]
    exact ⟨_, by simpa [steps] using Text.splitAt_ne_nil '/' directory.toList, joined, .inl rfl⟩

theorem exists_stepsFrom_join (working : List String) (directory : String)
    (is_name : isName name = true) : ∃ front,
      stepsFrom working (join directory name) = front ++ [name] ∧
        (stepsFrom working directory = front ∨ stepsFrom working directory = front ++ [""]) := by
  by_cases empty : directory = ""
  · subst empty
    refine ⟨working, ?_, .inr rfl⟩
    rw [join_empty, stepsFrom, not_isAbsolute_of_isName is_name, if_neg Bool.false_ne_true,
      steps_of_isName is_name]
  · obtain ⟨front, _, joined, own⟩ := exists_steps_join empty is_name
    rw [stepsFrom, stepsFrom, isAbsolute_join empty is_name, joined]
    split
    · exact ⟨front, rfl, own⟩
    · refine ⟨working ++ front, (List.append_assoc ..).symm, ?_⟩
      rcases own with own | own
      · exact .inl (by rw [own])
      · exact .inr (by rw [own, List.append_assoc])

theorem fileName?_join (directory : String) (is_name : isName name = true) :
    fileName? (join directory name) = some name := by
  obtain ⟨front, joined, _⟩ := exists_stepsFrom_join [] directory is_name
  obtain ⟨moves, down, _⟩ := isName_iff.mp is_name
  have steps_eq : stepsFrom [] (join directory name) = steps (join directory name) := by
    rw [stepsFrom]
    split <;> rfl
  rw [steps_eq] at joined
  simp [fileName?, joined, moves, down]

theorem join_ne_empty (directory : String) (is_name : isName name = true) :
    join directory name ≠ "" := by
  intro empty
  have named := fileName?_join directory is_name
  rw [empty] at named
  simp [fileName?, steps, isStill] at named

end Path

namespace Disk

variable {disk wider : Disk} {path name : String} {names : List String}

theorem location_join (disk : Disk) (directory : String) (is_name : Path.isName name = true) :
    disk.location (Path.join directory name) = disk.location directory ++ [name] := by
  obtain ⟨front, joined, own⟩ :=
    Path.exists_stepsFrom_join disk.working directory is_name
  rw [location, location, joined, Path.names_eq, Path.names_eq, List.foldl_append,
    List.foldl_cons, List.foldl_nil, Path.follow_of_isName is_name]
  rcases own with own | own
  · rw [own]
  · rw [own, List.foldl_append, List.foldl_cons, List.foldl_nil, Path.follow_empty]

theorem location_foldl_join (disk : Disk) {directory : String}
    (are_names : ∀ name ∈ names, Path.isName name = true) :
    disk.location (names.foldl Path.join directory) = disk.location directory ++ names := by
  induction names generalizing directory with
  | nil => rw [List.foldl_nil, List.append_nil]
  | cons name rest ih =>
      rw [List.forall_mem_cons] at are_names
      rw [List.foldl_cons, ih are_names.2, disk.location_join directory are_names.1,
        List.append_assoc, List.singleton_append]

theorem walk_name {entries : Entries} {above : Above} (is_name : Path.isName name = true)
    (rest : List String) :
    walk (.directory entries) above (name :: rest) =
      match entries.lookup name with
      | some next => walk next ((name, entries) :: above) rest
      | none => .error .notFound := by
  obtain ⟨moves, down, _⟩ := Path.isName_iff.mp is_name
  rewrite [walk_cons, if_neg (by simp [moves]), if_neg down]
  rfl

theorem exists_locate_join {directory : String} {entries : Entries} {above : Above} {entry : Entry}
    (is_name : Path.isName name = true)
    (located : walk (.directory disk.root) [] (Path.stepsFrom disk.working directory) =
      .ok (.directory entries, above))
    (found : entries.lookup name = some entry) :
    disk.locate (Path.join directory name) = .ok (entry, (name, entries) :: above) := by
  obtain ⟨front, joined, own⟩ :=
    Path.exists_stepsFrom_join disk.working directory is_name
  rw [locate, if_neg (by simpa using Path.join_ne_empty directory is_name), joined]
  have arrived : walk (.directory disk.root) [] front = .ok (.directory entries, above) := by
    rcases own with own | own
    · rw [← own, located]
    · rw [own] at located
      cases walked : walk (.directory disk.root) [] front with
      | error error => simp [walk_append, walked, Except.bind] at located
      | ok reached =>
          obtain ⟨last, place⟩ := reached
          rw [walk_append_of_ok walked] at located
          cases last with
          | file bytes => simp [walk] at located
          | directory below =>
              rw [walk_cons, if_pos (by rfl), walk] at located
              exact located
  rw [walk_append_of_ok arrived, walk_name is_name, found]
  rfl

theorem exists_locate_foldl_join {directory : String} {start found : Entry} {above : Above}
    (located : disk.locate directory = .ok (start, above))
    (are_names : ∀ name ∈ names, Path.isName name = true) (there : start.at? names = some found) :
    ∃ place, disk.locate (names.foldl Path.join directory) = .ok (found, place) := by
  induction names generalizing directory start above with
  | nil =>
      rw [Entry.at?_nil, Option.some.injEq] at there
      exact ⟨above, there ▸ located⟩
  | cons name rest ih =>
      rw [List.forall_mem_cons] at are_names
      cases start with
      | file bytes => simp at there
      | directory entries =>
          rw [Entry.at?_directory_cons] at there
          obtain ⟨next, named, there⟩ := Option.bind_eq_some_iff.mp there
          rw [locate] at located
          split at located
          · simp at located
          · exact ih (exists_locate_join are_names.1 located named) are_names.2 there

theorem exists_locate_of_join {directory : String} (filled : directory ≠ "")
    (is_name : Path.isName name = true) {reached : Entry × Above}
    (located : disk.locate (Path.join directory name) = .ok reached) :
    ∃ start, disk.locate directory = .ok start := by
  obtain ⟨front, joined, own⟩ :=
    Path.exists_stepsFrom_join disk.working directory is_name
  rw [locate, if_neg (by simpa using Path.join_ne_empty directory is_name), joined] at located
  rw [locate, if_neg (by simpa using filled)]
  cases walked : walk (.directory disk.root) [] front with
  | error error => simp [walk_append, walked, Except.bind] at located
  | ok start =>
      obtain ⟨last, above⟩ := start
      rw [walk_append_of_ok walked] at located
      cases last with
      | file bytes => simp [walk] at located
      | directory entries =>
          rcases own with own | own
          · exact ⟨_, own ▸ walked⟩
          · rw [own, walk_append_of_ok walked, walk_cons, if_pos (by rfl), walk]
            exact ⟨_, rfl⟩

theorem exists_locate_of_foldl_join {directory : String} (filled : directory ≠ "")
    (are_names : ∀ name ∈ names, Path.isName name = true) {reached : Entry × Above}
    (located : disk.locate (names.foldl Path.join directory) = .ok reached) :
    ∃ start, disk.locate directory = .ok start := by
  induction names generalizing directory with
  | nil => exact ⟨reached, located⟩
  | cons name rest ih =>
      rw [List.forall_mem_cons] at are_names
      obtain ⟨start, below⟩ := ih (Path.join_ne_empty directory are_names.1) are_names.2 located
      exact exists_locate_of_join filled are_names.1 below

mutual

/-- The entries of every directory have names, and no two of them the same. -/
def Entry.isSound : Entry → Bool
  | .file _ => true
  | .directory entries => decide (entries.map Prod.fst).Nodup && isSoundAll entries

def Entry.isSoundAll : List (String × Entry) → Bool
  | [] => true
  | (name, entry) :: rest => Path.isName name && entry.isSound && isSoundAll rest

end

def isSound (disk : Disk) : Bool :=
  (Entry.directory disk.root).isSound && disk.working.all Path.isName

namespace Entry

theorem isSoundAll_iff {entries : Entries} :
    isSoundAll entries = true ↔
      ∀ name entry, (name, entry) ∈ entries → Path.isName name = true ∧ entry.isSound = true := by
  induction entries with
  | nil => simp [isSoundAll]
  | cons head rest ih =>
      obtain ⟨name, entry⟩ := head
      simp only [isSoundAll, Bool.and_eq_true, ih, List.mem_cons, Prod.mk.injEq]
      constructor
      · rintro ⟨here, later⟩ other below (⟨rfl, rfl⟩ | member)
        · exact here
        · exact later other below member
      · exact fun all => ⟨all name entry (.inl ⟨rfl, rfl⟩),
          fun other below member => all other below (.inr member)⟩

theorem isSound_directory_iff {entries : Entries} :
    (directory entries).isSound = true ↔ (entries.map Prod.fst).Nodup ∧
      ∀ name entry, (name, entry) ∈ entries → Path.isName name = true ∧ entry.isSound = true := by
  rw [isSound, Bool.and_eq_true, decide_eq_true_eq, isSoundAll_iff]

theorem mem_iff_lookup {entries : Entries} (apart : (entries.map Prod.fst).Nodup) {name : String}
    {entry : Entry} : (name, entry) ∈ entries ↔ entries.lookup name = some entry := by
  induction entries with
  | nil => simp
  | cons head rest ih =>
      obtain ⟨key, old⟩ := head
      rw [List.map_cons, List.nodup_cons] at apart
      rw [List.mem_cons, Prod.mk.injEq, List.lookup_cons, ih apart.2]
      by_cases here : name = key
      · subst here
        have later : rest.lookup name ≠ some entry := fun found =>
          apart.1 (List.mem_map.mpr ⟨(name, entry), (ih apart.2).mpr found, rfl⟩)
        simp [later, eq_comm]
      · simp [here, beq_eq_false_iff_ne.mpr here]

theorem isSound_of_at? {entry found : Entry} (sound : entry.isSound = true)
    (there : entry.at? names = some found) :
    found.isSound = true ∧ ∀ name ∈ names, Path.isName name = true := by
  induction names generalizing entry with
  | nil =>
      rw [at?_nil, Option.some.injEq] at there
      exact ⟨there ▸ sound, by simp⟩
  | cons name rest ih =>
      cases entry with
      | file bytes => simp at there
      | directory entries =>
          rw [at?_directory_cons] at there
          obtain ⟨next, named, there⟩ := Option.bind_eq_some_iff.mp there
          obtain ⟨apart, below⟩ := isSound_directory_iff.mp sound
          obtain ⟨is_name, next_sound⟩ := below name next ((mem_iff_lookup apart).mpr named)
          obtain ⟨found_sound, are_names⟩ := ih next_sound there
          exact ⟨found_sound, List.forall_mem_cons.mpr ⟨is_name, are_names⟩⟩

theorem keys_put (entries : Entries) (name : String) (entry : Entry) :
    (put entries name entry).map Prod.fst =
      if name ∈ entries.map Prod.fst then entries.map Prod.fst
      else entries.map Prod.fst ++ [name] := by
  induction entries with
  | nil => rfl
  | cons head rest ih =>
      obtain ⟨key, old⟩ := head
      rw [put]
      by_cases here : key = name
      · simp [here]
      · rw [if_neg here, List.map_cons, ih, List.map_cons]
        by_cases later : name ∈ rest.map Prod.fst
        · rw [if_pos later, if_pos (List.mem_cons_of_mem _ later)]
        · have fresh : name ∉ key :: rest.map Prod.fst :=
            List.not_mem_cons_of_ne_of_not_mem (Ne.symm here) later
          rw [if_neg later, if_neg fresh, List.cons_append]

theorem mem_put {entries : Entries} {name other : String} {entry old : Entry}
    (member : (other, old) ∈ put entries name entry) :
    other = name ∧ old = entry ∨ (other, old) ∈ entries := by
  induction entries with
  | nil => simpa [put] using member
  | cons head rest ih =>
      obtain ⟨key, before⟩ := head
      rw [put] at member
      split at member
      · rcases List.mem_cons.mp member with same | later
        · exact .inl (Prod.mk.inj same)
        · exact .inr (List.mem_cons_of_mem _ later)
      · rcases List.mem_cons.mp member with same | later
        · exact .inr (same ▸ List.mem_cons_self)
        · exact (ih later).imp_right (List.mem_cons_of_mem _)

theorem isSound_put {entries : Entries} {name : String} {entry : Entry}
    (sound : (directory entries).isSound = true) (is_name : Path.isName name = true)
    (entry_sound : entry.isSound = true) :
    (directory (put entries name entry)).isSound = true := by
  rw [isSound_directory_iff] at sound ⊢
  obtain ⟨apart, below⟩ := sound
  constructor
  · rw [keys_put]
    split
    · exact apart
    · next fresh => exact List.nodup_append_comm.mp (List.nodup_cons.mpr ⟨fresh, apart⟩)
  · intro other old member
    rcases mem_put member with ⟨rfl, rfl⟩ | stored
    · exact ⟨is_name, entry_sound⟩
    · exact below other old stored

end Entry

theorem LeadsTo.isSound {root : Entries} {above : Above} {entry : Entry}
    (leads : LeadsTo root above entry) (sound : (Entry.directory root).isSound = true) :
    entry.isSound = true := by
  have there := leads.at?_names []
  rw [List.append_nil, Entry.at?_nil] at there
  exact (Entry.isSound_of_at? sound there).1

theorem LeadsTo.isSound_rebuild {root entries old : Entries} {above : Above}
    (leads : LeadsTo root above (.directory old)) (sound : (Entry.directory root).isSound = true)
    (new_sound : (Entry.directory entries).isSound = true) :
    (Entry.directory (rebuild entries above)).isSound = true := by
  induction above generalizing entries old with
  | nil => exact new_sound
  | cons head above ih =>
      obtain ⟨name, parent⟩ := head
      cases leads with
      | down up found =>
        have parent_sound := up.isSound sound
        obtain ⟨apart, below⟩ := Entry.isSound_directory_iff.mp parent_sound
        have is_name := (below _ _ ((Entry.mem_iff_lookup apart).mpr found)).1
        exact ih up (Entry.isSound_put parent_sound is_name new_sound)

theorem no_slash_of_mem_steps {step : String} (member : step ∈ Path.steps path) :
    '/' ∉ step.toList := by
  obtain ⟨piece, inside, rfl⟩ := List.mem_map.mp member
  rw [String.toList_ofList]
  exact Text.not_mem_of_mem_splitAt inside

theorem no_slash_of_mem_stepsFrom (sound : disk.isSound = true) {step : String}
    (member : step ∈ Path.stepsFrom disk.working path) : '/' ∉ step.toList := by
  rw [isSound, Bool.and_eq_true, List.all_eq_true] at sound
  rw [Path.stepsFrom] at member
  split at member
  · exact no_slash_of_mem_steps member
  · rcases List.mem_append.mp member with above | own
    · exact (Path.isName_iff.mp (sound.2 step above)).2.2
    · exact no_slash_of_mem_steps own

theorem isSound_of_makeDirectory (ok : disk.makeDirectory path = .ok wider)
    (sound : disk.isSound = true) : wider.isSound = true := by
  have root_sound := (Bool.and_eq_true_iff.mp sound).1
  rw [makeDirectory] at ok
  split at ok
  · simp at ok
  · simp at ok
  · next entries above walked =>
    obtain ⟨leads, _⟩ := LeadsTo.top.of_walk walked
    split at ok
    · simp at ok
    · next name last =>
      split at ok
      · simp at ok
      · next free =>
        simp only [Bool.or_eq_true, not_or, Bool.not_eq_true, beq_eq_false_iff_ne] at free
        have member : name ∈ Path.stepsFrom disk.working path := by
          have inside := List.mem_of_mem_head? (Option.mem_def.mpr last)
          exact List.mem_reverse.mp ((List.dropWhile_sublist _).subset inside)
        have is_name : Path.isName name = true :=
          Path.isName_iff.mpr ⟨free.1.1, free.1.2, no_slash_of_mem_stepsFrom sound member⟩
        have empty_sound : (Entry.directory []).isSound = true := rfl
        have made := leads.isSound_rebuild root_sound
          (Entry.isSound_put (leads.isSound root_sound) is_name empty_sound)
        rw [← Except.ok.inj ok, isSound, made, Bool.true_and]
        exact (Bool.and_eq_true_iff.mp sound).2

theorem isSound_of_makeDirectories (ok : disk.makeDirectories path = .ok wider)
    (sound : disk.isSound = true) : wider.isSound = true :=
  makeDirectories_induction (fun before after => before.isSound = true → after.isSound = true)
    (fun _ => id) (fun first second => second ∘ first) isSound_of_makeDirectory ok sound

namespace Entry

mutual

/-- The names that lead to the files below an entry, in the order in which the files are listed. -/
def trails : Entry → List (List String)
  | .file _ => [[]]
  | .directory entries =>
      ((trailsOfEach entries).mergeSort fun left right => left.1 ≤ right.1).flatMap
        fun (name, found) => found.map (name :: ·)

def trailsOfEach : List (String × Entry) → List (String × List (List String))
  | [] => []
  | (name, entry) :: rest => (name, entry.trails) :: trailsOfEach rest

end

mutual

theorem files_eq (path : String) (entry : Entry) :
    entry.files path = entry.trails.map fun names => names.foldl Path.join path := by
  cases entry with
  | file bytes => rfl
  | directory entries =>
      rw [files, trails, filesOfEach_eq path entries, List.map_flatMap,
        ← List.map_mergeSort (r := fun left right => left.1 ≤ right.1) (by simp),
        List.flatMap_map]
      simp only [List.map_map]
      rfl

theorem filesOfEach_eq (path : String) (entries : Entries) :
    filesOfEach path entries = (trailsOfEach entries).map fun (name, found) =>
      (name, found.map fun names => names.foldl Path.join (Path.join path name)) := by
  cases entries with
  | nil => rfl
  | cons head rest =>
      obtain ⟨name, entry⟩ := head
      rw [filesOfEach, trailsOfEach, List.map_cons, files_eq (Path.join path name) entry,
        filesOfEach_eq path rest]

end

theorem trailsOfEach_eq (entries : Entries) :
    trailsOfEach entries = entries.map fun (name, entry) => (name, entry.trails) := by
  induction entries with
  | nil => rfl
  | cons head rest ih =>
      obtain ⟨name, entry⟩ := head
      rw [trailsOfEach, ih, List.map_cons]

theorem trails_of_sorted {entries : Entries}
    (sorted : (entries.map Prod.fst).Pairwise (· ≤ ·)) :
    (directory entries).trails =
      entries.flatMap fun (name, entry) => entry.trails.map (name :: ·) := by
  rw [trails, trailsOfEach_eq, List.mergeSort_of_pairwise, List.flatMap_map]
  rw [List.pairwise_map] at sorted ⊢
  exact sorted.imp decide_eq_true

theorem mem_trails_directory_iff {entries : Entries} :
    names ∈ (directory entries).trails ↔
      ∃ name entry rest, (name, entry) ∈ entries ∧ rest ∈ entry.trails ∧ names = name :: rest := by
  rw [trails, trailsOfEach_eq, List.mem_flatMap]
  constructor
  · rintro ⟨found, member, leads⟩
    obtain ⟨⟨name, entry⟩, stored, rfl⟩ := List.mem_map.mp (List.mem_mergeSort.mp member)
    obtain ⟨rest, inside, rfl⟩ := List.mem_map.mp leads
    exact ⟨name, entry, rest, stored, inside, rfl⟩
  · rintro ⟨name, entry, rest, stored, inside, rfl⟩
    exact ⟨(name, entry.trails), List.mem_mergeSort.mpr (List.mem_map.mpr ⟨_, stored, rfl⟩),
      List.mem_map.mpr ⟨rest, inside, rfl⟩⟩

theorem mem_trails_iff {entry : Entry} (sound : entry.isSound = true) :
    names ∈ entry.trails ↔ ∃ bytes, entry.at? names = some (.file bytes) := by
  induction names generalizing entry with
  | nil =>
      cases entry with
      | file bytes => simp [trails]
      | directory entries => simp [mem_trails_directory_iff]
  | cons name rest ih =>
      cases entry with
      | file bytes => simp [trails]
      | directory entries =>
          obtain ⟨apart, below⟩ := isSound_directory_iff.mp sound
          simp only [mem_trails_directory_iff, at?_directory_cons, Option.bind_eq_some_iff,
            ← mem_iff_lookup apart, List.cons.injEq]
          constructor
          · rintro ⟨_, entry, _, stored, inside, rfl, rfl⟩
            obtain ⟨bytes, there⟩ := (ih (below _ _ stored).2).mp inside
            exact ⟨bytes, entry, stored, there⟩
          · rintro ⟨bytes, entry, stored, there⟩
            have inside := (ih (below _ _ stored).2).mpr ⟨bytes, there⟩
            exact ⟨name, entry, rest, stored, inside, rfl, rfl⟩

theorem pairwise_sorted_of_nodup {α : Type} {found : List (String × α)}
    (apart : (found.map Prod.fst).Nodup) :
    (found.mergeSort fun left right => left.1 ≤ right.1).Pairwise fun left right =>
      left.1 < right.1 := by
  have ordered : (found.mergeSort fun left right => left.1 ≤ right.1).Pairwise
      fun left right => left.1 ≤ right.1 := by
    have total (left right : String × α) :
        (decide (left.1 ≤ right.1) || decide (right.1 ≤ left.1)) = true := by
      simpa using String.le_total left.1 right.1
    have trans (first second third : String × α) (before : decide (first.1 ≤ second.1) = true)
        (after : decide (second.1 ≤ third.1) = true) : decide (first.1 ≤ third.1) = true := by
      rw [decide_eq_true_eq] at before after ⊢
      exact String.le_trans before after
    exact (List.pairwise_mergeSort trans total found).imp of_decide_eq_true
  have distinct : (found.mergeSort fun left right => left.1 ≤ right.1).Pairwise
      fun left right => left.1 ≠ right.1 := by
    have sorted := (List.mergeSort_perm found fun left right => left.1 ≤ right.1).map Prod.fst
    exact List.pairwise_map.mp (sorted.nodup_iff.mpr apart)
  exact (ordered.and distinct).imp fun both => lt_of_le_of_ne both.1 both.2

mutual

/-- The listing is in order, name by name, so no file is listed twice. -/
theorem trails_sorted {entry : Entry} (sound : entry.isSound = true) :
    entry.trails.Pairwise (· < ·) := by
  cases entry with
  | file bytes => exact List.pairwise_singleton ..
  | directory entries =>
      obtain ⟨apart, below⟩ := isSound_directory_iff.mp sound
      rw [trails, List.pairwise_flatMap]
      constructor
      · rintro ⟨name, found⟩ member
        have inside : found.Pairwise (· < ·) :=
          trailsOfEach_sorted (isSoundAll_iff.mpr below) name found (List.mem_mergeSort.mp member)
        exact List.pairwise_map.mpr (inside.imp fun before =>
          List.cons_lt_cons_iff.mpr (.inr ⟨rfl, before⟩))
      · have names_apart : ((trailsOfEach entries).map Prod.fst).Nodup := by
          rw [trailsOfEach_eq, List.map_map]
          exact apart
        refine (pairwise_sorted_of_nodup names_apart).imp fun {left right} before => ?_
        intro first first_mem second second_mem
        obtain ⟨rest, _, rfl⟩ := List.mem_map.mp first_mem
        obtain ⟨rest', _, rfl⟩ := List.mem_map.mp second_mem
        exact List.cons_lt_cons_iff.mpr (.inl before)

theorem trailsOfEach_sorted {entries : List (String × Entry)} (sound : isSoundAll entries = true) :
    ∀ name found, (name, found) ∈ trailsOfEach entries → found.Pairwise (· < ·) := by
  cases entries with
  | nil => simp [trailsOfEach]
  | cons head rest =>
      obtain ⟨name, entry⟩ := head
      rw [isSoundAll, Bool.and_eq_true, Bool.and_eq_true] at sound
      rw [trailsOfEach]
      intro other found member
      rcases List.mem_cons.mp member with same | member
      · obtain ⟨rfl, rfl⟩ := Prod.mk.inj same
        exact trails_sorted sound.1.2
      · exact trailsOfEach_sorted sound.2 other found member

end

end Entry

end Disk

end EventWiki
