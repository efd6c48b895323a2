import EventWiki.Disk.Basic
import Mathlib

namespace EventWiki

/-! Places on a disk, given by the names that lead to them from the root. -/

namespace Path

def follow (names : List String) (step : String) : List String :=
  if isStill step then names
  else if step = ".." then names.dropLast
  else names ++ [step]

theorem names_eq (steps : List String) : names steps = steps.foldl follow [] := rfl

end Path

namespace Disk

/-- What stands at a place, without what stands below it. -/
inductive Node where
  | directory
  | file (bytes : ByteArray)
  deriving DecidableEq

namespace Entry

def node : Entry → Node
  | .file bytes => .file bytes
  | .directory _ => .directory

def at? : Entry → List String → Option Entry
  | entry, [] => some entry
  | .file _, _ :: _ => none
  | .directory entries, name :: rest => (entries.lookup name).bind fun next => next.at? rest

@[simp] theorem node_file (bytes : ByteArray) : (file bytes).node = .file bytes := rfl

@[simp] theorem node_directory (entries : Entries) : (directory entries).node = .directory := rfl

theorem node_eq_directory_iff {entry : Entry} :
    entry.node = .directory ↔ ∃ entries, entry = .directory entries := by
  cases entry <;> simp [node]

theorem node_eq_file_iff {entry : Entry} {bytes : ByteArray} :
    entry.node = .file bytes ↔ entry = .file bytes := by
  cases entry <;> simp [node]

@[simp] theorem at?_nil (entry : Entry) : entry.at? [] = some entry := by
  cases entry <;> rfl

@[simp] theorem at?_file_cons (bytes : ByteArray) (name : String) (rest : List String) :
    (file bytes).at? (name :: rest) = none := rfl

@[simp] theorem at?_directory_cons (entries : Entries) (name : String) (rest : List String) :
    (directory entries).at? (name :: rest) =
      (entries.lookup name).bind fun next => next.at? rest := rfl

theorem at?_append (entry : Entry) (front rest : List String) :
    entry.at? (front ++ rest) = (entry.at? front).bind fun next => next.at? rest := by
  induction front generalizing entry with
  | nil => simp
  | cons name front ih =>
      cases entry with
      | file bytes => rfl
      | directory entries =>
          rw [List.cons_append, at?_directory_cons, at?_directory_cons, Option.bind_assoc]
          simp only [ih]

end Entry

def Above.names (above : Above) : List String :=
  (above.map Prod.fst).reverse

@[simp] theorem Above.names_nil : Above.names [] = [] := rfl

@[simp] theorem Above.names_cons (name : String) (parent : Entries) (above : Above) :
    Above.names ((name, parent) :: above) = Above.names above ++ [name] := by
  simp [Above.names]

/-- The directories of a place are found one in the other from the root on, and its entry in the
last of them. -/
inductive LeadsTo (root : Entries) : Above → Entry → Prop where
  | top : LeadsTo root [] (.directory root)
  | down {above : Above} {entries : Entries} {name : String} {entry : Entry} :
      LeadsTo root above (.directory entries) → entries.lookup name = some entry →
        LeadsTo root ((name, entries) :: above) entry

theorem LeadsTo.at?_names {root : Entries} {above : Above} {entry : Entry}
    (leads : LeadsTo root above entry) (rest : List String) :
    (Entry.directory root).at? (above.names ++ rest) = entry.at? rest := by
  induction leads generalizing rest with
  | top => rfl
  | down _ found ih =>
      rw [Above.names_cons, List.append_assoc, ih, List.singleton_append,
        Entry.at?_directory_cons, found, Option.bind_some]

theorem walk_cons (entries : Entries) (above : Above) (step : String) (rest : List String) :
    walk (.directory entries) above (step :: rest) =
      if Path.isStill step then walk (.directory entries) above rest
      else if step = ".." then
        match above with
        | [] => walk (.directory entries) [] rest
        | (_, parent) :: above => walk (.directory parent) above rest
      else
        match entries.lookup step with
        | some next => walk next ((step, entries) :: above) rest
        | none => .error .notFound := by
  rewrite [walk.eq_def]
  rfl

theorem LeadsTo.of_walk {root : Entries} {above place : Above} {entry found : Entry}
    {steps : List String} (leads : LeadsTo root above entry)
    (walked : walk entry above steps = .ok (found, place)) :
    LeadsTo root place found ∧ place.names = steps.foldl Path.follow above.names := by
  induction steps generalizing entry above with
  | nil =>
      simp only [walk, Except.ok.injEq, Prod.mk.injEq] at walked
      obtain ⟨rfl, rfl⟩ := walked
      exact ⟨leads, rfl⟩
  | cons step rest ih =>
      cases entry with
      | file bytes => simp [walk] at walked
      | directory entries =>
          rw [walk_cons] at walked
          rw [List.foldl_cons, Path.follow]
          split at walked
          · next still => simpa [still] using ih leads walked
          · next moves =>
            rw [if_neg moves]
            split at walked
            · next back =>
              rw [if_pos back]
              cases leads with
              | top => exact ih .top walked
              | down parent found => simpa using ih parent walked
            · next down =>
              rw [if_neg down]
              split at walked
              · next next found =>
                rw [← Above.names_cons]
                exact ih (leads.down found) walked
              · simp at walked

theorem walk_append (entry : Entry) (above : Above) (front rest : List String) :
    walk entry above (front ++ rest) =
      (walk entry above front).bind fun reached => walk reached.1 reached.2 rest := by
  induction front generalizing entry above with
  | nil => simp [walk, Except.bind]
  | cons step front ih =>
      cases entry with
      | file bytes => simp [walk, Except.bind]
      | directory entries =>
          rw [List.cons_append, walk_cons, walk_cons]
          split
          · exact ih ..
          · split
            · split <;> exact ih ..
            · split
              · exact ih ..
              · rfl

theorem walk_append_of_ok {entry next : Entry} {above place : Above} {front : List String}
    (walked : walk entry above front = .ok (next, place)) (rest : List String) :
    walk entry above (front ++ rest) = walk next place rest := by
  rw [walk_append, walked]
  rfl

variable {disk wider : Disk} {path : String} {names : List String}

def entryAt? (disk : Disk) (names : List String) : Option Entry :=
  (Entry.directory disk.root).at? names

def node? (disk : Disk) (names : List String) : Option Node :=
  (disk.entryAt? names).map Entry.node

def location (disk : Disk) (path : String) : List String :=
  Path.names (Path.stepsFrom disk.working path)

theorem LeadsTo.node? {above : Above} {entry : Entry} (leads : LeadsTo disk.root above entry) :
    disk.node? above.names = some entry.node := by
  have found := leads.at?_names []
  rw [List.append_nil, Entry.at?_nil] at found
  rw [Disk.node?, entryAt?, found, Option.map_some]

theorem leadsTo_of_locate {found : Entry} {place : Above}
    (located : disk.locate path = .ok (found, place)) :
    LeadsTo disk.root place found ∧ place.names = disk.location path := by
  rw [locate] at located
  split at located
  · simp at located
  · exact LeadsTo.of_walk .top located

theorem entryAt?_of_locate {found : Entry} {place : Above}
    (located : disk.locate path = .ok (found, place)) :
    disk.entryAt? (disk.location path) = some found := by
  obtain ⟨leads, same⟩ := leadsTo_of_locate located
  rw [← same, entryAt?, ← List.append_nil place.names, leads.at?_names, Entry.at?_nil]

theorem entryAt?_append (front rest : List String) :
    disk.entryAt? (front ++ rest) = (disk.entryAt? front).bind fun next => next.at? rest :=
  Entry.at?_append _ front rest

/-- What is there stays: directories remain directories, and files remain files, with whatever they
hold. -/
structure Grows (disk wider : Disk) : Prop where
  working : wider.working = disk.working
  directory : ∀ names, disk.node? names = some .directory → wider.node? names = some .directory
  file : ∀ names bytes, disk.node? names = some (.file bytes) →
    ∃ other, wider.node? names = some (.file other)

namespace Grows

theorem refl (disk : Disk) : disk.Grows disk where
  working := rfl
  directory := fun _ => id
  file := fun _ bytes same => ⟨bytes, same⟩

theorem trans {last : Disk} (first : disk.Grows wider) (second : wider.Grows last) :
    disk.Grows last where
  working := second.working.trans first.working
  directory := fun names found => second.directory names (first.directory names found)
  file := fun names bytes found =>
    let ⟨other, there⟩ := first.file names bytes found
    second.file names other there

theorem location (grows : disk.Grows wider) (path : String) :
    wider.location path = disk.location path := by
  rw [Disk.location, Disk.location, grows.working]

theorem exists_lookup (grows : disk.Grows wider) {above above' : Above} {entries entries' : Entries}
    {step : String} {next : Entry} (leads : LeadsTo disk.root above (.directory entries))
    (leads' : LeadsTo wider.root above' (.directory entries')) (same : above'.names = above.names)
    (found : entries.lookup step = some next) : ∃ next', entries'.lookup step = some next' := by
  have deeper := leads.down found
  have there : (wider.node? (above'.names ++ [step])).isSome := by
    rw [same, ← Above.names_cons]
    cases next with
    | file bytes =>
        obtain ⟨other, there⟩ := grows.file _ bytes deeper.node?
        rw [there, Option.isSome_some]
    | directory below => rw [grows.directory _ deeper.node?, Option.isSome_some]
  have stands := leads'.at?_names [step]
  cases found' : entries'.lookup step with
  | none =>
      rw [Entry.at?_directory_cons, found', Option.bind_none] at stands
      rw [Disk.node?, entryAt?, stands] at there
      simp at there
  | some next' => exact ⟨next', rfl⟩

theorem exists_walk (grows : disk.Grows wider) {above place above' : Above}
    {entry found entry' : Entry} {steps : List String} (leads : LeadsTo disk.root above entry)
    (leads' : LeadsTo wider.root above' entry') (same : above'.names = above.names)
    (walked : walk entry above steps = .ok (found, place)) :
    ∃ found' place', walk entry' above' steps = .ok (found', place') := by
  -- The two walks go through the same names, so what is above and below them is there in both.
  induction steps generalizing entry above entry' above' with
  | nil => exact ⟨entry', above', by simp [walk]⟩
  | cons step rest ih =>
      cases entry with
      | file bytes => simp [walk] at walked
      | directory entries =>
          have kept := grows.directory _ leads.node?
          rw [← same, leads'.node?, Option.some.injEq, Entry.node_eq_directory_iff] at kept
          obtain ⟨entries', rfl⟩ := kept
          rw [walk_cons] at walked
          rw [walk_cons]
          split at walked
          · next still =>
            rw [if_pos still]
            exact ih leads leads' same walked
          · next moves =>
            rw [if_neg moves]
            split at walked
            · next back =>
              rw [if_pos back]
              cases leads with
              | top =>
                  cases leads' with
                  | top => exact ih .top .top rfl walked
                  | down => simp at same
              | down parent found =>
                  cases leads' with
                  | top => simp at same
                  | down parent' found' =>
                      rw [Above.names_cons, Above.names_cons] at same
                      exact ih parent parent' (List.append_inj_left' same rfl) walked
            · next down =>
              rw [if_neg down]
              split at walked
              · next next found =>
                obtain ⟨next', found'⟩ := grows.exists_lookup leads leads' same found
                rw [found']
                exact ih (leads.down found) (leads'.down found') (by simp [same]) walked
              · simp at walked

theorem exists_locate (grows : disk.Grows wider) {found : Entry} {place : Above}
    (located : disk.locate path = .ok (found, place)) :
    ∃ found' place', wider.locate path = .ok (found', place') := by
  rw [locate] at located ⊢
  split at located
  · simp at located
  · next filled =>
    rw [if_neg filled, grows.working]
    exact grows.exists_walk .top .top rfl located

end Grows

def fileAt? (disk : Disk) (names : List String) : Option ByteArray :=
  match disk.node? names with
  | some (.file bytes) => some bytes
  | _ => none

theorem fileAt?_eq_some_iff {bytes : ByteArray} :
    disk.fileAt? names = some bytes ↔ disk.node? names = some (.file bytes) := by
  rw [fileAt?]
  split <;> simp_all

theorem read_ok_iff {bytes : List UInt8} :
    disk.read path = .ok bytes ↔ ∃ stored place,
      disk.locate path = .ok (.file stored, place) ∧ stored.data.toList = bytes := by
  rw [read, find]
  cases located : disk.locate path with
  | error error => simp [Except.map]
  | ok result =>
      obtain ⟨entry, place⟩ := result
      cases entry <;> simp [Except.map]

theorem exists_fileAt?_of_read {bytes : List UInt8} (ok : disk.read path = .ok bytes) :
    ∃ stored, disk.fileAt? (disk.location path) = some stored ∧ stored.data.toList = bytes := by
  obtain ⟨stored, place, located, same⟩ := read_ok_iff.mp ok
  refine ⟨stored, fileAt?_eq_some_iff.mpr ?_, same⟩
  rw [node?, entryAt?_of_locate located, Option.map_some, Entry.node_file]

theorem Grows.read (grows : disk.Grows wider) {bytes : List UInt8} {stored : ByteArray}
    (ok : disk.read path = .ok bytes)
    (there : wider.fileAt? (disk.location path) = some stored) :
    wider.read path = .ok stored.data.toList := by
  obtain ⟨old, place, located, same⟩ := read_ok_iff.mp ok
  obtain ⟨found, place', located'⟩ := grows.exists_locate located
  have node := fileAt?_eq_some_iff.mp there
  rw [← grows.location, node?, entryAt?_of_locate located', Option.map_some, Option.some.injEq,
    Entry.node_eq_file_iff] at node
  rw [node] at located'
  exact read_ok_iff.mpr ⟨stored, place', located', rfl⟩

end Disk

end EventWiki
