import EventWiki.Proofs.DiskPlaces

namespace EventWiki.Disk

variable {disk next : Disk} {directory name path : String}

theorem lookup_put (entries : Entries) (name : String) (entry : Entry) (other : String) :
    (put entries name entry).lookup other =
      if other = name then some entry else entries.lookup other := by
  induction entries with
  | nil =>
      rw [put, List.lookup_cons]
      by_cases same : other = name
      · simp [same]
      · simp [same, beq_eq_false_iff_ne.mpr same]
  | cons head rest ih =>
      obtain ⟨key, old⟩ := head
      rw [put]
      by_cases here : key = name
      · subst here
        by_cases same : other = key
        · simp [same]
        · simp [List.lookup_cons, same, beq_eq_false_iff_ne.mpr same]
      · rw [if_neg here, List.lookup_cons, List.lookup_cons, ih]
        by_cases same : other = key
        · subst same
          simp [here]
        · simp [beq_eq_false_iff_ne.mpr same]

theorem at?_rebuild (entries : Entries) (above : Above) (rest : List String) :
    (Entry.directory (rebuild entries above)).at? (Above.names above ++ rest) =
      (Entry.directory entries).at? rest := by
  induction above generalizing entries rest with
  | nil => rfl
  | cons head above ih =>
      obtain ⟨name, parent⟩ := head
      rw [rebuild, Above.names_cons, List.append_assoc, ih, List.singleton_append,
        Entry.at?_directory_cons, lookup_put, if_pos rfl, Option.bind_some]

theorem LeadsTo.node_rebuild {root entries old : Entries} {above : Above}
    (leads : LeadsTo root above (.directory old)) {names : List String}
    (outside : ¬ Above.names above <+: names) :
    ((Entry.directory (rebuild entries above)).at? names).map Entry.node =
      ((Entry.directory root).at? names).map Entry.node := by
  -- Replacing a directory replaces its parent, so the induction goes up to the root.
  induction above generalizing entries old with
  | nil => exact absurd names.nil_prefix outside
  | cons head above ih =>
      obtain ⟨name, parent⟩ := head
      cases leads with
      | down up found =>
        rw [rebuild]
        by_cases inside : Above.names above <+: names
        · obtain ⟨rest, rfl⟩ := inside
          rw [at?_rebuild, up.at?_names]
          cases rest with
          | nil => simp
          | cons first rest =>
              have other : first ≠ name := by
                rintro rfl
                exact outside ⟨rest, by simp⟩
              rw [Entry.at?_directory_cons, Entry.at?_directory_cons, lookup_put, if_neg other]
        · exact ih up inside

def Entry.IsBare (entry : Entry) : Prop :=
  ∀ name rest, entry.at? (name :: rest) = none

theorem Entry.isBare_file (bytes : ByteArray) : (Entry.file bytes).IsBare :=
  fun _ _ => rfl

theorem Entry.isBare_empty : (Entry.directory []).IsBare :=
  fun _ _ => rfl

theorem bind_at?_of_free {entries : Entries}
    (free : ∀ below, entries.lookup name ≠ some (.directory below)) (first : String)
    (rest : List String) :
    ((entries.lookup name).bind fun entry => entry.at? (first :: rest)) = none := by
  refine Option.bind_eq_none_iff.mpr fun entry found => ?_
  cases entry with
  | file bytes => rfl
  | directory below => exact absurd found (free below)

theorem LeadsTo.node_put {root old : Entries} {above : Above} {entry : Entry}
    (leads : LeadsTo root above (.directory old)) (bare : entry.IsBare)
    (free : ∀ below, old.lookup name ≠ some (.directory below)) (names : List String) :
    ((Entry.directory (rebuild (put old name entry) above)).at? names).map Entry.node =
      if names = above.names ++ [name] then some entry.node
      else ((Entry.directory root).at? names).map Entry.node := by
  by_cases inside : above.names <+: names
  · obtain ⟨rest, rfl⟩ := inside
    rw [at?_rebuild, leads.at?_names]
    cases rest with
    | nil => simp
    | cons first rest =>
        rw [Entry.at?_directory_cons, Entry.at?_directory_cons, lookup_put]
        by_cases here : first = name
        · subst here
          cases rest with
          | nil => simp
          | cons second rest =>
              rw [if_pos rfl, Option.bind_some, bare, bind_at?_of_free free, if_neg (by simp)]
        · rw [if_neg here, if_neg (by simp [here])]
  · rw [leads.node_rebuild inside, if_neg]
    rintro rfl
    exact inside ⟨[name], rfl⟩

/-- The disk with something else at one place. -/
structure ChangedAt (disk next : Disk) (place : List String) (node : Node) : Prop where
  working : next.working = disk.working
  node? : ∀ names, next.node? names = if names = place then some node else disk.node? names

theorem LeadsTo.changedAt_put {old : Entries} {above : Above} {entry : Entry}
    (leads : LeadsTo disk.root above (.directory old)) (bare : entry.IsBare)
    (free : ∀ below, old.lookup name ≠ some (.directory below)) :
    disk.ChangedAt { disk with root := rebuild (put old name entry) above }
      (above.names ++ [name]) entry.node where
  working := rfl
  node? := leads.node_put bare free

theorem LeadsTo.node?_concat {entries : Entries} {above : Above}
    (leads : LeadsTo disk.root above (.directory entries)) (name : String) :
    disk.node? (above.names ++ [name]) = (entries.lookup name).map Entry.node := by
  rw [Disk.node?, entryAt?, leads.at?_names, Entry.at?_directory_cons]
  cases entries.lookup name <;> simp

theorem LeadsTo.free_iff {entries : Entries} {above : Above}
    (leads : LeadsTo disk.root above (.directory entries)) :
    (∀ below, entries.lookup name ≠ some (.directory below)) ↔
      disk.node? (above.names ++ [name]) ≠ some .directory := by
  rw [leads.node?_concat, ne_eq, Option.map_eq_some_iff]
  simp only [Entry.node_eq_directory_iff, not_exists, not_and]
  exact ⟨fun free entry found below same => free below (same ▸ found),
    fun free below found => free _ found below rfl⟩

theorem location_dot (disk : Disk) : disk.location "." = disk.location "" := by
  have dot : Path.stepsFrom disk.working "." = disk.working ++ ["."] := rfl
  have empty : Path.stepsFrom disk.working "" = disk.working ++ [""] := rfl
  rw [location, location, dot, empty, Path.names_eq, Path.names_eq, List.foldl_append,
    List.foldl_append]
  rfl

theorem location_written (disk : Disk) (directory : String) :
    disk.location (if directory.isEmpty then "." else directory) = disk.location directory := by
  split
  · next empty =>
    rw [location_dot, String.isEmpty_iff.mp empty]
  · rfl

theorem changedAt_of_write {bytes : ByteArray} (ok : disk.write directory name bytes = .ok next) :
    disk.node? (disk.location directory ++ [name]) ≠ some .directory ∧
      disk.ChangedAt next (disk.location directory ++ [name]) (.file bytes) := by
  rw [write] at ok
  split at ok
  · simp at ok
  · simp at ok
  · next entries above located =>
    obtain ⟨leads, same⟩ := leadsTo_of_locate located
    rw [location_written] at same
    rw [← same]
    split at ok
    · simp at ok
    · next free =>
      rw [← leads.free_iff]
      refine ⟨free, ?_⟩
      rw [← Except.ok.inj ok]
      exact leads.changedAt_put (Entry.isBare_file bytes) free

theorem Grows.exists_write {wider : Disk} (grows : disk.Grows wider) {bytes : ByteArray}
    (ok : disk.write directory name bytes = .ok next)
    (free : wider.node? (disk.location directory ++ [name]) ≠ some .directory)
    (other : ByteArray) : ∃ later, wider.write directory name other = .ok later := by
  rw [write] at ok
  split at ok
  · simp at ok
  · simp at ok
  · next entries above located =>
    obtain ⟨found, place, located'⟩ := grows.exists_locate located
    obtain ⟨leads, same⟩ := leadsTo_of_locate located
    obtain ⟨leads', same'⟩ := leadsTo_of_locate located'
    have kept := grows.directory _ leads.node?
    rw [same, ← grows.location, ← same', leads'.node?, Option.some.injEq,
      Entry.node_eq_directory_iff] at kept
    obtain ⟨entries', rfl⟩ := kept
    rw [location_written, grows.location] at same'
    rw [← same', ← leads'.free_iff] at free
    refine ⟨{ wider with root := rebuild (put entries' name (.file other)) place }, ?_⟩
    rw [write, located']
    simp only

theorem ChangedAt.fileAt? {place : List String} {bytes : ByteArray}
    (changed : disk.ChangedAt next place (.file bytes)) (names : List String) :
    next.fileAt? names = if names = place then some bytes else disk.fileAt? names := by
  rw [Disk.fileAt?, Disk.fileAt?, changed.node?]
  by_cases here : names = place <;> simp [here]

theorem ChangedAt.grows {place : List String} {bytes : ByteArray}
    (changed : disk.ChangedAt next place (.file bytes))
    (free : disk.node? place ≠ some .directory) : disk.Grows next where
  working := changed.working
  directory := fun names found => by
    rw [changed.node?, if_neg, found]
    rintro rfl
    exact free found
  file := fun names old found => by
    rw [changed.node?]
    by_cases here : names = place
    · exact ⟨bytes, if_pos here⟩
    · exact ⟨old, by rw [if_neg here, found]⟩

structure AddsDirectories (disk next : Disk) : Prop where
  working : next.working = disk.working
  node? : ∀ names, next.node? names = disk.node? names ∨
    disk.node? names = none ∧ next.node? names = some .directory

namespace AddsDirectories

theorem refl (disk : Disk) : disk.AddsDirectories disk :=
  ⟨rfl, fun _ => .inl rfl⟩

theorem trans {last : Disk} (first : disk.AddsDirectories next)
    (second : next.AddsDirectories last) : disk.AddsDirectories last where
  working := second.working.trans first.working
  node? := fun names => by
    rcases first.node? names with same | ⟨vacant, made⟩
    · rw [← same]
      exact second.node? names
    · rcases second.node? names with same | ⟨vacant', _⟩
      · exact .inr ⟨vacant, same.trans made⟩
      · simp [made] at vacant'

theorem grows (adds : disk.AddsDirectories next) : disk.Grows next where
  working := adds.working
  directory := fun names found => by
    rcases adds.node? names with same | ⟨vacant, _⟩
    · rw [same, found]
    · simp [found] at vacant
  file := fun names bytes found => by
    rcases adds.node? names with same | ⟨vacant, _⟩
    · exact ⟨bytes, same.trans found⟩
    · simp [found] at vacant

theorem fileAt? (adds : disk.AddsDirectories next) (names : List String) :
    next.fileAt? names = disk.fileAt? names := by
  rw [Disk.fileAt?, Disk.fileAt?]
  rcases adds.node? names with same | ⟨vacant, made⟩
  · rw [same]
  · rw [vacant, made]

end AddsDirectories

theorem addsDirectories_of_makeDirectory (ok : disk.makeDirectory path = .ok next) :
    disk.AddsDirectories next := by
  rw [makeDirectory] at ok
  split at ok
  · simp at ok
  · simp at ok
  · next entries above walked =>
    obtain ⟨leads, _⟩ := LeadsTo.top.of_walk walked
    split at ok
    · simp at ok
    · next name _ =>
      split at ok
      · simp at ok
      · next free =>
        simp only [Bool.or_eq_true, not_or, Bool.not_eq_true, Option.isSome_eq_false_iff,
          Option.isNone_iff_eq_none] at free
        have vacant : entries.lookup name = none := free.2
        have changed : disk.ChangedAt _ (above.names ++ [name]) _ :=
          leads.changedAt_put Entry.isBare_empty fun below found => by simp [vacant] at found
        rw [← Except.ok.inj ok]
        refine ⟨rfl, fun names => ?_⟩
        rw [changed.node?]
        by_cases here : names = above.names ++ [name]
        · rw [if_pos here, here, leads.node?_concat, vacant]
          exact .inr ⟨rfl, rfl⟩
        · exact .inl (if_neg here)

theorem eq_of_unlessDirectory {error : FileError}
    (ok : disk.unlessDirectory path error = .ok next) : next = disk := by
  rw [unlessDirectory] at ok
  split at ok
  · exact (Except.ok.inj ok).symm
  · simp at ok

theorem makeAll_induction (keeps : Disk → Disk → Prop) (refl : ∀ disk, keeps disk disk)
    (trans : ∀ {first second third}, keeps first second → keeps second third → keeps first third)
    (made : ∀ {disk next path}, disk.makeDirectory path = .ok next → keeps disk next)
    {paths : List String} (ok : disk.makeAll paths = .ok next) : keeps disk next := by
  induction paths generalizing disk next with
  | nil =>
      rw [makeAll, Except.ok.injEq] at ok
      exact ok ▸ refl disk
  | cons path parents ih =>
      rw [makeAll] at ok
      split at ok
      · next one => exact Except.ok.inj ok ▸ made one
      · split at ok
        · simp at ok
        · next below more =>
          refine trans (ih more) ?_
          cases one : below.makeDirectory path with
          | ok last =>
              rw [one] at ok
              exact Except.ok.inj ok ▸ made one
          | error error =>
              rw [one] at ok
              exact eq_of_unlessDirectory ok ▸ refl below
      · next error _ => exact eq_of_unlessDirectory ok ▸ refl disk

theorem makeDirectories_induction (keeps : Disk → Disk → Prop) (refl : ∀ disk, keeps disk disk)
    (trans : ∀ {first second third}, keeps first second → keeps second third → keeps first third)
    (made : ∀ {disk next path}, disk.makeDirectory path = .ok next → keeps disk next)
    (ok : disk.makeDirectories path = .ok next) : keeps disk next := by
  rw [makeDirectories] at ok
  split at ok
  · exact Except.ok.inj ok ▸ refl disk
  · exact makeAll_induction keeps refl trans made ok

theorem addsDirectories_of_makeDirectories (ok : disk.makeDirectories path = .ok next) :
    disk.AddsDirectories next :=
  makeDirectories_induction AddsDirectories .refl .trans addsDirectories_of_makeDirectory ok

end EventWiki.Disk
