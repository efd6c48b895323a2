import EventWiki.Proofs.DraftEntries
import EventWiki.Proofs.LoadedParts
import EventWiki.Proofs.PathOrder

namespace EventWiki

/-! Files come in the order of their paths and entries in that of their lines; the last entry for
a key counts. -/

def RuleEntry.pair (entry : RuleEntry) : String × String :=
  (entry.key, entry.value)

namespace Disk

variable {disk : Disk} {path : String}

def pairsIn (disk : Disk) (entries : String → List RuleEntry) (paths : List String) :
    List (String × String) :=
  paths.flatMap fun path =>
    match disk.readText path with
    | .ok text => (entries text).map RuleEntry.pair
    | .error _ => []

def rulesIn (disk : Disk) : List String → List (String × String) :=
  disk.pairsIn RuleFile.entries

def textsIn (disk : Disk) : List String → List (String × String) :=
  disk.pairsIn LocalisationFile.entries

theorem pairsIn_singleton {text : String} (read : disk.readText path = .ok text)
    (entries : String → List RuleEntry) :
    disk.pairsIn entries [path] = (entries text).map RuleEntry.pair := by
  rw [pairsIn, List.flatMap_singleton, read]

theorem pairsIn_eq (disk : Disk) (entries : String → List RuleEntry) (paths : List String) :
    disk.pairsIn entries paths = paths.flatMap fun path => disk.pairsIn entries [path] := by
  simp only [pairsIn, List.flatMap_singleton]

theorem rulesIn_singleton {entries : List RuleEntry} (read : disk.ruleEntries path = .ok entries) :
    disk.rulesIn [path] = entries.map RuleEntry.pair := by
  obtain ⟨text, text_read, rfl⟩ := map_eq_ok read
  exact pairsIn_singleton text_read RuleFile.entries

theorem exists_readText_of_isFile (is_file : disk.isFile path = true) :
    ∃ text, disk.readText path = .ok text := by
  obtain ⟨bytes, place, located⟩ := isFile_iff.mp is_file
  have ok := read_ok_iff.mpr ⟨bytes, place, located, rfl⟩
  rw [readText, readBytes, ok]
  exact ⟨_, rfl⟩

theorem exists_ruleEntries_of_isFile (is_file : disk.isFile path = true) :
    ∃ entries, disk.ruleEntries path = .ok entries := by
  obtain ⟨text, read⟩ := exists_readText_of_isFile is_file
  exact ⟨RuleFile.entries text, by rw [ruleEntries, read]; rfl⟩

theorem rulesIn_of_not_isFile (other : disk.isFile path = false) : disk.rulesIn [path] = [] := by
  rw [rulesIn, pairsIn, List.flatMap_singleton, readText, readBytes, read]
  rw [isFile] at other
  cases found : disk.find path with
  | error error => rfl
  | ok entry =>
      cases entry with
      | file bytes => simp [found] at other
      | directory entries => rfl

end Disk

namespace Rulebook

variable {disk : Disk} {sources : Sources} {book : Rulebook} {path : String}

def listed (value : String) : List String :=
  Draft.lowerAll (RuleFile.items value)

def lastListing? (lines : List (String × String)) (word : String) : Option String :=
  (lines.reverse.find? fun line => (listed line.2).contains word).map Prod.fst

def unquote (value : String) : String :=
  String.ofList (Text.unquoted value.toList)

/-- A rulebook goes by the last entries of the files. -/
structure GoesBy (book : Rulebook) (disk : Disk) (sources : Sources)
    (templateFiles textFiles : List String) : Prop where
  rules_read : ∀ file ∈ templateFiles ++ [sources.valueKinds, sources.namedBlocks,
    sources.mergedBlocks, sources.parentExceptions], ∃ entries, disk.ruleEntries file = .ok entries
  texts_read : ∀ file ∈ textFiles, ∃ text, disk.readText file = .ok text
  template : ∀ key, (book.template? key).map .ok =
    (latest? (disk.rulesIn templateFiles) (Text.lowerCase key)).map Template.read
  localisation : ∀ key, book.localisation? key =
    ((latest? (disk.rulesIn [sources.countries]) (Text.lowerCase key)).map unquote).or
      (latest? (disk.textsIn (textFiles.filter isEnglish)) (Text.lowerCase key))
  valueKind : ∀ kind, (book.valueKind? kind).map some =
    (lastListing? (disk.rulesIn [sources.valueKinds]) kind).map ValueKind.ofName?
  namingKinds : ∀ kind, book.namingKinds? kind =
    (latest? (disk.rulesIn [sources.namedBlocks]) kind).map listed
  slots : ∀ kind, book.slots? kind =
    (latest? (disk.rulesIn [sources.mergedBlocks]) kind).map listed
  parentExceptions : ∀ parent child, book.isParentException parent child = true ↔
    ∃ line ∈ disk.rulesIn [sources.parentExceptions],
      Text.lowerCase line.1 = parent ∧ child ∈ listed line.2

theorem latest?_words {α : Type} (words : List String) (value : α) (word : String) :
    latest? (words.map (·, value)) word =
      if (Draft.lowerAll words).contains word then some value else none := by
  induction words using List.reverseRecOn with
  | nil => rfl
  | append_singleton words last ih =>
      rw [List.map_append, List.map_singleton, latest?_concat, ih]
      by_cases here : Text.lowerCase last = word
      · simp [Draft.lowerAll, here]
      · simp [Draft.lowerAll, here, Ne.symm here]

theorem lastListing?_concat (lines : List (String × String)) (line : String × String)
    (word : String) : lastListing? (lines ++ [line]) word =
      if (listed line.2).contains word then some line.1 else lastListing? lines word := by
  rw [lastListing?, List.reverse_concat, List.find?_cons]
  split <;> simp_all [lastListing?]

theorem latest?_listings {α : Type} (value : String → α) (lines : List (String × String))
    (word : String) :
    latest? (lines.flatMap fun line => (RuleFile.items line.2).map (·, value line.1)) word =
      (lastListing? lines word).map value := by
  induction lines using List.reverseRecOn with
  | nil => rfl
  | append_singleton lines line ih =>
      rw [List.flatMap_append, List.flatMap_singleton, latest?_append, ih, latest?_words,
        lastListing?_concat, listed]
      split <;> rfl

theorem mem_addParentExceptions_iff (draft : Draft) (entries : List (String × List String))
    (parent child : String) :
    child ∈ (draft.addParentExceptions entries).book.parentExceptions.getD parent [] ↔
      child ∈ draft.book.parentExceptions.getD parent [] ∨
        ∃ entry ∈ entries, Text.lowerCase entry.1 = parent ∧ child ∈ Draft.lowerAll entry.2 := by
  induction entries generalizing draft with
  | nil => simp [Draft.addParentExceptions]
  | cons entry rest ih =>
      have one : child ∈ (draft.addParentExceptions [entry]).book.parentExceptions.getD parent [] ↔
          child ∈ draft.book.parentExceptions.getD parent [] ∨
            Text.lowerCase entry.1 = parent ∧ child ∈ Draft.lowerAll entry.2 := by
        simp only [Draft.addParentExceptions, List.foldl_cons, List.foldl_nil,
          Std.TreeMap.getD_insert, compare_eq_iff_eq]
        split
        · next here => simp [here]
        · next other => simp [other]
      have added : draft.addParentExceptions (entry :: rest) =
          (draft.addParentExceptions [entry]).addParentExceptions rest := rfl
      rw [added, ih, one, or_assoc, List.exists_mem_cons_iff]

theorem templates_of_loadTemplates {templates : List (String × Template)}
    (loaded : loadTemplates disk path = .ok templates) :
    templates.map (Prod.map id Except.ok) =
      (disk.rulesIn [path]).map (Prod.map id Template.read) := by
  rw [loadTemplates] at loaded
  obtain ⟨entries, read, loaded⟩ := bind_eq_ok loaded
  rw [Disk.rulesIn_singleton read, List.map_map]
  refine map_eq_map_of_mapM (fun entry template ok => ?_) loaded
  split at ok
  · next found =>
    obtain rfl := Except.ok.inj ok
    simp [RuleEntry.pair, found]
  · contradiction

theorem lists_of_ruleLists {lists : List (String × List String)}
    (read : disk.ruleLists path = .ok lists) :
    lists = (disk.rulesIn [path]).map (Prod.map id RuleFile.items) := by
  rw [Disk.ruleLists] at read
  obtain ⟨entries, entries_read, read⟩ := bind_eq_ok read
  rw [← Except.ok.inj read, Disk.rulesIn_singleton entries_read, List.map_map]
  rfl

theorem latest?_ruleLists {lists : List (String × List String)}
    (read : disk.ruleLists path = .ok lists) (key : String) :
    latest? (lists.map (Prod.map id Draft.lowerAll)) key =
      (latest? (disk.rulesIn [path]) key).map listed := by
  rw [lists_of_ruleLists read, latest?_map, latest?_map, Option.map_map]
  rfl

theorem latest?_loadValueKinds {kinds : List (String × ValueKind)}
    (loaded : loadValueKinds disk path = .ok kinds) (key : String) :
    (latest? kinds key).map some =
      (lastListing? (disk.rulesIn [path]) key).map ValueKind.ofName? := by
  rw [loadValueKinds] at loaded
  obtain ⟨entries, read, loaded⟩ := bind_eq_ok loaded
  obtain ⟨groups, grouped, loaded⟩ := bind_eq_ok loaded
  obtain rfl := Except.ok.inj loaded
  have same : groups.map (List.map (Prod.map id some)) = entries.map fun entry =>
      (RuleFile.items entry.value).map (·, ValueKind.ofName? entry.key) := by
    refine map_eq_map_of_mapM (fun entry group ok => ?_) grouped
    split at ok
    · next kind found =>
      obtain rfl := Except.ok.inj ok
      simp [found]
    · contradiction
  rw [← latest?_map, List.map_flatten, same, ← List.flatMap_def, ← latest?_listings,
    Disk.rulesIn_singleton read, List.flatMap_map]
  rfl

theorem countries_of_loadCountries {countries : List (String × String)}
    (loaded : loadCountries disk path = .ok countries) :
    countries = (disk.rulesIn [path]).map (Prod.map id unquote) := by
  rw [loadCountries] at loaded
  split at loaded
  · obtain ⟨entries, read, loaded⟩ := bind_eq_ok loaded
    rw [← Except.ok.inj loaded, Disk.rulesIn_singleton read, List.map_map]
    rfl
  · next absent =>
    rw [Disk.rulesIn_of_not_isFile (Bool.eq_false_iff.mpr absent), ← Except.ok.inj loaded]
    rfl

theorem templates_of_mapM {files : List String} {templates : List (List (String × Template))}
    (loaded : files.mapM (loadTemplates disk) = .ok templates) :
    templates.flatten.map (Prod.map id Except.ok) =
      (disk.rulesIn files).map (Prod.map id Template.read) := by
  have each := map_eq_map_of_mapM (fun _ _ => templates_of_loadTemplates) loaded
  rw [List.map_flatten, each, ← List.flatMap_def, ← List.map_flatMap]
  exact congrArg _ (disk.pairsIn_eq RuleFile.entries files).symm

theorem exists_textFiles (sound : disk.isSound = true) (filled : path ≠ "")
    (other : isEnglish path = false) {entries : List (String × String)}
    (loaded : loadGameLocalisation disk path = .ok entries) :
    ∃ files, disk.Lists path files ∧ entries = disk.textsIn (files.filter isEnglish) := by
  rw [loadGameLocalisation] at loaded
  split at loaded
  · obtain ⟨files, listed, loaded⟩ := bind_eq_ok loaded
    obtain ⟨texts, read, loaded⟩ := bind_eq_ok loaded
    refine ⟨files, Disk.lists_of_listFiles sound listed, ?_⟩
    have each : texts.map (fun text => (LocalisationFile.entries text).map RuleEntry.pair) =
        (files.filter isEnglish).map fun file => disk.textsIn [file] :=
      map_eq_map_of_mapM
        (fun _ _ ok => (Disk.pairsIn_singleton ok LocalisationFile.entries).symm) read
    rw [← Except.ok.inj loaded, Disk.textsIn, disk.pairsIn_eq, List.map_flatMap]
    exact congrArg List.flatten each
  · next not_directory =>
    obtain rfl := Except.ok.inj loaded
    cases located : disk.locate path with
    | error error => exact ⟨[], Disk.lists_nil_of_error filled located, rfl⟩
    | ok reached =>
        obtain ⟨entry, above⟩ := reached
        cases entry with
        | directory entries =>
            exact absurd (Disk.isDirectory_iff.mpr ⟨entries, above, located⟩) not_directory
        | file bytes =>
            have listed := Disk.listFiles_ok_iff.mpr ⟨.file bytes, above, located, rfl⟩
            refine ⟨_, Disk.lists_of_listFiles sound listed, ?_⟩
            simp [Disk.Entry.trails, other, Disk.textsIn, Disk.pairsIn]

theorem isEnglish_localisation (sources : Sources) : isEnglish sources.localisation = false := by
  have named : Path.fileName? sources.localisation = some "localisation" :=
    Path.fileName?_join sources.gameRoot (by decide)
  rw [isEnglish, named]
  decide

/-- In a rulebook that has been loaded, the entries that come last in the files count. -/
theorem goesBy_of_load (sound : disk.isSound = true) (loaded : load disk sources = .ok book) :
    ∃ templateFiles textFiles, disk.Lists sources.templates templateFiles ∧
      disk.Lists sources.localisation textFiles ∧
      book.GoesBy disk sources templateFiles textFiles := by
  obtain ⟨parts, modifiers, rfl⟩ := exists_parts_of_load loaded
  obtain ⟨textFiles, texts_listed, localisation⟩ := exists_textFiles sound
    (Path.join_ne_empty sources.gameRoot (by decide)) (isEnglish_localisation sources)
    parts.localisation_read
  have templates_listed := Disk.lists_of_listFiles sound parts.templateFiles_listed
  refine ⟨parts.templateFiles, textFiles, templates_listed, texts_listed, ?_⟩
  constructor
  case rules_read =>
    simp only [List.forall_mem_append, List.forall_mem_cons, List.not_mem_nil, false_imp_iff,
      implies_true, and_true]
    exact ⟨fun file member => Disk.exists_ruleEntries_of_isFile (templates_listed.isFile member),
      (bind_eq_ok parts.valueKinds_read).imp fun _ => And.left,
      (bind_eq_ok parts.namedBlocks_read).imp fun _ => And.left,
      (bind_eq_ok parts.mergedBlocks_read).imp fun _ => And.left,
      (bind_eq_ok parts.parentExceptions_read).imp fun _ => And.left⟩
  case texts_read =>
    exact fun file member => Disk.exists_readText_of_isFile (texts_listed.isFile member)
  case template =>
    intro key
    change ((Draft.enter ∅ parts.templates.flatten)[Text.lowerCase key]?).map Except.ok = _
    rw [Draft.getElem?_enter_empty]
    exact map_latest?_congr (templates_of_mapM parts.templates_read) (Text.lowerCase key)
  case localisation =>
    intro key
    change (Draft.enter ∅ (parts.localisation ++ parts.countries))[Text.lowerCase key]? = _
    rw [Draft.getElem?_enter_empty, latest?_append, localisation,
      countries_of_loadCountries parts.countries_read, latest?_map]
  case valueKind =>
    intro kind
    change ((Draft.enter ∅ parts.valueKinds)[kind]?).map some = _
    rw [Draft.getElem?_enter_empty]
    exact latest?_loadValueKinds parts.valueKinds_read kind
  case namingKinds =>
    intro kind
    exact (Draft.getElem?_enter_empty _ kind).trans
      (latest?_ruleLists parts.namedBlocks_read kind)
  case slots =>
    intro kind
    exact (Draft.getElem?_enter_empty _ kind).trans
      (latest?_ruleLists parts.mergedBlocks_read kind)
  case parentExceptions =>
    intro parent child
    rw [isParentException, List.contains_iff_mem]
    refine (mem_addParentExceptions_iff .empty parts.parentExceptions parent child).trans ?_
    rw [lists_of_ruleLists parts.parentExceptions_read]
    simp [Draft.empty, Rulebook.empty, listed]

def replacingRules : List (String × Disk.Entry) :=
  [("operators.txt", .file .empty),
    ("eu4", .directory [
      ("localisation", .directory [
        ("a.txt", .file "owns: Owns %s".toUTF8), ("b.txt", .file "OWNS: Possesses %s".toUTF8)]),
      ("countries.txt", .file "fra: \"France\"".toUTF8),
      ("lookupRules.txt", .file "country: owns, tag\nprovince: Owns".toUTF8),
      ("namedSections.txt", .file "option: name\noption: title".toUTF8),
      ("exceptions.txt", .file .empty),
      ("parentExceptions.txt", .file "owner: owns\nOWNER: tag".toUTF8),
      ("variations.txt", .file .empty)])]

def replacingDisk : Disk :=
  ⟨[("game", .directory [("localisation", .directory [
      ("text_l_english.yml", .file "FRA:0 \"Frankreich\"\nSWE:0 \"Sweden\"".toUTF8)])]),
    ("rules", .directory replacingRules)], []⟩

def replacingSources : Sources :=
  ⟨"rules", "game", "eu4"⟩

theorem listFiles_replacingDisk :
    replacingDisk.listFiles replacingSources.templates =
        .ok ["rules/eu4/localisation/a.txt", "rules/eu4/localisation/b.txt"] ∧
      replacingDisk.listFiles replacingSources.localisation =
        .ok ["game/localisation/text_l_english.yml"] :=
  ⟨Disk.listFiles_ok_iff.mpr ⟨.directory _, _, rfl, by
      rw [Disk.Entry.trails_of_sorted (by decide)]
      decide⟩,
    Disk.listFiles_ok_iff.mpr ⟨.directory _, _, rfl, by
      rw [Disk.Entry.trails_of_sorted (by decide)]
      decide⟩⟩

def replacingParts : LoadedParts replacingDisk replacingSources where
  templateFiles := ["rules/eu4/localisation/a.txt", "rules/eu4/localisation/b.txt"]
  templates := [[("owns", ⟨"Owns %s", [.literal "Owns ", .value none]⟩)],
    [("OWNS", ⟨"Possesses %s", [.literal "Possesses ", .value none]⟩)]]
  localisation := [("fra", "Frankreich"), ("swe", "Sweden")]
  countries := [("fra", "France")]
  operatorWords := []
  valueKinds := [("owns", .country), ("tag", .country), ("Owns", .province)]
  namedBlocks := [("option", ["name"]), ("option", ["title"])]
  mergedBlocks := []
  parentExceptions := [("owner", ["owns"]), ("OWNER", ["tag"])]
  variations := []
  regions := []
  templateFiles_listed := listFiles_replacingDisk.1
  templates_read := by decide +kernel
  localisation_read := by
    rw [loadGameLocalisation, if_pos (by decide), listFiles_replacingDisk.2]
    decide +kernel
  countries_read := by decide +kernel
  operatorWords_read := by decide +kernel
  valueKinds_read := by decide +kernel
  namedBlocks_read := by decide +kernel
  mergedBlocks_read := by decide +kernel
  parentExceptions_read := by decide +kernel
  variations_read := by decide +kernel
  regions_read := by decide +kernel

def replacingBook : Rulebook :=
  replacingParts.draft.book.withTemplates replacingParts.draft.templates

theorem load_replacing : load replacingDisk replacingSources = .ok replacingBook :=
  replacingParts.load_eq (by decide)

theorem isSound_replacingDisk : replacingDisk.isSound = true := by
  decide

/-- Of two entries for a key the later one counts, and the name that the rules give a country comes
before that of the game. -/
theorem goesBy_replacing :
    replacingDisk.isSound = true ∧ load replacingDisk replacingSources = .ok replacingBook ∧
      (∃ templateFiles textFiles,
        replacingDisk.Lists replacingSources.templates templateFiles ∧
          replacingDisk.Lists replacingSources.localisation textFiles ∧
          replacingBook.GoesBy replacingDisk replacingSources templateFiles textFiles) ∧
      (replacingBook.template? "Owns").map Template.source = some "Possesses %s" ∧
      replacingBook.localisation? "FRA" = some "France" ∧
      replacingBook.localisation? "SWE" = some "Sweden" ∧
      replacingBook.valueKind? "owns" = some .province ∧
      replacingBook.namingKinds? "option" = some ["title"] ∧
      replacingBook.isParentException "owner" "owns" = true ∧
      replacingBook.isParentException "owner" "tag" = true :=
  ⟨isSound_replacingDisk, load_replacing, goesBy_of_load isSound_replacingDisk load_replacing,
    by decide +kernel⟩

/-- Kinds of statements are looked up as they are: a key that is not in lower case has no kind of
value, though the last line lists it in lower case. -/
theorem valueKind?_upperCase :
    load replacingDisk replacingSources = .ok replacingBook ∧
      lastListing? (replacingDisk.rulesIn [replacingSources.valueKinds])
        (Text.lowerCase "OWNS") = some "province" ∧
      replacingBook.valueKind? "OWNS" = none :=
  ⟨load_replacing, by decide +kernel⟩

end Rulebook

end EventWiki
