import EventWiki.Proofs.DraftEntries

namespace EventWiki.Rulebook.Draft

/-! A table of the finished rulebook depends on the entries that were added to it, in their order,
and on nothing else. -/

inductive Table where
  | unreadTemplates
  | templates
  | operatorWords
  | valueKinds
  | namedBlocks
  | mergedBlocks
  | parentExceptions
  | variations
  | localisation
  | regions
  deriving DecidableEq, Repr

abbrev Table.Entry : Table → Type
  | unreadTemplates => String × String
  | templates => String × Template
  | operatorWords => Operator × String
  | valueKinds => String × ValueKind
  | namedBlocks => String × List String
  | mergedBlocks => String × List String
  | parentExceptions => String × List String
  | variations => String × String
  | localisation => String × String
  | regions => String

structure Addition where
  table : Table
  entries : List table.Entry

def add (draft : Draft) : Addition → Draft
  | ⟨.unreadTemplates, entries⟩ => draft.addTemplates entries
  | ⟨.templates, entries⟩ => draft.addReadTemplates entries
  | ⟨.operatorWords, entries⟩ => draft.addOperatorWords entries
  | ⟨.valueKinds, entries⟩ => draft.addValueKinds entries
  | ⟨.namedBlocks, entries⟩ => draft.addNamedBlocks entries
  | ⟨.mergedBlocks, entries⟩ => draft.addMergedBlocks entries
  | ⟨.parentExceptions, entries⟩ => draft.addParentExceptions entries
  | ⟨.variations, entries⟩ => draft.addVariations entries
  | ⟨.localisation, entries⟩ => draft.addLocalisation entries
  | ⟨.regions, entries⟩ => draft.addRegions entries

def ofAdditions (additions : List Addition) : Draft :=
  additions.foldl add empty

def Addition.entriesFor (addition : Addition) (table : Table) : List table.Entry :=
  if same : addition.table = table then same ▸ addition.entries else []

def entriesFor (additions : List Addition) (table : Table) : List table.Entry :=
  additions.flatMap fun addition => addition.entriesFor table

/-- The draft to which every table is added once. -/
def ofEntries (entries : (table : Table) → List table.Entry) : Draft :=
  empty
    |>.addTemplates (entries .unreadTemplates)
    |>.addReadTemplates (entries .templates)
    |>.addOperatorWords (entries .operatorWords)
    |>.addValueKinds (entries .valueKinds)
    |>.addNamedBlocks (entries .namedBlocks)
    |>.addMergedBlocks (entries .mergedBlocks)
    |>.addParentExceptions (entries .parentExceptions)
    |>.addVariations (entries .variations)
    |>.addLocalisation (entries .localisation)
    |>.addRegions (entries .regions)

variable {additions others : List Addition}

@[simp] theorem Addition.entriesFor_self (table : Table) (entries : List table.Entry) :
    (Addition.mk table entries).entriesFor table = entries := by
  simp [entriesFor]

theorem Addition.entriesFor_of_ne {addition : Addition} {table : Table}
    (other : addition.table ≠ table) : addition.entriesFor table = [] := by
  simp [entriesFor, other]

@[simp] theorem entriesFor_append (additions others : List Addition) (table : Table) :
    entriesFor (additions ++ others) table =
      entriesFor additions table ++ entriesFor others table :=
  List.flatMap_append

theorem entriesFor_concat (additions : List Addition) (addition : Addition) :
    entriesFor (additions ++ [addition]) =
      fun table => entriesFor additions table ++ addition.entriesFor table := by
  funext table
  simp [entriesFor]

theorem add_ofEntries (entries : (table : Table) → List table.Entry) (addition : Addition) :
    (ofEntries entries).add addition =
      ofEntries fun table => entries table ++ addition.entriesFor table := by
  obtain ⟨table, added⟩ := addition
  cases table <;>
    simp [ofEntries, add, Addition.entriesFor, addTemplates, addReadTemplates, addOperatorWords,
      addValueKinds, addNamedBlocks, addMergedBlocks, addParentExceptions, addVariations,
      addLocalisation, addRegions, enter_append, lowerAll]

theorem ofAdditions_eq (additions : List Addition) :
    ofAdditions additions = ofEntries (entriesFor additions) := by
  induction additions using List.reverseRecOn with
  | nil => rfl
  | append_singleton additions addition ih =>
      rw [ofAdditions, List.foldl_append, List.foldl_cons, List.foldl_nil, ← ofAdditions, ih,
        add_ofEntries, entriesFor_concat]

theorem unread_ofEntries (entries : (table : Table) → List table.Entry) :
    (ofEntries entries).unread = entries .unreadTemplates := rfl

theorem templates_ofEntries (entries : (table : Table) → List table.Entry) :
    (ofEntries entries).templates = enter ∅ (entries .templates) := rfl

/-- The same entries with those of each table in the same order: the additions to different tables
come in another order, or one addition is parcelled out into several. -/
inductive Regrouped : List Addition → List Addition → Prop where
  | reordered {additions others : List Addition}
      (same : ∀ table, additions.filter (·.table = table) = others.filter (·.table = table)) :
      Regrouped additions others
  | split (front : List Addition) (table : Table) (parts : List (List table.Entry))
      (rest : List Addition) :
      Regrouped (front ++ ⟨table, parts.flatten⟩ :: rest)
        (front ++ parts.map (Addition.mk table) ++ rest)
  | trans {first second third : List Addition} (step : Regrouped first second)
      (more : Regrouped second third) : Regrouped first third

theorem entriesFor_filter (additions : List Addition) (table : Table) :
    entriesFor (additions.filter (·.table = table)) table = entriesFor additions table := by
  induction additions with
  | nil => rfl
  | cons addition rest ih =>
      rw [List.filter_cons]
      split
      · rw [entriesFor, entriesFor, List.flatMap_cons, List.flatMap_cons, ← entriesFor, ih,
          ← entriesFor]
      · next other =>
        rw [ih, entriesFor, entriesFor, List.flatMap_cons,
          Addition.entriesFor_of_ne (by simpa using other), List.nil_append]

theorem entriesFor_parts (table other : Table) (parts : List (List table.Entry)) :
    entriesFor (parts.map (Addition.mk table)) other =
      (Addition.mk table parts.flatten).entriesFor other := by
  rw [entriesFor, List.flatMap_map]
  by_cases same : table = other
  · subst same
    simp only [Addition.entriesFor_self]
    exact List.flatMap_id
  · simp [Addition.entriesFor, same]

theorem Regrouped.entriesFor_eq (regrouped : Regrouped additions others) :
    entriesFor additions = entriesFor others := by
  induction regrouped with
  | reordered same =>
      funext table
      rw [← entriesFor_filter, same, entriesFor_filter]
  | split front table parts rest =>
      funext other
      rw [entriesFor_append, entriesFor_append, entriesFor_append, entriesFor_parts,
        List.append_assoc]
      rfl
  | trans _ _ first second => exact first.trans second

/-- A finished rulebook knows which of its templates have a place for the operator and which
introduce a section, whatever was replaced on the way; the last template that was added for a key
counts, those that were added read before all others. How the entries were grouped does not
matter. -/
theorem build_additions {book : Rulebook} (built : (ofAdditions additions).build = .ok book) :
    (∀ key,
      (book.isOperatorAware key = true ↔
        ∃ template, book.template? key = some template ∧ template.hasOperator = true) ∧
      (book.isSectionHeader key = true ↔
        ∃ template, book.template? key = some template ∧ template.isSectionHeader = true) ∧
      (book.template? key).map .ok =
        ((latest? (entriesFor additions .unreadTemplates) (Text.lowerCase key)).map
          Template.read).or
          ((latest? (entriesFor additions .templates) (Text.lowerCase key)).map .ok)) ∧
      ∀ others, Regrouped additions others → (ofAdditions others).build = .ok book := by
  refine ⟨fun key => ⟨?_, ?_, ?_⟩, fun others regrouped => ?_⟩
  · rw [isOperatorAware_eq, Option.any_eq_true]
  · rw [isSectionHeader_eq, Option.any_eq_true]
  · rw [template?_of_build built, ofAdditions_eq, unread_ofEntries, templates_ofEntries,
      getElem?_enter_empty]
  · rw [ofAdditions_eq, ← regrouped.entriesFor_eq, ← ofAdditions_eq, built]

def yearTemplate : Template :=
  ⟨"Year is [OPERATOR] %s", [.literal "Year is ", .operator, .literal " ", .value none]⟩

def yearAdditions : List Addition :=
  [⟨.unreadTemplates, [("IS_YEAR", "Year: %s"), ("Trigger", "Conditions:")]⟩,
    ⟨.localisation, [("FRA", "France")]⟩, ⟨.templates, [("is_year", yearTemplate)]⟩]

def regroupedAdditions : List Addition :=
  [⟨.templates, [("is_year", yearTemplate)]⟩, ⟨.unreadTemplates, [("IS_YEAR", "Year: %s")]⟩,
    ⟨.localisation, [("FRA", "France")]⟩, ⟨.unreadTemplates, [("Trigger", "Conditions:")]⟩]

theorem regrouped_yearAdditions : Regrouped yearAdditions regroupedAdditions := by
  refine .trans (.split [] .unreadTemplates
    [[("IS_YEAR", "Year: %s")], [("Trigger", "Conditions:")]] _) (.reordered fun table => ?_)
  cases table <;> rfl

theorem build_yearAdditions : ∃ book, (ofAdditions yearAdditions).build = .ok book ∧
    book.isOperatorAware "is_year" = false ∧ book.isSectionHeader "TRIGGER" = true ∧
      (ofAdditions regroupedAdditions).build = .ok book := by
  have read : readAll (ofAdditions yearAdditions).unread =
      .ok [("IS_YEAR", ⟨"Year: %s", [.literal "Year: ", .value none]⟩),
        ("Trigger", ⟨"Conditions:", [.literal "Conditions:"]⟩)] := by
    decide +kernel
  have built := build_ok_iff.mpr ⟨_, read, rfl⟩
  obtain ⟨known, regrouped⟩ := build_additions built
  refine ⟨_, built, ?_, ?_, regrouped _ regrouped_yearAdditions⟩
  · rw [Bool.eq_false_iff]
    intro aware
    obtain ⟨template, found, has_operator⟩ := (known "is_year").1.mp aware
    have same := (known "is_year").2.2
    rw [found] at same
    have last : (latest? (entriesFor yearAdditions .unreadTemplates) "is_year").map
        Template.read = some (.ok ⟨"Year: %s", [.literal "Year: ", .value none]⟩) := by
      decide +kernel
    have lower : Text.lowerCase "is_year" = "is_year" := by decide +kernel
    rw [lower, last] at same
    obtain rfl := Except.ok.inj (Option.some.inj same)
    revert has_operator
    decide
  · exact (known "TRIGGER").2.1.mpr
      ⟨⟨"Conditions:", [.literal "Conditions:"]⟩, by decide +kernel, by decide +kernel⟩

end EventWiki.Rulebook.Draft
