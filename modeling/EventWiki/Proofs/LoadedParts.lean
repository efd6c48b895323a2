import EventWiki.Proofs.CheckedResults
import EventWiki.Rulebook.Loading

namespace EventWiki.Rulebook

structure LoadedParts (disk : Disk) (sources : Sources) where
  templateFiles : List String
  templates : List (List (String × Template))
  localisation : List (String × String)
  countries : List (String × String)
  operatorWords : List (Operator × String)
  valueKinds : List (String × ValueKind)
  namedBlocks : List (String × List String)
  mergedBlocks : List (String × List String)
  parentExceptions : List (String × List String)
  variations : List (String × String)
  regions : List String
  templateFiles_listed : disk.listFiles sources.templates = .ok templateFiles
  templates_read : templateFiles.mapM (loadTemplates disk) = .ok templates
  localisation_read : loadGameLocalisation disk sources.localisation = .ok localisation
  countries_read : loadCountries disk sources.countries = .ok countries
  operatorWords_read : loadOperatorWords disk sources.operatorWords = .ok operatorWords
  valueKinds_read : loadValueKinds disk sources.valueKinds = .ok valueKinds
  namedBlocks_read : disk.ruleLists sources.namedBlocks = .ok namedBlocks
  mergedBlocks_read : disk.ruleLists sources.mergedBlocks = .ok mergedBlocks
  parentExceptions_read : disk.ruleLists sources.parentExceptions = .ok parentExceptions
  variations_read :
    loadVariations disk sources.variations sources.gameRoot = .ok variations
  regions_read : loadRegions disk sources.regions = .ok regions

variable {disk : Disk} {sources : Sources} {book : Rulebook}

def LoadedParts.draft (parts : LoadedParts disk sources) : Draft :=
  Draft.empty
    |>.addReadTemplates parts.templates.flatten
    |>.addOperatorWords parts.operatorWords
    |>.addValueKinds parts.valueKinds
    |>.addNamedBlocks parts.namedBlocks
    |>.addMergedBlocks parts.mergedBlocks
    |>.addParentExceptions parts.parentExceptions
    |>.addVariations parts.variations
    |>.addLocalisation (parts.localisation ++ parts.countries)
    |>.addRegions parts.regions

theorem exists_parts_of_loadDraft {draft : Draft} (loaded : loadDraft disk sources = .ok draft) :
    ∃ parts : LoadedParts disk sources, draft = parts.draft := by
  rw [loadDraft] at loaded
  obtain ⟨templateFiles, templateFiles_listed, loaded⟩ := bind_eq_ok loaded
  obtain ⟨templates, templates_read, loaded⟩ := bind_eq_ok loaded
  obtain ⟨localisation, localisation_read, loaded⟩ := bind_eq_ok loaded
  obtain ⟨countries, countries_read, loaded⟩ := bind_eq_ok loaded
  obtain ⟨operatorWords, operatorWords_read, loaded⟩ := bind_eq_ok loaded
  obtain ⟨valueKinds, valueKinds_read, loaded⟩ := bind_eq_ok loaded
  obtain ⟨namedBlocks, namedBlocks_read, loaded⟩ := bind_eq_ok loaded
  obtain ⟨mergedBlocks, mergedBlocks_read, loaded⟩ := bind_eq_ok loaded
  obtain ⟨parentExceptions, parentExceptions_read, loaded⟩ := bind_eq_ok loaded
  obtain ⟨variations, variations_read, loaded⟩ := bind_eq_ok loaded
  obtain ⟨regions, regions_read, loaded⟩ := bind_eq_ok loaded
  exact ⟨⟨templateFiles, templates, localisation, countries, operatorWords, valueKinds,
    namedBlocks, mergedBlocks, parentExceptions, variations, regions, templateFiles_listed,
    templates_read, localisation_read, countries_read, operatorWords_read, valueKinds_read,
    namedBlocks_read, mergedBlocks_read, parentExceptions_read, variations_read,
    regions_read⟩, (Except.ok.inj loaded).symm⟩

theorem LoadedParts.build_draft (parts : LoadedParts disk sources) :
    parts.draft.build = .ok (parts.draft.book.withTemplates parts.draft.templates) :=
  rfl

theorem LoadedParts.loadDraft_eq (parts : LoadedParts disk sources) :
    loadDraft disk sources = .ok parts.draft := by
  simp only [loadDraft, bind, Except.bind, parts.templateFiles_listed, parts.templates_read, parts.localisation_read,
    parts.countries_read, parts.operatorWords_read, parts.valueKinds_read, parts.namedBlocks_read,
    parts.mergedBlocks_read, parts.parentExceptions_read, parts.variations_read,
    parts.regions_read]
  rfl

/-- Without modifiers in the game, the parts make up the whole rulebook. -/
theorem LoadedParts.load_eq (parts : LoadedParts disk sources)
    (no_modifiers : disk.isPresent sources.modifiers = false) :
    load disk sources = .ok (parts.draft.book.withTemplates parts.draft.templates) := by
  rw [load, parts.loadDraft_eq]
  simp only [loadModifiers, no_modifiers]
  rfl

theorem exists_parts_of_load (loaded : load disk sources = .ok book) :
    ∃ (parts : LoadedParts disk sources) (modifiers : List (String × List String)),
      book = (parts.draft.book.withTemplates parts.draft.templates).withModifiers modifiers := by
  rw [load] at loaded
  obtain ⟨draft, drafted, loaded⟩ := bind_eq_ok loaded
  obtain ⟨built, finished, loaded⟩ := bind_eq_ok loaded
  obtain ⟨modifiers, _, loaded⟩ := bind_eq_ok loaded
  obtain ⟨parts, rfl⟩ := exists_parts_of_loadDraft drafted
  rw [parts.build_draft] at finished
  obtain rfl := Except.ok.inj finished
  exact ⟨parts, modifiers, (Except.ok.inj loaded).symm⟩

end EventWiki.Rulebook
