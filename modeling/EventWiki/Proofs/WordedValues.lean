import EventWiki.Findings
import EventWiki.Proofs.StatementWording

namespace EventWiki

theorem Findings.recordAll_empty_iff {kinds : List String} :
    Findings.empty.recordAll kinds = .empty ↔ kinds = [] := by
  constructor
  · intro same
    rw [List.eq_nil_iff_forall_not_mem]
    intro kind member
    have recorded : kind ∈ Findings.empty.recordAll kinds := Findings.mem_recordAll.mpr (.inl member)
    rw [same] at recorded
    exact Findings.not_mem_empty kind recorded
  · rintro rfl
    rfl

namespace Rulebook

variable {book : Rulebook} {parent : Option String} {token : Token} {kind : String}
  {inverted : Bool}

/-- A template makes a text of some values. A section header is changed into one of which nothing
holds where the statement is inverted. -/
inductive Renders (book : Rulebook) (values : List String) (inverted : Bool) (text : String) :
    Prop where
  | whole (key : String) (template : Template) (word : Option String)
      (found : book.template? key = some template) (text_eq : text = template.render values word)
  | header (key : String) (template : Template) (word : Option String)
      (found : book.template? key = some template) (inverts : inverted = true)
      (is_header : template.isSectionHeader = true)
      (text_eq : text = noneOfTheFollowing (template.render values word))

/-- The names that a kind of statement may have as a place or as a country. -/
inductive ScopeName (book : Rulebook) (kind : String) : String → Prop where
  | province {name : String} (known : book.localisation? ("prov" ++ kind) = some name) :
      ScopeName book kind name
  | state {name : String} (known : book.localisation? ("state_" ++ kind) = some name) :
      ScopeName book kind name
  | region (known : book.isRegion kind = true) : ScopeName book kind (book.nameOf kind)
  | country {name : String} (refers : Value.isCountryReference kind = true)
      (known : book.countryName? kind = some name) : ScopeName book kind name

theorem renders_of_wording {key : String} {wording : Wording}
    (worded : book.wording? key inverted = some wording) (operator : Option Operator)
    (values : List String) :
    book.Renders values inverted (book.wordingText operator inverted values wording) := by
  cases worded_of_wording? worded with
  | plain template found aware => exact .whole key template _ found (substitute_eq_render ..)
  | contrary template found inverts usual =>
      exact .whole _ template _ found (substitute_eq_render ..)
  | header template found inverts is_header =>
      refine .header key template (book.shownWord? operator inverted) found inverts is_header ?_
      rw [wordingText, substitute_eq_render]

theorem scopeHeader?_eq_some {header : String}
    (found : book.scopeHeader? kind inverted = some header) : ∃ name, book.ScopeName kind name ∧
      header = name ++ (if inverted then Phrase.noneOfTheFollowing else "") ++ ":" := by
  obtain ⟨name, known, rfl⟩ := Option.map_eq_some_iff.mp found
  refine ⟨name, ?_, rfl⟩
  rcases (Option.orElse_eq_some ..).mp known with province | ⟨_, known⟩
  · exact .province province
  rcases (Option.orElse_eq_some ..).mp known with state | ⟨_, known⟩
  · exact .state state
  rcases (Option.orElse_eq_some ..).mp known with region | ⟨_, known⟩
  · split at region
    · next is_region =>
      obtain rfl := Option.some.inj region
      exact .region is_region
    · contradiction
  · split at known
    · next refers => exact .country refers known
    · contradiction

/-- The value of a statement that is not reported goes into a template, unless the statement has no
wording and is the header of a place or a country that its kind names. -/
theorem localize_unreported (valued : token.value ≠ none)
    (unreported : Findings.empty.recordAll (book.localize parent token inverted).missing.toList =
      .empty) :
    (book.formattedValue parent token ∈ book.offeredValues parent token ∧
      book.Renders (book.offeredValues parent token) inverted
        (book.localize parent token inverted).text) ∨
    (book.variation? token.kind = none ∧
      book.wording? (book.wordedKey parent token) inverted = none ∧
      ∃ name, book.ScopeName token.kind name ∧
        (book.localize parent token inverted).text =
          name ++ (if inverted then Phrase.noneOfTheFollowing else "") ++ ":") := by
  rw [Findings.recordAll_empty_iff] at unreported
  cases worded : book.wording? (book.wordedKey parent token) inverted with
  | some wording =>
      rw [localize_of_wording worded]
      exact .inl ⟨formattedValue_mem_offeredValues valued,
        renders_of_wording worded token.operator _⟩
  | none =>
      by_cases no_header : book.variation? token.kind = none →
          book.scopeHeader? token.kind inverted = none
      · rw [localize_of_nothing worded no_header] at unreported
        contradiction
      · obtain ⟨own, has_header⟩ := Classical.not_imp.mp no_header
        obtain ⟨header, found⟩ := Option.ne_none_iff_exists'.mp has_header
        rw [localize_of_scopeHeader worded own found]
        exact .inr ⟨own, rfl, scopeHeader?_eq_some found⟩

def templeBook : Rulebook :=
  { empty.withTemplates ((∅ : Dictionary Template).insert "has_building"
      ⟨"Has building %s with level %s",
        [.literal "Has building ", .value none, .literal " with level ", .value none]⟩) with
    variations := (∅ : Dictionary String).insert "temple" "has_building"
    localisation := (∅ : Dictionary String).insert "building_temple" "Temple" }

def temple : Token :=
  ⟨"temple", some .equal, some "2"⟩

theorem localize_unreported_temple :
    templeBook.localize (some "trigger") temple false =
        ⟨"Has building Temple with level 2", none⟩ ∧
      templeBook.Renders ["Temple", "2"] false "Has building Temple with level 2" := by
  have text_eq : templeBook.localize (some "trigger") temple false =
      ⟨"Has building Temple with level 2", none⟩ := by
    decide +kernel
  have values_eq : templeBook.offeredValues (some "trigger") temple = ["Temple", "2"] := by
    decide +kernel
  have variation : templeBook.variation? temple.kind ≠ none := by decide +kernel
  refine ⟨text_eq, ?_⟩
  rcases @localize_unreported templeBook (some "trigger") temple false (by decide)
    (by rw [text_eq]; rfl) with ⟨_, renders⟩ | ⟨own, _⟩
  · rwa [values_eq, text_eq] at renders
  · exact absurd own variation

def provinceBook : Rulebook :=
  { empty with localisation := (∅ : Dictionary String).insert "prov118" "Roma" }

def provinceFive : Token :=
  ⟨"118", some .equal, some "5"⟩

/-- The header of a province is not reported, and shows no value. -/
theorem not_localize_unreported_province :
    provinceBook.localize (some rootKind) provinceFive false = ⟨"Roma:", none⟩ ∧
      ¬∀ (book : Rulebook) (parent : Option String) (token : Token) (inverted : Bool),
        token.value ≠ none →
        Findings.empty.recordAll (book.localize parent token inverted).missing.toList = .empty →
        ∃ values, book.formattedValue parent token ∈ values ∧
          book.Renders values inverted (book.localize parent token inverted).text := by
  have text_eq : provinceBook.localize (some rootKind) provinceFive false = ⟨"Roma:", none⟩ := by
    decide +kernel
  have no_template (key : String) : provinceBook.template? key = none := by
    simp [template?, provinceBook, empty]
  refine ⟨text_eq, fun law => ?_⟩
  obtain ⟨values, _, renders⟩ := law provinceBook (some rootKind) provinceFive false (by decide)
    (by rw [text_eq]; rfl)
  cases renders with
  | whole key template word found | header key template word found =>
      rw [no_template key] at found
      contradiction

end Rulebook

end EventWiki
