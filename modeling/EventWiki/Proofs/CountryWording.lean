import EventWiki.Proofs.StatementWording

namespace EventWiki.Rulebook

/-! The key for countries is chosen by what is there outside the block. -/

variable {book : Rulebook} {kind parent value : String} {token : Token} {template : Template}

def countrySuffix : String := "_country"

def blockKey (parent kind : String) : String :=
  parent ++ "_" ++ kind

theorem isCountryReference_of_classify (country : book.classify kind (some value) = .country) :
    Value.isCountryReference value = true := by
  by_contra refers
  rw [Bool.not_eq_true] at refers
  simp only [classify] at country
  split at country <;> simp_all

theorem formatValue_of_country (valued : token.value = some value)
    (country : book.classify token.kind token.value = .country) (template : Option Template) :
    book.formatValue token .country template = book.countryName value := by
  rw [valued] at country
  rw [formatValue, valued]
  simp only [formatPlain, isCountryReference_of_classify country, if_true]

theorem templateKey_of_exception (country : book.classify token.kind token.value = .country)
    (listed : book.isParentException parent token.kind = true) :
    book.templateKey (some parent) token =
      blockKey parent
        (if book.hasTemplate (token.kind ++ countrySuffix) then token.kind ++ countrySuffix
        else token.kind) := by
  simp only [templateKey, country, listed, if_true]
  rfl

theorem localize_of_template (own : book.variation? token.kind = none)
    (valued : token.value = some value)
    (country : book.classify token.kind token.value = .country)
    (found : book.template? (book.templateKey (some parent) token) = some template) :
    book.localize (some parent) token false =
      ⟨template.render [book.countryName value] (book.shownWord? token.operator false), none⟩ := by
  have key_eq : book.wordedKey (some parent) token = book.templateKey (some parent) token := by
    rw [wordedKey, own, Option.getD_none]
  have worded : book.wording? (book.wordedKey (some parent) token) false = some (.plain template) := by
    simp [wording?, key_eq, found]
  have value_eq : book.formattedValue (some parent) token = book.countryName value := by
    rw [formattedValue, own, Option.isSome_none, if_neg Bool.false_ne_true, country,
      formatValue_of_country valued country]
  rw [localize_of_wording worded, offeredValues_of_own own (by simp [valued]), value_eq, wordingText,
    substitute_eq_render]

/-- The template of a block for statements of a kind on countries: one for countries, or else the
one for the kind. -/
def countryTemplate? (book : Rulebook) (parent kind : String) : Option Template :=
  book.template? (blockKey parent (kind ++ countrySuffix)) <|> book.template? (blockKey parent kind)

/-- A statement on a country is worded by the template that its block has for it. -/
def ShowsCountry (book : Rulebook) (parent : String) (token : Token) (value : String) : Prop :=
  ∀ template, book.countryTemplate? parent token.kind = some template →
    book.localize (some parent) token false =
      ⟨template.render [book.countryName value] (book.shownWord? token.operator false), none⟩

/-- In a block with wordings of its own a statement on a country is worded by the one for countries,
or else by the one for the kind, unless only one of block and outside has a wording for countries. -/
theorem localize_country_exception (own : book.variation? token.kind = none)
    (valued : token.value = some value)
    (country : book.classify token.kind token.value = .country)
    (listed : book.isParentException parent token.kind = true)
    (agree : book.hasTemplate (blockKey parent (token.kind ++ countrySuffix)) =
      book.hasTemplate (token.kind ++ countrySuffix)) :
    book.ShowsCountry parent token value := by
  intro template found
  have key_eq := templateKey_of_exception country listed
  apply localize_of_template own valued country
  rw [key_eq, ← agree, hasTemplate]
  rcases (Option.orElse_eq_some ..).mp found with special | ⟨missing, usual⟩
  · rw [special]
    exact special
  · rw [missing]
    exact usual

def ownedTemplate : Template :=
  ⟨"Owned by %s", [.literal "Owned by ", .value none]⟩

def provinceOwnedTemplate : Template :=
  ⟨"Any owned province is owned by %s", [.literal "Any owned province is owned by ", .value none]⟩

def ownerBook (templates : List (String × Template)) : Rulebook :=
  { empty.withTemplates (.ofList templates) with
    valueKinds := (∅ : Dictionary ValueKind).insert "owned_by" .country
    parentExceptions := (∅ : Dictionary (List String)).insert "any_owned_province" ["owned_by"]
    localisation := (∅ : Dictionary String).insert "fra" "France" }

def ownedByFrance : Token :=
  ⟨"owned_by", some .equal, some "FRA"⟩

theorem localize_country_exception_of_owner :
    (ownerBook [("any_owned_province_owned_by", provinceOwnedTemplate)]).localize
        (some "any_owned_province") ownedByFrance false =
          ⟨"Any owned province is owned by France", none⟩ ∧
      (ownerBook [("owned_by_country", ownedTemplate),
          ("any_owned_province_owned_by", ownedTemplate),
          ("any_owned_province_owned_by_country", provinceOwnedTemplate)]).localize
        (some "any_owned_province") ownedByFrance false =
          ⟨"Any owned province is owned by France", none⟩ := by
  constructor
  · rw [localize_country_exception (by decide +kernel) rfl (by decide +kernel) (by decide +kernel)
      (by decide +kernel) provinceOwnedTemplate (by decide +kernel)]
    decide +kernel
  · rw [localize_country_exception (by decide +kernel) rfl (by decide +kernel) (by decide +kernel)
      (by decide +kernel) provinceOwnedTemplate (by decide +kernel)]
    decide +kernel

def outsideBook : Rulebook :=
  ownerBook [("owned_by_country", ownedTemplate),
    ("any_owned_province_owned_by", provinceOwnedTemplate)]

/-- A wording for countries outside the block hides the wording that the block has. -/
theorem not_localize_country_exception :
    outsideBook.localize (some "any_owned_province") ownedByFrance false =
        ⟨"owned_by: FRA", some "any_owned_province_owned_by_country"⟩ ∧
      ¬∀ (book : Rulebook) (parent value : String) (token : Token),
        book.variation? token.kind = none → token.value = some value →
        book.classify token.kind token.value = .country →
        book.isParentException parent token.kind = true →
        book.ShowsCountry parent token value := by
  have shown : outsideBook.localize (some "any_owned_province") ownedByFrance false =
      ⟨"owned_by: FRA", some "any_owned_province_owned_by_country"⟩ := by
    decide +kernel
  refine ⟨shown, fun law => ?_⟩
  have worded := law outsideBook "any_owned_province" "FRA" ownedByFrance (by decide +kernel) rfl
    (by decide +kernel) (by decide +kernel) provinceOwnedTemplate (by decide +kernel)
  rw [shown] at worded
  simp at worded

end EventWiki.Rulebook
