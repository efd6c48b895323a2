import EventWiki.Proofs.StatementWording
import EventWiki.Proofs.WrittenNumbers

namespace EventWiki

namespace Template

/-- A number as a template asks for it: as a percentage, and with the sign of a positive number
where the text begins with it. -/
def numberText (template : Template) (raw : String) (number : Float) : String :=
  let text := if template.hasPercent then Value.formatPercentage number else raw
  if template.startsWithValue = true ∧ 0.0 < number then "+" ++ text else text

/-- Two templates ask for numbers in one form. No template asks for a number as it is written. -/
structure AsksAlike (usual : Option Template) (template : Template) : Prop where
  percent : usual.any hasPercent = template.hasPercent
  sign : usual.any startsWithValue = template.startsWithValue

end Template

namespace Value

variable {raw : String}

theorem formatNumber_congr {usual : Option Template} {template : Template}
    (alike : Template.AsksAlike usual template) (raw : String) (number : Float) :
    formatNumber raw number usual = formatNumber raw number (some template) := by
  simp only [formatNumber, alike.percent, alike.sign, Option.any_some]

theorem IsPlainNumber.formatNumber_eq (plain : IsPlainNumber raw) (number : Float)
    (template : Template) :
    formatNumber raw number (some template) = template.numberText raw number := by
  have unsigned : (if template.hasPercent then formatPercentage number else raw).toList.head? ≠
      some '+' := by
    split
    · exact head?_formatPercentage number
    · exact plain.no_plus
  simp only [formatNumber, Template.numberText, Option.any_some, bne_iff_ne, Bool.and_eq_true,
    decide_eq_true_eq, and_iff_left unsigned]

end Value

namespace Rulebook

variable {book : Rulebook} {parent : Option String} {token : Token} {raw : String}
  {inverted : Bool} {wording : Wording}

theorem formatValue_of_plainNumber (valued : token.value = some raw)
    (plain : Value.IsPlainNumber raw) {number : Float} (read : Decimal.float? raw = some number)
    {kind : ValueKind} (counts : kind ∉ [.province, .state, .days, .months, .years])
    (template : Option Template) :
    book.formatValue token kind template = Value.formatNumber raw number template := by
  have plain_eq : book.formatPlain raw template = Value.formatNumber raw number template := by
    simp [formatPlain, plain.not_isCountryReference, plain.not_isLookupEligible, plain.numeric, read]
  rw [formatValue, valued]
  cases kind with
  | country | other => exact plain_eq
  | province | state | days | months | years => simp at counts

/-- The number of a statement stands in its text as the template of the text asks for it. -/
def ShowsNumber (book : Rulebook) (parent : Option String) (token : Token) (raw : String)
    (number : Float) (inverted : Bool) : Prop :=
  ∀ wording, book.wording? (book.templateKey parent token) inverted = some wording →
    book.localize parent token inverted =
      ⟨book.wordingText token.operator inverted [wording.template.numberText raw number] wording,
        none⟩

theorem localize_plainNumber (valued : token.value = some raw) (plain : Value.IsPlainNumber raw)
    (counts : book.classify token.kind token.value ∉ [.province, .state, .days, .months, .years])
    (own : book.variation? token.kind = none) {number : Float}
    (read : Decimal.float? raw = some number)
    (worded : book.wording? (book.templateKey parent token) inverted = some wording) :
    book.localize parent token inverted =
      ⟨book.wordingText token.operator inverted
        [Value.formatNumber raw number (book.template? (book.templateKey parent token))] wording,
        none⟩ := by
  have key_eq : book.wordedKey parent token = book.templateKey parent token := by
    rw [wordedKey, own, Option.getD_none]
  have value_eq : book.formattedValue parent token =
      Value.formatNumber raw number (book.template? (book.templateKey parent token)) := by
    rw [formattedValue, key_eq, own, Option.isSome_none, if_neg Bool.false_ne_true,
      formatValue_of_plainNumber valued plain read counts]
  rw [← key_eq] at worded
  rw [localize_of_wording worded, offeredValues_of_own own (by simp [valued]), value_eq]

/-- A number is shown as its template asks for it, unless this is the template of the inverted case
and asks for another form than the usual one. -/
theorem localize_number (valued : token.value = some raw) (plain : Value.IsPlainNumber raw)
    (counts : book.classify token.kind token.value ∉ [.province, .state, .days, .months, .years])
    (own : book.variation? token.kind = none) :
    ∃ number, Decimal.float? raw = some number ∧ ∀ inverted,
      (∀ template,
        book.wording? (book.templateKey parent token) inverted = some (.contrary template) →
          Template.AsksAlike (book.template? (book.templateKey parent token)) template) →
      book.ShowsNumber parent token raw number inverted := by
  obtain ⟨number, read⟩ := plain.exists_float?
  refine ⟨number, read, fun inverted alike wording worded => ?_⟩
  rw [localize_plainNumber valued plain counts own read worded, ← plain.formatNumber_eq]
  rcases template?_of_wording worded with found | ⟨template, rfl⟩
  · rw [found]
  · rw [Value.formatNumber_congr (alike template worded) raw number]
    rfl

def stabilityTemplate : Template :=
  ⟨"%s stability", [.value none, .literal " stability"]⟩

def noPrestigeTemplate : Template :=
  ⟨"No change of %s in prestige", [.literal "No change of ", .value none, .literal " in prestige"]⟩

def prestigeBook : Rulebook :=
  { empty.withTemplates ((((∅ : Dictionary Template).insert "prestige"
        ⟨"%s prestige", [.value none, .literal " prestige"]⟩).insert "prestige_false"
          noPrestigeTemplate).insert "trigger_stability" stabilityTemplate) with
    parentExceptions := (∅ : Dictionary (List String)).insert "trigger" ["stability"] }

def five (kind : String) : Token :=
  ⟨kind, some .equal, some "5"⟩

theorem isPlainNumber_five : Value.IsPlainNumber "5" where
  numeric := by decide +kernel
  ascii c member _ := by
    obtain rfl : c = '5' := by simpa using member
    decide

theorem localize_number_of_stability :
    prestigeBook.localize (some "trigger") (five "stability") false = ⟨"+5 stability", none⟩ := by
  obtain ⟨number, read, shows⟩ := @localize_number prestigeBook (some "trigger")
    (five "stability") "5" rfl isPlainNumber_five (by decide +kernel) (by decide +kernel)
  have worded : prestigeBook.wording? (prestigeBook.templateKey (some "trigger") (five "stability"))
      false = some (.plain stabilityTemplate) := by
    decide +kernel
  have positive : 0.0 < number := by
    have computed : (Decimal.float? "5").all (0.0 < ·) = true := by decide +kernel
    simpa [read] using computed
  have signed : stabilityTemplate.numberText "5" number = "+5" := by
    have no_percent : stabilityTemplate.hasPercent = false := by decide +kernel
    rw [Template.numberText, no_percent, if_pos ⟨rfl, positive⟩]
    rfl
  rw [shows false (fun template contrary => by simp [worded] at contrary) _ worded, Wording.template,
    signed]
  decide +kernel

/-- In the inverted case the sign that the usual wording asks for is left in another one. -/
theorem not_localize_number_inverted :
    prestigeBook.localize (some rootKind) (five "prestige") true =
        ⟨"No change of +5 in prestige", none⟩ ∧
      ¬∀ (book : Rulebook) (parent : Option String) (token : Token) (raw : String),
        token.value = some raw → Value.IsPlainNumber raw →
        book.classify token.kind token.value ∉ [.province, .state, .days, .months, .years] →
        book.variation? token.kind = none →
        ∃ number, Decimal.float? raw = some number ∧
          ∀ inverted, book.ShowsNumber parent token raw number inverted := by
  have shown : prestigeBook.localize (some rootKind) (five "prestige") true =
      ⟨"No change of +5 in prestige", none⟩ := by
    decide +kernel
  have worded : prestigeBook.wording?
      (prestigeBook.templateKey (some rootKind) (five "prestige")) true =
        some (.contrary noPrestigeTemplate) := by
    decide +kernel
  refine ⟨shown, fun law => ?_⟩
  obtain ⟨number, _, shows⟩ := law prestigeBook (some rootKind) (five "prestige") "5" rfl
    isPlainNumber_five (by decide +kernel) (by decide +kernel)
  have unsigned : noPrestigeTemplate.numberText "5" number = "5" := by
    have no_percent : noPrestigeTemplate.hasPercent = false := by decide +kernel
    have begins : noPrestigeTemplate.startsWithValue = false := rfl
    rw [Template.numberText, no_percent, begins]
    simp
  have other := shows true _ worded
  rw [shown, Wording.template, unsigned] at other
  revert other
  decide +kernel

end Rulebook

end EventWiki
