import EventWiki.Proofs.LetterCase
import EventWiki.Wording

namespace EventWiki

/-- A template for a statement, and what it is used for. -/
inductive Wording where
  | plain (template : Template)
  | contrary (template : Template)
  | header (template : Template)
  deriving DecidableEq, Repr

def Wording.template : Wording → Template
  | plain template | contrary template | header template => template

namespace Rulebook

variable {book : Rulebook} {key text : String} {operator : Option Operator} {inverted : Bool}
  {values : List String} {parent : Option String} {token : Token} {wording : Wording}

/-- The wording of a statement under a key. A place for the operator makes one template do for both
cases. -/
def wording? (book : Rulebook) (key : String) (inverted : Bool) : Option Wording :=
  if inverted && !book.isOperatorAware key then
    (book.template? (Text.lowerCase key ++ Phrase.falseSuffix)).map .contrary <|>
      ((book.template? key).filter Template.isSectionHeader).map .header
  else (book.template? key).map .plain

def wordingText (book : Rulebook) (operator : Option Operator) (inverted : Bool)
    (values : List String) : Wording → String
  | .plain template | .contrary template => book.substitute template operator inverted values
  | .header template => noneOfTheFollowing (book.substitute template operator inverted values)

def missingKey (book : Rulebook) (key : String) (inverted : Bool) : String :=
  if inverted && !book.isOperatorAware key then Text.lowerCase key ++ Phrase.falseSuffix
  else Text.lowerCase key

@[simp] theorem template?_lowerCase (book : Rulebook) (key : String) :
    book.template? (Text.lowerCase key) = book.template? key := by
  rw [template?, template?, Text.lowerCase_lowerCase]

@[simp] theorem isOperatorAware_lowerCase (book : Rulebook) (key : String) :
    book.isOperatorAware (Text.lowerCase key) = book.isOperatorAware key := by
  rw [isOperatorAware, isOperatorAware, Text.lowerCase_lowerCase]

@[simp] theorem isSectionHeader_lowerCase (book : Rulebook) (key : String) :
    book.isSectionHeader (Text.lowerCase key) = book.isSectionHeader key := by
  rw [isSectionHeader, isSectionHeader, Text.lowerCase_lowerCase]

theorem filter_isSectionHeader (book : Rulebook) (key : String) :
    ((book.template? key).filter fun _ => book.isSectionHeader key) =
      (book.template? key).filter Template.isSectionHeader := by
  rw [isSectionHeader_eq]
  cases book.template? key with
  | none => rfl
  | some template => simp [Option.filter]

theorem formatStatement_eq (book : Rulebook) (key : String) (operator : Option Operator)
    (inverted : Bool) (values : List String) :
    book.formatStatement key operator inverted values =
      match book.wording? key inverted with
      | some wording => .ok (book.wordingText operator inverted values wording)
      | none => .error (book.missingKey key inverted) := by
  simp only [formatStatement, wording?, missingKey, isOperatorAware_lowerCase, template?_lowerCase,
    isSectionHeader_lowerCase, filter_isSectionHeader]
  split
  · cases book.template? (Text.lowerCase key ++ Phrase.falseSuffix) with
    | some template => rfl
    | none =>
        cases (book.template? key).filter Template.isSectionHeader with
        | some template => rfl
        | none => rfl
  · cases book.template? key with
    | some template => rfl
    | none => rfl

theorem formatStatement_eq_ok_iff :
    book.formatStatement key operator inverted values = .ok text ↔
      ∃ wording, book.wording? key inverted = some wording ∧
        book.wordingText operator inverted values wording = text := by
  rw [formatStatement_eq]
  cases book.wording? key inverted <;> simp

def shownWord? (book : Rulebook) (operator : Option Operator) (negated : Bool) : Option String :=
  let operator := operator.getD .equal
  book.operatorWord? (if negated then operator.negate else operator)

theorem substitute_eq_render (book : Rulebook) (template : Template) (operator : Option Operator)
    (inverted : Bool) (values : List String) :
    book.substitute template operator inverted values =
      template.render values (book.shownWord? operator inverted) := by
  rw [substitute]
  split
  · rfl
  · next no_operator =>
    exact Template.render_eq_of_not_hasOperator (Bool.eq_false_of_not_eq_true no_operator) ..

inductive Worded (book : Rulebook) (key : String) (inverted : Bool) : Wording → Prop where
  | plain (template : Template) (found : book.template? key = some template)
      (aware : inverted = true → book.isOperatorAware key = true) :
      Worded book key inverted (.plain template)
  | contrary (template : Template)
      (found : book.template? (Text.lowerCase key ++ Phrase.falseSuffix) = some template)
      (inverts : inverted = true) (usual : book.isOperatorAware key = false) :
      Worded book key inverted (.contrary template)
  | header (template : Template) (found : book.template? key = some template)
      (inverts : inverted = true) (is_header : template.isSectionHeader = true) :
      Worded book key inverted (.header template)

theorem worded_of_wording? (found : book.wording? key inverted = some wording) :
    book.Worded key inverted wording := by
  rw [wording?] at found
  split at found
  · next usual =>
    simp only [Bool.and_eq_true, Bool.not_eq_true'] at usual
    rcases (Option.orElse_eq_some ..).mp found with contrary | ⟨_, header⟩
    · obtain ⟨template, template_found, rfl⟩ := Option.map_eq_some_iff.mp contrary
      exact .contrary template template_found usual.1 usual.2
    · obtain ⟨template, filtered, rfl⟩ := Option.map_eq_some_iff.mp header
      obtain ⟨template_found, is_header⟩ := Option.filter_eq_some_iff.mp filtered
      exact .header template template_found usual.1 is_header
  · next aware =>
    obtain ⟨template, template_found, rfl⟩ := Option.map_eq_some_iff.mp found
    exact .plain template template_found (by simpa using aware)

/-- Only the wording of the inverted case is another template than the one under the key. -/
theorem template?_of_wording (worded : book.wording? key inverted = some wording) :
    book.template? key = some wording.template ∨ ∃ template, wording = .contrary template := by
  cases worded_of_wording? worded with
  | plain template found aware => exact .inl found
  | contrary template found inverts usual => exact .inr ⟨template, rfl⟩
  | header template found inverts is_header => exact .inl found

def wordedKey (book : Rulebook) (parent : Option String) (token : Token) : String :=
  (book.variation? token.kind).getD (book.templateKey parent token)

/-- The value of a token in the form that its template asks for. -/
def formattedValue (book : Rulebook) (parent : Option String) (token : Token) : String :=
  book.formatValue token
    (if (book.variation? token.kind).isSome then .other
      else book.classify token.kind token.value)
    (book.template? (book.wordedKey parent token))

/-- The values for the slots of the template; a variation is named first. -/
def offeredValues (book : Rulebook) (parent : Option String) (token : Token) : List String :=
  if (book.variation? token.kind).isSome then
    [book.nameOf token.kind, book.formattedValue parent token]
  else if token.value.isSome then [book.formattedValue parent token]
  else []

theorem offeredValues_of_own (own : book.variation? token.kind = none)
    (valued : token.value ≠ none) :
    book.offeredValues parent token = [book.formattedValue parent token] := by
  rw [offeredValues, own, Option.isSome_iff_ne_none.mpr valued]
  rfl

theorem formattedValue_mem_offeredValues (valued : token.value ≠ none) :
    book.formattedValue parent token ∈ book.offeredValues parent token := by
  rw [offeredValues, Option.isSome_iff_ne_none.mpr valued]
  split <;> simp

theorem localize_of_wording
    (worded : book.wording? (book.wordedKey parent token) inverted = some wording) :
    book.localize parent token inverted =
      ⟨book.wordingText token.operator inverted (book.offeredValues parent token) wording,
        none⟩ := by
  rw [localize]
  cases variation : book.variation? token.kind with
  | some canonical =>
      simp only [wordedKey, variation, Option.getD_some] at worded
      simp only [formatStatement_eq, worded, offeredValues, formattedValue, wordedKey, variation,
        Option.isSome_some, if_true, Option.getD_some]
  | none =>
      simp only [wordedKey, variation, Option.getD_none] at worded
      simp only [formatStatement_eq, worded, offeredValues, formattedValue, wordedKey, variation,
        Option.isSome_none, Bool.false_eq_true, if_false, Option.getD_none]

theorem localize_of_scopeHeader {header : String}
    (unworded : book.wording? (book.wordedKey parent token) inverted = none)
    (own : book.variation? token.kind = none)
    (found : book.scopeHeader? token.kind inverted = some header) :
    book.localize parent token inverted = ⟨header, none⟩ := by
  simp only [wordedKey, own, Option.getD_none] at unworded
  simp only [localize, own, formatStatement_eq, unworded, found]

/-- What has no wording of any kind is shown as it is, and reported. -/
theorem localize_of_nothing
    (unworded : book.wording? (book.wordedKey parent token) inverted = none)
    (no_header : book.variation? token.kind = none →
      book.scopeHeader? token.kind inverted = none) :
    book.localize parent token inverted =
      ⟨rawText token, some (book.missingKey (book.wordedKey parent token) inverted)⟩ := by
  cases variation : book.variation? token.kind with
  | some canonical =>
      simp only [wordedKey, variation, Option.getD_some] at unworded
      simp only [localize, variation, formatStatement_eq, unworded, wordedKey, Option.getD_some]
  | none =>
      simp only [wordedKey, variation, Option.getD_none] at unworded
      simp only [localize, variation, formatStatement_eq, unworded, no_header variation, wordedKey,
        Option.getD_none]

end Rulebook

end EventWiki
