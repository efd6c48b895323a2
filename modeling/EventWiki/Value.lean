import EventWiki.Decimal.Reading
import EventWiki.Rulebook.Basic
import EventWiki.Text.Digit
import EventWiki.Token

namespace EventWiki

namespace Value

def isCountryTag (value : String) : Bool :=
  let cs := value.toList
  cs.length == 3 && cs.all Char.isAlpha

/-- A country is named by a tag of three letters or by a scope. -/
def isCountryReference (value : String) : Bool :=
  (Scope.ofKeyword? value).isSome ||
    (isCountryTag value && !Text.eqIgnoringAsciiCase "yes" value)

/-- Digits of any writing system with an optional minus sign and an optional point behind the first
of them. -/
def isNumeric (value : String) : Bool :=
  let cs := value.toList
  let cs := if cs.head? == some '-' then cs.tail else cs
  cs.head?.any Text.isDecimalDigit &&
    match cs.dropWhile Text.isDecimalDigit with
    | [] => true
    | '.' :: places => places.all Text.isDecimalDigit
    | _ => false

def isLookupEligible (value : String) : Bool :=
  !value.toList.contains ' ' && !isNumeric value

/-- A time of `amount` units. Days are given in months from a month on and in years from a year
on, rounded down. -/
def formatDuration (kind : ValueKind) (amount : Int) : String :=
  if amount = -1 then Phrase.restOfCampaign
  else
    match kind with
    | .days =>
        if amount < 31 then s!"{amount} days"
        else if amount < 365 then s!"{amount * 12 / 365} months"
        else s!"{amount / 365} years"
    | .months => s!"{amount} months"
    | .years => s!"{amount} years"
    | .country | .province | .state | .other => toString amount

/-- A percentage of one or more is cut to a whole number, a smaller one has one decimal place. -/
def formatPercentage (fraction : Float) : String :=
  let percent := (fraction * 100000.0).round / 1000.0
  if 1.0 ≤ percent.abs then
    match Decimal.Binary.ofFloat? percent with
    | some value => toString (Decimal.saturate value.truncate)
    | none => toString (if percent < 0.0 then Decimal.leastInteger else Decimal.greatestInteger)
  else
    match Decimal.Binary.ofFloat? percent with
    | some value => value.oneDecimal
    | none => "NaN"

/-- A number as it goes into a template: a percentage where the template asks for one, and with a
plus sign where a positive number begins the text. -/
def formatNumber (raw : String) (number : Float) (template : Option Template) : String :=
  let text := if template.any Template.hasPercent then formatPercentage number else raw
  let isSigned := template.any Template.startsWithValue && 0.0 < number
  if isSigned && text.toList.head? != some '+' then "+" ++ text else text

end Value

namespace Rulebook

def classify (book : Rulebook) (kind : String) (value : Option String) : ValueKind :=
  match value, book.valueKind? kind with
  | some value, some .country => if Value.isCountryReference value then .country else .other
  | some value, some .province => if Value.isCountryReference value then .country else .province
  | some value, some .state => if Value.isCountryReference value then .country else .state
  | some _, some valueKind => valueKind
  | some _, none => .other
  | none, _ => .other

/-- The name of a thing of the game: under its key, as a building, as a title, or the key. -/
def nameOf (book : Rulebook) (key : String) : String :=
  (book.localisation? key
    <|> book.localisation? ("building_" ++ key)
    <|> book.localisation? (key ++ "_title")).getD key

def countryName? (book : Rulebook) (value : String) : Option String :=
  match Scope.ofKeyword? value with
  | some scope => some scope.phrase
  | none => book.localisation? value

def countryName (book : Rulebook) (value : String) : String :=
  (book.countryName? value).getD value

def formatPlain (book : Rulebook) (raw : String) (template : Option Template) : String :=
  if Value.isCountryReference raw then book.countryName raw
  else if Value.isLookupEligible raw then book.nameOf raw
  else if !Value.isNumeric raw then raw
  else
    match Decimal.float? raw with
    | some number => Value.formatNumber raw number template
    | none => raw

def formatValue (book : Rulebook) (token : Token) (kind : ValueKind)
    (template : Option Template) : String :=
  match token.value with
  | none => ""
  | some raw =>
      match kind with
      | .province => (book.localisation? ("prov" ++ raw)).getD raw
      | .state => (book.localisation? ("state_" ++ raw)).getD raw
      | .days | .months | .years =>
          match Decimal.integer? raw.toList with
          | some amount => Value.formatDuration kind amount
          | none => book.formatPlain raw template
      | .country | .other => book.formatPlain raw template

def localizeValue (book : Rulebook) (token : Token) : String :=
  book.formatValue token (book.classify token.kind token.value) (book.template? token.kind)

@[simp] theorem classify_none (book : Rulebook) (kind : String) :
    book.classify kind none = .other := by
  simp [classify]

@[simp] theorem formatValue_none (book : Rulebook) {token : Token} (h : token.value = none)
    (kind : ValueKind) (template : Option Template) :
    book.formatValue token kind template = "" := by
  simp [formatValue, h]

end Rulebook

end EventWiki
