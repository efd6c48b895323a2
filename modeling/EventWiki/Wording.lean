import EventWiki.Value

namespace EventWiki.Rulebook

/-- A text without a template for its kind is reported under the key that is missing. -/
structure Fragment where
  text : String
  missing : Option String
  deriving DecidableEq, Repr

/-- Fills a template. An inverted statement has the word of the negated operator. -/
def substitute (book : Rulebook) (template : Template) (operator : Option Operator)
    (inverted : Bool) (values : List String) : String :=
  if template.hasOperator then
    let operator := operator.getD .equal
    template.render values (book.operatorWord? (if inverted then operator.negate else operator))
  else template.render values none

def noneOfTheFollowing (header : String) : String :=
  let cs := Text.trimEnd header.toList
  if cs.getLast? = some ':' then String.ofList cs.dropLast ++ Phrase.noneOfTheFollowing ++ ":"
  else String.ofList cs ++ Phrase.noneOfTheFollowing

/-- The wording under a key, or the key that is missing. An inverted statement is worded by the
template for the inverted case, unless its template has a place for the operator. -/
def formatStatement (book : Rulebook) (key : String) (operator : Option Operator)
    (inverted : Bool) (values : List String) : Except String String :=
  let key := Text.lowerCase key
  if inverted && !book.isOperatorAware key then
    let falseKey := key ++ Phrase.falseSuffix
    match book.template? falseKey with
    | some template => .ok (book.substitute template operator inverted values)
    | none =>
        match (book.template? key).filter fun _ => book.isSectionHeader key with
        | some template =>
            .ok (noneOfTheFollowing (book.substitute template operator inverted values))
        | none => .error falseKey
  else
    match book.template? key with
    | some template => .ok (book.substitute template operator inverted values)
    | none => .error key

def scopeHeader? (book : Rulebook) (kind : String) (inverted : Bool) : Option String :=
  let name? :=
    book.localisation? ("prov" ++ kind)
      <|> book.localisation? ("state_" ++ kind)
      <|> (if book.isRegion kind then some (book.nameOf kind) else none)
      <|> (if Value.isCountryReference kind then book.countryName? kind else none)
  name?.map fun name => name ++ (if inverted then Phrase.noneOfTheFollowing else "") ++ ":"

def rawText (token : Token) : String :=
  match token.value with
  | some value => token.kind ++ ": " ++ value
  | none => token.kind

/-- The key of the template for a token: countries and the exceptions of the block it stands in
have wordings of their own. -/
def templateKey (book : Rulebook) (parent : Option String) (token : Token) : String :=
  let countryKey := token.kind ++ "_country"
  let key :=
    if book.classify token.kind token.value = .country && book.hasTemplate countryKey then
      countryKey
    else token.kind
  match parent with
  | some parent =>
      if book.isParentException parent token.kind then parent ++ "_" ++ key else key
  | none => key

def localize (book : Rulebook) (parent : Option String) (token : Token) (inverted : Bool) :
    Fragment :=
  match book.variation? token.kind with
  | some canonical =>
      let label := book.nameOf token.kind
      let value := book.formatValue token .other (book.template? canonical)
      match book.formatStatement canonical token.operator inverted [label, value] with
      | .ok text => ⟨text, none⟩
      | .error missing => ⟨rawText token, some missing⟩
  | none =>
      let key := book.templateKey parent token
      let kind := book.classify token.kind token.value
      let values :=
        if token.value.isSome then [book.formatValue token kind (book.template? key)] else []
      match book.formatStatement key token.operator inverted values with
      | .ok text => ⟨text, none⟩
      | .error missing =>
          match book.scopeHeader? token.kind inverted with
          | some text => ⟨text, none⟩
          | none => ⟨rawText token, some missing⟩

end EventWiki.Rulebook
