import EventWiki.Text.LowerCase

namespace EventWiki

inductive ValueKind where
  | country
  | province
  | state
  | days
  | months
  | years
  | other
  deriving DecidableEq, Repr

namespace ValueKind

def all : List ValueKind :=
  [country, province, state, days, months, years, other]

def name : ValueKind → String
  | country => "country"
  | province => "province"
  | state => "state"
  | days => "days"
  | months => "months"
  | years => "years"
  | other => "other"

def ofName? (name : String) : Option ValueKind :=
  all.find? fun kind => kind.name == Text.asciiFold name

@[simp] theorem ofName?_name (kind : ValueKind) : ofName? kind.name = some kind := by
  cases kind <;> decide +kernel

end ValueKind

inductive Scope where
  | root
  | this
  | origin
  | controller
  | owner
  | previous
  deriving DecidableEq, Repr

namespace Scope

def all : List Scope :=
  [root, this, origin, controller, owner, previous]

def keyword : Scope → String
  | root => "root"
  | this => "this"
  | origin => "from"
  | controller => "controller"
  | owner => "owner"
  | previous => "prev"

def ofKeyword? (word : String) : Option Scope :=
  all.find? fun scope => scope.keyword == Text.asciiFold word

def phrase : Scope → String
  | root => "our country"
  | this => "this country"
  | origin => "from"
  | controller => "the province's controller"
  | owner => "the province's owner"
  | previous => "the previous scope"

@[simp] theorem ofKeyword?_keyword (scope : Scope) : ofKeyword? scope.keyword = some scope := by
  cases scope <;> decide +kernel

end Scope

/-- Blocks of these kinds invert what stands directly inside them. -/
def isInversion (kind : String) : Bool :=
  ["not", "nor"].any (Text.eqIgnoringAsciiCase · kind)

def isNegation (value : String) : Bool :=
  Text.eqIgnoringAsciiCase "no" value

namespace Phrase

def restOfCampaign : String := "the rest of the campaign"

/-- Stands before the final colon of an inverted section header. -/
def noneOfTheFollowing : String := " - none of the following"

/-- Behind a key, selects its inverted wording. -/
def falseSuffix : String := "_false"

end Phrase

def modifierSlot : String := "name"

/-- The slot of a merged block that is the rest of the campaign unless it is filled. -/
def durationSlot : String := "duration"

def rootKind : String := "file"

end EventWiki
