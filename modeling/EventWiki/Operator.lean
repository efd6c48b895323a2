import EventWiki.Text.LowerCase

namespace EventWiki

inductive Operator where
  | equal
  | notEqual
  | less
  | notLess
  | more
  | notMore
  deriving DecidableEq, Repr

namespace Operator

def all : List Operator :=
  [equal, notEqual, less, notLess, more, notMore]

def negate : Operator → Operator
  | equal => notEqual
  | notEqual => equal
  | less => notLess
  | notLess => less
  | more => notMore
  | notMore => more

def name : Operator → String
  | equal => "equal"
  | notEqual => "notequal"
  | less => "less"
  | notLess => "notless"
  | more => "more"
  | notMore => "notmore"

def ofName? (name : String) : Option Operator :=
  all.find? fun operator => Text.eqIgnoringAsciiCase operator.name name

def ofSymbol? : Char → Option Operator
  | '=' => some equal
  | '<' => some less
  | '>' => some more
  | _ => none

/-- The symbol a statement is shown with. A negated operator shares the symbol of its partner. -/
def symbol : Operator → String
  | equal | notEqual => "="
  | less | notLess => "<"
  | more | notMore => ">"

@[simp] theorem negate_negate (operator : Operator) : operator.negate.negate = operator := by
  cases operator <;> rfl

@[simp] theorem ofName?_name (operator : Operator) : ofName? operator.name = some operator := by
  cases operator <;> decide +kernel

end Operator

end EventWiki
