import EventWiki.Operator
import EventWiki.ScriptError
import EventWiki.Text.Blank
import EventWiki.Vocabulary

namespace EventWiki

structure Token where
  kind : String
  operator : Option Operator
  value : Option String
  deriving DecidableEq, Repr

namespace Token

def make (kind : String) (operator : Option Operator) (value : Option String) : Token :=
  ⟨Text.lowerCase kind, operator, value⟩

def bare (kind : String) : Token :=
  make kind none none

def negated (token : Token) : Bool :=
  token.value.any isNegation

def display (token : Token) : String :=
  match token.value with
  | some value => token.kind ++ " " ++ (token.operator.getD .equal).symbol ++ " " ++ value
  | none => token.kind

def cutAt? (mark : Char) (cs : List Char) : Option (List Char × List Char) :=
  match cs.dropWhile (· != mark) with
  | [] => none
  | _ :: after => some (cs.takeWhile (· != mark), after)

/-- The comparison of a statement is made by its first equals sign, or else by its first less-than
sign, or else by its first greater-than sign. -/
def cut? (cs : List Char) : Option (Char × List Char × List Char) :=
  ['=', '<', '>'].findSome? fun mark => (cutAt? mark cs).map (mark, ·)

/-- The operator written with `mark` behind `key`, and the key without the operator's first
character: an equals sign turns the angle bracket directly before it around. -/
def comparison (mark : Char) (key : List Char) : List Char × Option Operator :=
  if mark = '=' then
    match key.getLast? with
    | some '<' => (key.dropLast, some .notMore)
    | some '>' => (key.dropLast, some .notLess)
    | _ => (key, some .equal)
  else
    (key, Operator.ofSymbol? mark)

def kind? (key : List Char) : Option String :=
  let kind := Text.trim key
  if kind.isEmpty || kind.any (fun c => c == '{' || c == '}') then none
  else some (String.ofList kind)

def value? (cs : List Char) : Option String :=
  let value := Text.trim (Text.unquoted (Text.trim cs))
  if value.isEmpty then none else some (String.ofList value)

def ofStatement? (cs : List Char) : Option Token :=
  match cut? cs with
  | none => (kind? cs).map bare
  | some (mark, key, rest) =>
      let (key, operator) := comparison mark key
      (kind? key).map fun kind => make kind operator (value? rest)

def read (line : Nat) (text : String) : Except ScriptError Token :=
  let cs := Text.trim text.toList
  if cs.isEmpty then .error (.emptyLine line)
  else
    match ofStatement? cs with
    | some token => .ok token
    | none => .error (.malformedStatement line (String.ofList cs))

@[simp] theorem kind_make (kind : String) (operator : Option Operator) (value : Option String) :
    (make kind operator value).kind = Text.lowerCase kind := rfl

@[simp] theorem operator_make (kind : String) (operator : Option Operator)
    (value : Option String) : (make kind operator value).operator = operator := rfl

@[simp] theorem value_make (kind : String) (operator : Option Operator) (value : Option String) :
    (make kind operator value).value = value := rfl

end Token

end EventWiki
