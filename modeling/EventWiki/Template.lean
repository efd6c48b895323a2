import EventWiki.Text.Blank
import EventWiki.Text.Search

namespace EventWiki

inductive Segment where
  | literal (text : String)
  /-- A slot for the value with the given index, or for the next one. -/
  | value (index : Option Nat)
  | operator
  deriving DecidableEq, Repr

structure Template where
  source : String
  segments : List Segment
  deriving DecidableEq, Repr

namespace Template

def operatorMarker : String := "[OPERATOR]"

/-- Marks a value as a percentage, and is written as a single percent sign. -/
def percentMarker : String := "%%"

def hasOperator (template : Template) : Bool :=
  template.segments.contains .operator

def hasPercent (template : Template) : Bool :=
  Text.contains percentMarker.toList template.source.toList

def startsWithValue (template : Template) : Bool :=
  match template.segments with
  | .value _ :: _ => true
  | _ => false

/-- A template that ends in a colon introduces a section. -/
def isSectionHeader (template : Template) : Bool :=
  (Text.trimEnd template.source.toList).getLast? == some ':'

/-- The text of segments; `next` is the index of the value for the next slot without one. A value
that is missing is empty, and a missing operator word leaves the marker. -/
def renderFrom (values : List String) (operator : Option String) (next : Nat) :
    List Segment → String
  | [] => ""
  | .literal text :: rest => text ++ renderFrom values operator next rest
  | .value none :: rest => values.getD next "" ++ renderFrom values operator (next + 1) rest
  | .value (some index) :: rest => values.getD index "" ++ renderFrom values operator next rest
  | .operator :: rest => operator.getD operatorMarker ++ renderFrom values operator next rest

def render (template : Template) (values : List String) (operator : Option String) : String :=
  renderFrom values operator 0 template.segments

@[simp] theorem renderFrom_nil (values : List String) (operator : Option String) (next : Nat) :
    renderFrom values operator next [] = "" := rfl

theorem render_eq_of_not_hasOperator {template : Template} (h : template.hasOperator = false)
    (values : List String) (left right : Option String) :
    template.render values left = template.render values right := by
  have hfrom : ∀ (segments : List Segment) (next : Nat), segments.contains .operator = false →
      renderFrom values left next segments = renderFrom values right next segments := by
    intro segments
    induction segments with
    | nil => intro _ _; rfl
    | cons segment rest ih =>
      intro next hsegments
      have hrest : rest.contains .operator = false := by
        simp_all
      match segment with
      | .literal text => simp [renderFrom, ih next hrest]
      | .value none => simp [renderFrom, ih (next + 1) hrest]
      | .value (some index) => simp [renderFrom, ih next hrest]
      | .operator => simp at hsegments
  exact hfrom template.segments 0 h

end Template

end EventWiki
