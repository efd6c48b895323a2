namespace EventWiki

inductive LineStyle where
  | header
  | subtitle
  | bullet (markers : Nat)
  deriving DecidableEq, Repr

namespace LineStyle

def ofDepth : Nat → LineStyle
  | 0 => header
  | 1 => subtitle
  | depth + 2 => bullet (depth + 1)

def format (style : LineStyle) (text : String) : String :=
  match style with
  | header => "\n== " ++ text ++ " ==\n"
  | subtitle => "\n'''" ++ text ++ "'''\n"
  | bullet markers => String.ofList (List.replicate markers '*') ++ " " ++ text

end LineStyle

/-- A line before it gets its markup. -/
structure Document.Line where
  style : LineStyle
  text : String
  deriving DecidableEq, Repr

structure Document where
  entries : List Document.Line
  deriving DecidableEq, Repr

namespace Document

def empty : Document :=
  ⟨[]⟩

/-- The line for a text at a depth; an empty text has none. -/
def Line.atDepth (depth : Nat) (text : String) : List Line :=
  if text.isEmpty then [] else [⟨.ofDepth depth, text⟩]

def emit (document : Document) (depth : Nat) (text : String) : Document :=
  ⟨document.entries ++ Line.atDepth depth text⟩

def lines (document : Document) : List String :=
  document.entries.map fun line => line.style.format line.text

def styles (document : Document) : List LineStyle :=
  document.entries.map Line.style

def size (document : Document) : Nat :=
  document.entries.length

def isEmpty (document : Document) : Bool :=
  document.entries.isEmpty

def toText (document : Document) : String :=
  String.join (document.lines.map (· ++ "\n"))

instance : Append Document where
  append left right := ⟨left.entries ++ right.entries⟩

@[simp] theorem entries_append (left right : Document) :
    (left ++ right).entries = left.entries ++ right.entries := rfl

@[simp] theorem lines_append (left right : Document) :
    (left ++ right).lines = left.lines ++ right.lines := by
  simp [lines]

@[simp] theorem styles_append (left right : Document) :
    (left ++ right).styles = left.styles ++ right.styles := by
  simp [styles]

@[simp] theorem emit_empty_text (document : Document) (depth : Nat) :
    document.emit depth "" = document := by
  simp [emit, Line.atDepth]

end Document

end EventWiki
