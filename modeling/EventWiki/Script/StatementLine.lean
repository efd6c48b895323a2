import EventWiki.Text.Blank
import EventWiki.Text.Line
import EventWiki.Text.Word

namespace EventWiki.Script

/-! Statement lines: the text of a script without comments, cut so that every line holds one
statement, the header of a block with its opening brace, or a closing brace. -/

/-- A character of a physical line. The quotes themselves are not quoted. -/
structure Glyph where
  char : Char
  quoted : Bool
  deriving DecidableEq, Repr

/-- The characters of a line; every double quote opens or closes a quotation. -/
def glyphs (quoted : Bool) : List Char → List Glyph
  | [] => []
  | c :: rest =>
      if c = '"' then ⟨c, false⟩ :: glyphs (!quoted) rest
      else ⟨c, quoted⟩ :: glyphs quoted rest

namespace Glyph

def isMark (mark : Char) (glyph : Glyph) : Bool :=
  !glyph.quoted && glyph.char == mark

def isGap (glyph : Glyph) : Bool :=
  !glyph.quoted && Text.isBlank glyph.char

def isKey (glyph : Glyph) : Bool :=
  !glyph.quoted && (Text.isWord glyph.char || ['.', ':', '@', '-'].contains glyph.char)

def endsValue (glyph : Glyph) : Bool :=
  !glyph.quoted && (Text.isWord glyph.char || glyph.char == '.' || glyph.char == '"')

def isComparison (glyph : Glyph) : Bool :=
  !glyph.quoted && ['=', '<', '>'].contains glyph.char

end Glyph

/-- The line up to its first number sign outside quotes. -/
def withoutComment (line : List Char) : List Glyph :=
  (glyphs false line).takeWhile fun glyph => !glyph.isMark '#'

/-- A key, and behind it, after any gap, a comparison. -/
def startsComparison (line : List Glyph) : Bool :=
  line.head?.any Glyph.isKey &&
    ((line.dropWhile Glyph.isKey).dropWhile Glyph.isGap).head?.any Glyph.isComparison

def startsStatement (line : List Glyph) : Bool :=
  line.head?.any Glyph.isGap && startsComparison (line.dropWhile Glyph.isGap)

/-- A statement line ends behind every brace, before a closing brace, and behind a value that
another statement follows. -/
def endsBefore (glyph : Glyph) (rest : List Glyph) : Bool :=
  glyph.isMark '{' || glyph.isMark '}' || rest.head?.any (Glyph.isMark '}') ||
    (glyph.endsValue && startsStatement rest)

def consHead {α : Type} (head : α) : List (List α) → List (List α)
  | [] => [[head]]
  | piece :: rest => (head :: piece) :: rest

def cut : List Glyph → List (List Glyph)
  | [] => []
  | glyph :: rest =>
      if endsBefore glyph rest then [glyph] :: cut rest
      else consHead glyph (cut rest)

/-- The statements on a physical line, before opening braces are joined to their keys. -/
def statements (line : List Char) : List (List Char) :=
  ((cut (withoutComment line)).map fun piece => Text.trim (piece.map Glyph.char)).filter
    (!·.isEmpty)

/-- An opening brace may join a line that is neither closed by one nor a closing brace. -/
def takesBrace (line : List Char) : Bool :=
  line.getLast? != some '{' && line != ['}']

/-- An opening brace that stands alone joins the line before it. -/
def joinBraces : List (List Char) → List (List Char)
  | line :: next :: rest =>
      if next = ['{'] && takesBrace line then (line ++ [' ', '{']) :: joinBraces rest
      else line :: joinBraces (next :: rest)
  | [line] => [line]
  | [] => []

def normalize (source : String) : List String :=
  (joinBraces ((Text.lines source.toList).flatMap statements)).map String.ofList

theorem flatten_consHead {α : Type} (head : α) (pieces : List (List α)) :
    (consHead head pieces).flatten = head :: pieces.flatten := by
  cases pieces <;> simp [consHead]

@[simp] theorem flatten_cut (line : List Glyph) : (cut line).flatten = line := by
  induction line with
  | nil => rfl
  | cons glyph rest ih =>
    unfold cut
    split
    · simp [ih]
    · simp [flatten_consHead, ih]

theorem map_char_glyphs (quoted : Bool) (line : List Char) :
    (glyphs quoted line).map Glyph.char = line := by
  induction line generalizing quoted with
  | nil => rfl
  | cons c rest ih =>
    unfold glyphs
    split <;> simp [ih]

end EventWiki.Script
