import EventWiki.Proofs.StatementCut
import EventWiki.Statement

namespace EventWiki.Script

def isKeyChar (c : Char) : Bool :=
  Text.isWord c || ['.', ':', '@', '-'].contains c

structure Key where
  chars : List Char
  nonempty : chars ≠ []
  key_chars : ∀ c ∈ chars, isKeyChar c = true

inductive Comparison where
  | equal
  | less
  | more
  | atMost
  | atLeast
  deriving DecidableEq, Repr

namespace Comparison

def symbol : Comparison → List Char
  | equal => ['=']
  | less => ['<']
  | more => ['>']
  | atMost => ['<', '=']
  | atLeast => ['>', '=']

def operator : Comparison → Operator
  | equal => .equal
  | less => .less
  | more => .more
  | atMost => .notMore
  | atLeast => .notLess

end Comparison

/-- A word, or a text in quotes. A word ends in a word character or a point. -/
inductive WrittenValue where
  | word (key : Key)
      (ends : ∀ c ∈ key.chars.getLast?, (Text.isWord c || c == '.') = true)
  | quoted (text : List Char) (nonempty : text ≠ []) (no_quote : '"' ∉ text)
      (no_break : '\n' ∉ text) (trimmed : Text.trim text = text)

namespace WrittenValue

def text : WrittenValue → List Char
  | word key _ => key.chars
  | quoted text .. => text

def chars : WrittenValue → List Char
  | word key _ => key.chars
  | quoted text .. => '"' :: text ++ ['"']

end WrittenValue

/-- A value holds no sign that would be taken for the comparison. -/
def Comparison.Admits : Comparison → WrittenValue → Prop
  | less, value => '=' ∉ value.text
  | more, value => '=' ∉ value.text ∧ '<' ∉ value.text
  | _, _ => True

structure WrittenLeaf where
  key : Key
  comparison : Comparison
  value : WrittenValue
  admits : comparison.Admits value

inductive Written where
  | leaf (leaf : WrittenLeaf)
  | block (key : Key) (body : List Written)

mutual

def Written.pieces : Written → List (List Char)
  | .leaf leaf => [leaf.key.chars, leaf.comparison.symbol, leaf.value.chars]
  | .block key body => key.chars :: ['='] :: ['{'] :: (piecesOf body ++ [['}']])

def piecesOf : List Written → List (List Char)
  | [] => []
  | statement :: rest => statement.pieces ++ piecesOf rest

end

/-- All statements on one line, with one space between neighbouring pieces. -/
def written (forest : List Written) : String :=
  String.ofList ([' '].intercalate (piecesOf forest))

def WrittenLeaf.token (leaf : WrittenLeaf) : Token :=
  .make (String.ofList leaf.key.chars) (some leaf.comparison.operator)
    (some (String.ofList leaf.value.text))

def Key.headerToken (key : Key) : Token :=
  .make (String.ofList key.chars) (some .equal) none

mutual

def Written.statement : Written → Statement
  | .leaf leaf => .mk leaf.token []
  | .block key body => .mk key.headerToken (statementsFor body)

def statementsFor : List Written → List Statement
  | [] => []
  | statement :: rest => statement.statement :: statementsFor rest

end

def WrittenLeaf.line (leaf : WrittenLeaf) : List Char :=
  leaf.key.chars ++ ' ' :: (leaf.comparison.symbol ++ ' ' :: leaf.value.chars)

def Key.headerLine (key : Key) : List Char :=
  key.chars ++ [' ', '=', ' ', '{']

mutual

def Written.lines : Written → List (List Char)
  | .leaf leaf => [leaf.line]
  | .block key body => key.headerLine :: (linesOf body ++ [['}']])

def linesOf : List Written → List (List Char)
  | [] => []
  | statement :: rest => statement.lines ++ linesOf rest

end

theorem isBlank_of_isKeyChar {c : Char} (key : isKeyChar c = true) : Text.isBlank c = false := by
  simp only [isKeyChar, Bool.or_eq_true] at key
  rcases key with word | other
  · exact Text.isBlank_of_isWord word
  · simp only [List.contains_iff_mem, List.mem_cons, List.not_mem_nil, or_false] at other
    rcases other with rfl | rfl | rfl | rfl <;> decide

theorem Key.not_mem {mark : Char} (no_key : isKeyChar mark = false) (key : Key) :
    mark ∉ key.chars := by
  intro member
  rw [key.key_chars mark member] at no_key
  contradiction

theorem Key.exists_head (key : Key) : ∃ c rest, key.chars = c :: rest ∧ isKeyChar c = true := by
  cases chars : key.chars with
  | nil => exact absurd chars key.nonempty
  | cons c rest => exact ⟨c, rest, rfl, key.key_chars c (by simp [chars])⟩

theorem Key.isBlank_eq_false (key : Key) : ∀ c ∈ key.chars, Text.isBlank c = false :=
  fun c member => isBlank_of_isKeyChar (key.key_chars c member)

theorem Key.trim_append (key : Key) {signs : List Char}
    (last : ∀ c ∈ (key.chars ++ signs).getLast?, Text.isBlank c = false) :
    Text.trim (key.chars ++ signs) = key.chars ++ signs :=
  Text.trim_append_of_visible key.nonempty key.isBlank_eq_false last

theorem Key.trim_chars (key : Key) : Text.trim key.chars = key.chars :=
  Text.trim_of_visible key.isBlank_eq_false

end EventWiki.Script
