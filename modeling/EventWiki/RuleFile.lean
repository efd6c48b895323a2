import EventWiki.Text.Blank
import EventWiki.Text.Line
import EventWiki.Text.LowerCase
import EventWiki.Text.Search

namespace EventWiki

/-! Blank lines, comments and lines without a separator carry no entry. -/

structure RuleEntry where
  line : Nat
  key : String
  value : String
  deriving DecidableEq, Repr

namespace RuleEntry

/-- The entries that `read?` finds on the trimmed lines of a text. -/
def ofLines (read? : List Char → Option (String × String)) (cs : List Char) : List RuleEntry :=
  ((Text.lines cs).zipIdx 1).filterMap fun (line, number) =>
    let trimmed := Text.trim line
    if trimmed.isEmpty || trimmed.head? == some '#' then none
    else (read? trimmed).map fun (key, value) => ⟨number, key, value⟩

end RuleEntry

namespace RuleFile

/-- Reads `key: value`, split at the first colon that a space follows. -/
def pair? (line : List Char) : Option (String × String) :=
  match Text.cutAtFirst? [':', ' '] line with
  | some (key, value) =>
      if key.isEmpty then none
      else some (String.ofList (Text.trim key), String.ofList (Text.trim value))
  | none => none

def entries (text : String) : List RuleEntry :=
  RuleEntry.ofLines pair? text.toList

def items (value : String) : List String :=
  ((Text.splitAt ',' value.toList).map Text.trim).filter (!·.isEmpty) |>.map String.ofList

end RuleFile

namespace LocalisationFile

def isSpaceOrTab (c : Char) : Bool :=
  c == ' ' || c == '\t'

/-- Reads `key:0 "text"`; the version number and the quotes may be missing. -/
def pair? (line : List Char) : Option (String × String) :=
  match Text.cutAtFirst? [':'] line with
  | some (key, rest) =>
      if key.isEmpty then none
      else
        let value := (rest.dropWhile Char.isDigit).dropWhile isSpaceOrTab
        some (Text.lowerCase (String.ofList (Text.trim key)),
          String.ofList (Text.unquoted (Text.trim value)))
  | none => none

def byteOrderMark : Char := '\ufeff'

/-- A key without text, such as the name of the language, is no entry. -/
def entries (text : String) : List RuleEntry :=
  (RuleEntry.ofLines pair? (text.toList.dropWhile (· == byteOrderMark))).filter
    (!·.value.isEmpty)

end LocalisationFile

end EventWiki
