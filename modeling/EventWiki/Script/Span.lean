import EventWiki.ScriptError
import EventWiki.Text.Search

namespace EventWiki.Script

structure Span where
  offset : Nat
  length : Nat
  deriving DecidableEq, Repr

structure Report where
  message : String
  help : Option String
  span : Span
  deriving DecidableEq, Repr

def joinedSize (lines : List String) : Nat :=
  lines.foldr (fun text size => text.utf8ByteSize + size) (lines.length - 1)

/-- The line with number `line`, at least one byte of it where the text goes on. -/
def Span.ofLine (lines : List String) (line : Nat) : Span :=
  let before := max line 1 - 1
  let start := (lines.take before).foldr (fun text size => text.utf8ByteSize + 1 + size) 0
  let offset := min start (joinedSize lines)
  let length := max ((lines[before]?.map String.utf8ByteSize).getD 0) 1
  ⟨offset, min length (joinedSize lines - offset)⟩

def help? : ScriptError → Option String
  | .unmatchedClose _ => some "remove the extra '\x7d' or open the block it closes"
  | .unclosedBlock kind _ => some s!"add a '\x7d' closing '{kind}'"
  | _ => none

def errorCode : String := "scriptdoc::structure"

def Report.ofError (lines : List String) (error : ScriptError) : Report :=
  ⟨error.message, help? error, .ofLine lines error.line⟩

end EventWiki.Script
