namespace EventWiki

/-- Why a script or a wording cannot be read. Lines and columns count from one; lines of a script
are its statement lines. -/
inductive ScriptError where
  | emptyLine (line : Nat)
  | malformedStatement (line : Nat) (text : String)
  | unmatchedClose (line : Nat)
  | unclosedBlock (kind : String) (line : Nat)
  | badWording (line column : Nat) (reason : String)
  deriving DecidableEq, Repr

namespace ScriptError

def message : ScriptError → String
  | emptyLine line => s!"empty statement at line {line}"
  | malformedStatement line text => s!"malformed statement at line {line}: '{text}'"
  | unmatchedClose line => s!"unmatched '\x7d' at line {line}"
  | unclosedBlock kind line => s!"block '{kind}' opened at line {line} is never closed"
  | badWording line column reason => s!"syntax error at {line}:{column}: {reason}"

def line : ScriptError → Nat
  | emptyLine line => line
  | malformedStatement line _ => line
  | unmatchedClose line => line
  | unclosedBlock _ line => line
  | badWording line _ _ => line

end ScriptError

end EventWiki
