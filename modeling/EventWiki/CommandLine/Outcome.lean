import EventWiki.Disk.Basic

namespace EventWiki.CommandLine

structure Outcome where
  code : Nat
  out : String
  err : String
  disk : Disk

namespace ExitCode

def success : Nat := 0

def usage : Nat := 2

/-- Scripts were broken, or findings were not allowed. -/
def badData : Nat := 65

def failure : Nat := 70

end ExitCode

/-- Ends a run that cannot go on; what was printed before stays. -/
def Outcome.failed (disk : Disk) (out err reason : String) : Outcome :=
  ⟨ExitCode.failure, out, err ++ "error: " ++ reason ++ "\n", disk⟩

end EventWiki.CommandLine
