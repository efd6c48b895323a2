import EventWiki.Text.Line

namespace EventWiki.Path

def isAbsolute (path : String) : Bool :=
  path.toList.head? == some '/'

def join (directory path : String) : String :=
  if isAbsolute path || directory.isEmpty then path
  else if directory.toList.getLast? == some '/' then directory ++ path
  else directory ++ "/" ++ path

def steps (path : String) : List String :=
  (Text.splitAt '/' path.toList).map String.ofList

def isStill (step : String) : Bool :=
  step.isEmpty || step == "."

/-- The last name of a path, unless the path ends in its parent or names nothing. -/
def fileName? (path : String) : Option String :=
  ((steps path).filter (!isStill ·)).getLast?.filter (· != "..")

def stepsFrom (working : List String) (path : String) : List String :=
  if isAbsolute path then steps path else working ++ steps path

/-- The names of a place, without the steps that stay or go back. -/
def names (steps : List String) : List String :=
  steps.foldl
    (fun names step =>
      if isStill step then names
      else if step = ".." then names.dropLast
      else names ++ [step])
    []

/-- The paths of the directories above a path, the innermost one first, up to the place that the
path starts from. Steps that stay count only at the start. -/
def parents (path : String) : List String :=
  let own := steps path
  let counted := (if own.head? == some "." then ["."] else []) ++ own.filter (!isStill ·)
  ((List.range counted.length).reverse.filter (0 < ·)).map fun count =>
    (if isAbsolute path then "/" else "") ++ String.intercalate "/" (counted.take count)

@[simp] theorem join_empty (path : String) : join "" path = path := by
  simp [join]

end EventWiki.Path
