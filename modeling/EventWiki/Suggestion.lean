namespace EventWiki.Suggestion

/-- The next row of the table of edit distances: `diagonal` is the distance one row up and one
column back, `left` the one to the left, and `above` the rest of the row above. -/
def nextRow (c : Char) (diagonal left : Nat) : List Char → List Nat → List Nat
  | other :: rest, up :: above =>
      let substituted := diagonal + (if c = other then 0 else 1)
      let distance := min (min (left + 1) (up + 1)) substituted
      distance :: nextRow c up distance rest above
  | _, _ => []

def extendRow (target : List Char) (row : List Nat) (c : Char) : List Nat :=
  match row with
  | first :: above => (first + 1) :: nextRow c first (first + 1) target above
  | [] => []

def editDistance (source target : String) : Nat :=
  (source.toList.foldl (extendRow target.toList) (List.range (target.length + 1))).getLastD 0

/-- Short keys allow one edit, longer keys two. -/
def tolerance (key : String) : Nat :=
  if key.length ≤ 3 then 1 else 2

def precedes (left right : Nat × String) : Bool :=
  left.1 < right.1 || (left.1 == right.1 && decide (left.2 ≤ right.2))

/-- At most three keys that are near `key` without being equal to it, the nearest one first. -/
def nearest (key : String) (available : List String) : List String :=
  let scored := available.map fun candidate => (editDistance key candidate, candidate)
  let near := scored.filter fun (distance, _) => 0 < distance && distance ≤ tolerance key
  ((near.mergeSort precedes).take 3).map Prod.snd

end EventWiki.Suggestion
