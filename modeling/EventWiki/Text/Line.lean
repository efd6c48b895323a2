namespace EventWiki.Text

/-! Physical lines. A line feed ends a line, a carriage return directly before it belongs to the
ending, and no empty line follows the last ending. -/

/-- The pieces of a list between the separators, one more than there are separators. -/
def splitAt (separator : Char) (cs : List Char) : List (List Char) :=
  cs.foldr
    (fun c pieces =>
      if c = separator then [] :: pieces
      else
        match pieces with
        | [] => [[c]]
        | piece :: rest => (c :: piece) :: rest)
    [[]]

def dropReturn (line : List Char) : List Char :=
  match line.getLast? with
  | some '\r' => line.dropLast
  | _ => line

/-- A piece that another one follows has been ended by a line feed. -/
def endLines : List (List Char) → List (List Char)
  | [] => []
  | [last] => if last.isEmpty then [] else [last]
  | line :: rest => dropReturn line :: endLines rest

def lines (cs : List Char) : List (List Char) :=
  endLines (splitAt '\n' cs)

@[simp] theorem splitAt_nil (separator : Char) : splitAt separator [] = [[]] := rfl

@[simp] theorem splitAt_cons_self (separator : Char) (cs : List Char) :
    splitAt separator (separator :: cs) = [] :: splitAt separator cs := by
  simp [splitAt]

theorem splitAt_ne_nil (separator : Char) (cs : List Char) : splitAt separator cs ≠ [] := by
  cases cs with
  | nil => simp
  | cons c cs =>
    simp only [splitAt, List.foldr_cons]
    split
    · simp
    · split <;> simp

@[simp] theorem lines_nil : lines [] = [] := rfl

end EventWiki.Text
