import EventWiki.Proofs.BraceCut
import EventWiki.Proofs.LineNesting

namespace EventWiki.Script

/-- The brace by which a line opens or closes a block. -/
def braceOf (line : List Char) : List Char :=
  match LineRole.ofLine (String.ofList line) with
  | .close => ['}']
  | .header _ => ['{']
  | .leaf _ => []

def bracesOf (lines : List String) : List Char :=
  lines.flatMap fun line => braceOf line.toList

theorem ofLine_opening (text : List Char) :
    LineRole.ofLine (String.ofList (text ++ ['{'])) =
      .header (String.ofList (text.dropWhile Text.isBlank)) := by
  have no_closing : text.dropWhile Text.isBlank ++ ['{'] ≠ ['}'] := by
    intro same
    simpa using congrArg List.getLast? same
  rw [LineRole.ofLine, String.toList_ofList, Text.trim_concat_of_not_blank (by decide)]
  simp [no_closing]

@[simp] theorem braceOf_opening (text : List Char) : braceOf (text ++ ['{']) = ['{'] := by
  rw [braceOf, ofLine_opening]

theorem braceOf_of_takesBrace {line : List Char} (trimmed : Text.trim line = line)
    (takes : takesBrace line = true) : braceOf line = [] := by
  simp only [takesBrace, Bool.and_eq_true, bne_iff_ne] at takes
  rw [braceOf, LineRole.ofLine, String.toList_ofList, trimmed]
  simp [takes.1, takes.2]

theorem count_braceOf (line : String) :
    (braceOf line.toList).count '{' = opening [line] ∧
      (braceOf line.toList).count '}' = closing [line] := by
  rw [braceOf, String.ofList_toList, opening_singleton, closing_singleton]
  cases LineRole.ofLine line <;> exact ⟨rfl, rfl⟩

@[simp] theorem bracesOf_cons (line : String) (lines : List String) :
    bracesOf (line :: lines) = braceOf line.toList ++ bracesOf lines :=
  List.flatMap_cons

theorem count_bracesOf (lines : List String) :
    (bracesOf lines).count '{' = opening lines ∧ (bracesOf lines).count '}' = closing lines := by
  induction lines with
  | nil => exact ⟨rfl, rfl⟩
  | cons line lines ih =>
      rw [← List.singleton_append (l := lines), opening_append, closing_append,
        List.singleton_append, bracesOf_cons, List.count_append, List.count_append,
        (count_braceOf line).1, (count_braceOf line).2, ih.1, ih.2]
      exact ⟨rfl, rfl⟩

theorem length_braceOf_le (line : List Char) : (braceOf line).length ≤ 1 := by
  unfold braceOf
  split <;> simp

theorem exists_take_bracesOf (lines : List String) (count : Nat) :
    ∃ first, (bracesOf lines).take count = bracesOf (lines.take first) := by
  -- No line has two braces, so that the first ones end with a line.
  induction lines generalizing count with
  | nil => exact ⟨0, by simp [bracesOf]⟩
  | cons line lines ih =>
      cases count with
      | zero => exact ⟨0, rfl⟩
      | succ count =>
          have short := length_braceOf_le line.toList
          obtain ⟨first, taken⟩ := ih (count + 1 - (braceOf line.toList).length)
          refine ⟨first + 1, ?_⟩
          rw [List.take_succ_cons, bracesOf_cons, bracesOf_cons, List.take_append,
            List.take_of_length_le (by omega), taken]

theorem bracesOf_take (lines : List String) (first : Nat) :
    ∃ count, bracesOf (lines.take first) = (bracesOf lines).take count := by
  have parts : bracesOf lines = bracesOf (lines.take first) ++ bracesOf (lines.drop first) := by
    rw [bracesOf, bracesOf, bracesOf, ← List.flatMap_append, List.take_append_drop]
  exact ⟨(bracesOf (lines.take first)).length, by rw [parts, List.take_left]⟩

end EventWiki.Script
