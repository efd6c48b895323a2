import EventWiki.Proofs.PlainText
import EventWiki.Script.StatementLine

namespace EventWiki.Script

def statementsOf (line : List Glyph) : List (List Char) :=
  ((cut line).map fun piece => Text.trim (piece.map Glyph.char)).filter (!·.isEmpty)

theorem statements_eq (line : List Char) :
    statements line = statementsOf (withoutComment line) := rfl

@[simp] theorem statementsOf_nil : statementsOf [] = [] := rfl

/-- Whether a quotation is open behind a text. -/
def quotedAfter (quoted : Bool) : List Char → Bool
  | [] => quoted
  | c :: rest => quotedAfter (if c = '"' then !quoted else quoted) rest

theorem glyphs_append (quoted : Bool) (left right : List Char) :
    glyphs quoted (left ++ right) =
      glyphs quoted left ++ glyphs (quotedAfter quoted left) right := by
  induction left generalizing quoted with
  | nil => rfl
  | cons c rest ih =>
      by_cases quote : c = '"' <;> simp [glyphs, quotedAfter, quote, ih]

theorem glyphs_of_not_mem {cs : List Char} (absent : '"' ∉ cs) (quoted : Bool) :
    glyphs quoted cs = cs.map fun c => ⟨c, quoted⟩ := by
  induction cs with
  | nil => rfl
  | cons c rest ih =>
      rw [List.mem_cons, not_or] at absent
      simp [glyphs, Ne.symm absent.1, ih absent.2]

theorem quotedAfter_of_not_mem {cs : List Char} (absent : '"' ∉ cs) (quoted : Bool) :
    quotedAfter quoted cs = quoted := by
  induction cs with
  | nil => rfl
  | cons c rest ih =>
      rw [List.mem_cons, not_or] at absent
      simp [quotedAfter, Ne.symm absent.1, ih absent.2]

/-- No cut is made behind a glyph of `piece` when `rest` follows it. -/
def RunsOn : List Glyph → List Glyph → Prop
  | [], _ => True
  | glyph :: behind, rest => endsBefore glyph (behind ++ rest) = false ∧ RunsOn behind rest

theorem RunsOn.append {left right rest : List Glyph} (first : RunsOn left (right ++ rest))
    (second : RunsOn right rest) : RunsOn (left ++ right) rest := by
  induction left with
  | nil => exact second
  | cons glyph left ih =>
      refine ⟨?_, ih first.2⟩
      change endsBefore glyph ((left ++ right) ++ rest) = false
      rw [List.append_assoc]
      exact first.1

theorem cut_of_runsOn {piece rest first : List Glyph} {others : List (List Glyph)}
    (runs : RunsOn piece rest) (cut_rest : cut rest = first :: others) :
    cut (piece ++ rest) = (piece ++ first) :: others := by
  induction piece with
  | nil => exact cut_rest
  | cons glyph piece ih =>
      rw [List.cons_append, cut, if_neg (by simp [runs.1]), ih runs.2]
      rfl

theorem cut_of_ends {piece rest : List Glyph} {last : Glyph}
    (runs : RunsOn piece (last :: rest)) (ends : endsBefore last rest = true) :
    cut (piece ++ last :: rest) = (piece ++ [last]) :: cut rest :=
  cut_of_runsOn runs (by rw [cut, if_pos ends])

theorem cut_to_end {piece : List Glyph} {last : Glyph} (runs : RunsOn piece [last]) :
    cut (piece ++ [last]) = [piece ++ [last]] := by
  apply cut_of_runsOn runs
  rw [cut]
  split <;> rfl

theorem statementsOf_of_cut {line piece rest : List Glyph} {statement : List Char}
    (cut_line : cut line = piece :: cut rest)
    (trimmed : Text.trim (piece.map Glyph.char) = statement) (nonempty : statement ≠ []) :
    statementsOf line = statement :: statementsOf rest := by
  rw [statementsOf, cut_line, List.map_cons, trimmed,
    List.filter_cons_of_pos (by simpa using nonempty)]
  rfl

theorem statementsOf_cons_of_blank {gap : Glyph} (blank : Text.isBlank gap.char = true)
    (rest : List Glyph) : statementsOf (gap :: rest) = statementsOf rest := by
  have trim_gap : Text.trim [gap.char] = [] := Text.trim_cons_of_blank blank []
  unfold statementsOf
  rw [cut]
  split
  · simp [trim_gap]
  · cases cut rest with
    | nil => simp [consHead, trim_gap]
    | cons piece others =>
        simp only [consHead, List.map_cons, Text.trim_cons_of_blank blank]

theorem endsBefore_eq_false {glyph : Glyph} {rest : List Glyph}
    (no_opening : glyph.isMark '{' = false) (no_closing : glyph.isMark '}' = false)
    (open_end : rest.head?.any (Glyph.isMark '}') = false)
    (no_statement : glyph.endsValue = true → startsStatement rest = false) :
    endsBefore glyph rest = false := by
  cases value : glyph.endsValue with
  | false => simp [endsBefore, no_opening, no_closing, open_end, value]
  | true => simp [endsBefore, no_opening, no_closing, open_end, no_statement value]

end EventWiki.Script
