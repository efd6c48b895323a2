import EventWiki.Proofs.BraceJoin
import EventWiki.Proofs.LineBraces
import EventWiki.Proofs.PhysicalLines

namespace EventWiki.Script

/-- What follows the text stands in the code of its physical line. -/
structure InCode (before : String) : Prop where
  closed : Closed (Text.lastLine before.toList)
  uncommented : Uncommented (Text.lastLine before.toList)

/-- Lines that a reading cannot tell apart. -/
def SameLine (left right : List Char) : Prop :=
  ∀ (reading : Reading) (number : Nat),
    reading.step (String.ofList left) number = reading.step (String.ofList right) number

theorem forall₂_sameLine_refl (lines : List (List Char)) : List.Forall₂ SameLine lines lines :=
  List.forall₂_same.mpr fun _ _ _ _ => rfl

theorem SameLine.symm {left right : List Char} (same : SameLine left right) :
    SameLine right left := fun reading number => (same reading number).symm

theorem steps_congr {left right : List (List Char)} (same : List.Forall₂ SameLine left right)
    (reading : Reading) (number : Nat) :
    reading.steps number (left.map String.ofList) =
      reading.steps number (right.map String.ofList) := by
  induction same generalizing reading number with
  | nil => rfl
  | @cons line other left right head tail ih =>
      simp only [List.map_cons, Reading.steps, head reading number, ih]

theorem outline_congr {left right : List (List Char)} (same : List.Forall₂ SameLine left right) :
    outline (left.map String.ofList) = outline (right.map String.ofList) := by
  rw [outline, outline, steps_congr same]

theorem read_congr {left right : String}
    (same : Text.trim left.toList = Text.trim right.toList) (number : Nat) :
    Token.read number left = Token.read number right := by
  simp only [Token.read, same]

theorem sameLine_opening (text : List Char) :
    SameLine (text ++ ['{']) (Text.trim text ++ [' ', '{']) := by
  intro reading number
  have parts : Text.trim text ++ [' ', '{'] = (Text.trim text ++ [' ']) ++ ['{'] := by simp
  have same_header : Token.read number (String.ofList (text.dropWhile Text.isBlank)) =
      Token.read number (String.ofList ((Text.trim text ++ [' ']).dropWhile Text.isBlank)) := by
    apply read_congr
    simp only [String.toList_ofList, Text.trim_dropWhile]
    rw [Text.trim_concat_of_blank (by decide), Text.trim_trim]
  rw [parts, Reading.step, Reading.step, ofLine_opening, ofLine_opening]
  simp only [same_header]

theorem forall₂_sameLine_joinBraces {text : List Char} (filled : Text.trim text ≠ [])
    (takes : takesBrace (Text.trim text) = true) (front rest : List (List Char)) :
    List.Forall₂ SameLine (joinBraces (front ++ Text.trim text :: ['{'] :: rest))
      (joinBraces (front ++ (text ++ ['{']) :: rest)) := by
  have full : takesBrace (text ++ ['{']) = false := by simp [takesBrace]
  have alone : Text.trim text ≠ ['{'] := by
    intro same
    rw [same] at takes
    contradiction
  have text_filled : text ≠ [] := by
    rintro rfl
    contradiction
  rw [joinBraces_append (by simpa using alone), joinBraces_append (by simpa using text_filled),
    joinBraces, if_pos (by simpa using takes), joinBraces_cons fun _ => full]
  exact List.rel_append (forall₂_sameLine_refl _)
    (.cons (sameLine_opening text).symm (forall₂_sameLine_refl _))

def sourceStatements (source : List Char) : List (List Char) :=
  (Text.lines source).flatMap statements

theorem statements_dropReturn (line : List Char) :
    statements (Text.dropReturn line) = statements line := by
  unfold Text.dropReturn
  split
  · next ends =>
      obtain ⟨front, rfl⟩ := List.getLast?_eq_some_iff.mp ends
      rw [List.dropLast_concat, statements_concat_of_blank front (by decide)]
  · rfl

theorem sourceStatements_eq (source : List Char) :
    sourceStatements source = (Text.splitAt '\n' source).flatMap statements :=
  Text.flatMap_lines (by decide) statements_dropReturn source

theorem sourceStatements_around (before after : List Char) : ∃ front line back,
    (∀ middle, '\n' ∉ middle → sourceStatements (before ++ (middle ++ after)) =
      front ++ (statements (Text.lastLine before ++ (middle ++ line)) ++ back)) ∧
    ∀ left right, '\n' ∉ left → '\n' ∉ right →
      sourceStatements (before ++ (left ++ '\n' :: (right ++ after))) =
        front ++ (statements (Text.lastLine before ++ left) ++
          (statements (right ++ line) ++ back)) := by
  obtain ⟨earlier, split_before⟩ := Text.splitAt_lastLine before
  obtain ⟨line, later, split_after⟩ := Text.splitAt_append after
  have single := Text.not_mem_lastLine before
  refine ⟨earlier.flatMap statements, line, later.flatMap statements, fun middle inside => ?_,
    fun left right left_inside right_inside => ?_⟩
  · rw [sourceStatements_eq, split_before, ← List.append_assoc,
      split_after _ (by simp [single, inside]), List.flatMap_append, List.flatMap_cons,
      List.append_assoc]
  · rw [sourceStatements_eq, split_before, ← List.append_assoc, Text.splitAt_append_cons,
      split_after _ right_inside, Text.splitAt_of_not_mem (by simp [single, left_inside])]
    simp

theorem parse_eq (source : String) :
    parse source = outline ((joinBraces (sourceStatements source.toList)).map String.ofList) := rfl

theorem statements_append_of_blank {tail : List Char}
    (blank : ∀ c ∈ tail, Text.isBlank c = true) (line : List Char) :
    statements (line ++ tail) = statements line := by
  induction tail generalizing line with
  | nil => rw [List.append_nil]
  | cons c tail ih =>
      rw [List.forall_mem_cons] at blank
      rw [List.append_cons, ih blank.2, statements_concat_of_blank line blank.1]

section

variable {before tail : List Char} (after : List Char) (closed : Closed (Text.lastLine before))
  (uncommented : Uncommented (Text.lastLine before))
  (blank : ∀ c ∈ tail, Text.isBlank c = true) (single : '\n' ∉ tail)
include closed uncommented blank single

theorem sourceStatements_break_behind {brace : Char}
    (is_brace : Glyph.isBrace ⟨brace, false⟩ = true) (no_break : brace ≠ '\n') :
    sourceStatements (before ++ ((brace :: tail) ++ '\n' :: after)) =
      sourceStatements (before ++ ([brace] ++ after)) := by
  obtain ⟨front, line, back, on_one, on_two⟩ := sourceStatements_around before after
  have on_lines := on_two (brace :: tail) [] (by simp [no_break.symm, single]) (by simp)
  rw [List.nil_append, List.nil_append] at on_lines
  rw [on_lines, on_one [brace] (by simpa using no_break.symm), List.append_cons,
    statements_append_of_blank blank, List.singleton_append,
    statements_append_brace uncommented closed is_brace line, List.append_assoc]

theorem sourceStatements_break_before_closing :
    sourceStatements (before ++ (tail ++ '\n' :: (['}'] ++ after))) =
      sourceStatements (before ++ (['}'] ++ after)) := by
  obtain ⟨front, line, back, on_one, on_two⟩ := sourceStatements_around before after
  rw [on_two tail ['}'] single (by decide), on_one ['}'] (by decide),
    statements_append_of_blank blank, List.singleton_append,
    statements_append_closing uncommented closed, List.append_assoc]

theorem forall₂_sameLine_break_before_opening :
    List.Forall₂ SameLine
      (joinBraces (sourceStatements (before ++ (tail ++ '\n' :: (['{'] ++ after)))))
      (joinBraces (sourceStatements (before ++ (['{'] ++ after)))) := by
  obtain ⟨front, line, back, on_one, on_two⟩ := sourceStatements_around before after
  have alone : statements (['{'] ++ line) = ['{'] :: statements line :=
    statements_append_brace uncommented_nil closed_nil rfl line
  rw [on_two tail ['{'] single (by decide), on_one ['{'] (by decide),
    statements_append_of_blank blank, alone, List.singleton_append,
    statements_append_brace uncommented closed rfl]
  -- The brace stands alone on either side, or the break takes it from a line that it joins again.
  rcases statements_append_opening uncommented closed with
    apart | ⟨earlier, text, filled, takes, without_brace, with_brace⟩
  · rw [apart]
    simp only [List.append_assoc, List.cons_append]
    exact forall₂_sameLine_refl _
  · rw [without_brace, with_brace]
    have joined := forall₂_sameLine_joinBraces filled takes (front ++ earlier)
      (statements line ++ back)
    simpa using joined

end

/-- A line break directly before or behind a brace outside quotes and comments leaves the outline or
the error of a script as it is. -/
theorem parse_line_break_at_brace {before after lineBreak : String} {brace : Char}
    (is_break : lineBreak = "\n" ∨ lineBreak = "\r\n") (is_brace : brace = '{' ∨ brace = '}')
    (in_code : InCode before) :
    parse (before ++ lineBreak ++ brace.toString ++ after) =
        parse (before ++ brace.toString ++ after) ∧
      parse (before ++ brace.toString ++ lineBreak ++ after) =
        parse (before ++ brace.toString ++ after) := by
  obtain ⟨tail, break_eq, blank, single⟩ : ∃ tail, lineBreak.toList = tail ++ ['\n'] ∧
      (∀ c ∈ tail, Text.isBlank c = true) ∧ '\n' ∉ tail := by
    rcases is_break with rfl | rfl
    · exact ⟨[], rfl, by simp, by simp⟩
    · exact ⟨['\r'], rfl, List.forall_mem_singleton.mpr (by decide), by decide⟩
  have plain : Glyph.isBrace ⟨brace, false⟩ = true ∧ brace ≠ '\n' := by
    rcases is_brace with rfl | rfl <;> decide
  have on_one : (before ++ brace.toString ++ after).toList =
      before.toList ++ ([brace] ++ after.toList) := by
    simp
  have broken_before : (before ++ lineBreak ++ brace.toString ++ after).toList =
      before.toList ++ (tail ++ '\n' :: ([brace] ++ after.toList)) := by
    simp [break_eq]
  have broken_behind : (before ++ brace.toString ++ lineBreak ++ after).toList =
      before.toList ++ ((brace :: tail) ++ '\n' :: after.toList) := by
    simp [break_eq]
  rw [parse_eq, parse_eq, parse_eq, on_one, broken_before, broken_behind,
    sourceStatements_break_behind after.toList in_code.closed in_code.uncommented blank single
      plain.1 plain.2]
  refine ⟨?_, rfl⟩
  rcases is_brace with rfl | rfl
  · exact outline_congr (forall₂_sameLine_break_before_opening after.toList in_code.closed
      in_code.uncommented blank single)
  · rw [sourceStatements_break_before_closing after.toList in_code.closed in_code.uncommented
      blank single]

def headerText : String := "# options\ntag = \"#\" NOT ="

theorem parse_line_break_at_header :
    InCode headerText ∧
      parse (headerText ++ "\r\n" ++ '{'.toString ++ " owner = ROOT \x7d # \x7d") =
        parse (headerText ++ '{'.toString ++ " owner = ROOT \x7d # \x7d") ∧
      parse (headerText ++ '{'.toString ++ "\r\n" ++ " owner = ROOT \x7d # \x7d") =
        parse (headerText ++ '{'.toString ++ " owner = ROOT \x7d # \x7d") := by
  have in_code : InCode headerText :=
    ⟨by decide +kernel, uncommented_iff.mpr (by decide +kernel)⟩
  exact ⟨in_code, parse_line_break_at_brace (.inr rfl) (.inl rfl) in_code⟩

end EventWiki.Script
