import EventWiki.Proofs.BraceJoin
import EventWiki.Proofs.StatementGaps
import EventWiki.Proofs.StatementSlices

namespace EventWiki.Script

/-! Statement lines made in passes over each line: its comment is dropped, it is cut at its
braces, every piece is sliced at its boundaries, and a lone brace is put behind the statement
before it. -/

def stripComment (quoted : Bool) : List Char → List Char
  | [] => []
  | c :: rest =>
      if c = '"' then c :: stripComment (!quoted) rest
      else if c = '#' && !quoted then []
      else c :: stripComment quoted rest

/-- Cuts a line behind every opening brace and around every closing one. -/
def splitBraces (quoted : Bool) (current : List Char) : List Char → List (List Char)
  | [] => [current]
  | c :: rest =>
      if c = '"' then splitBraces (!quoted) (current ++ [c]) rest
      else if c = '{' && !quoted then (current ++ [c]) :: splitBraces quoted [] rest
      else if c = '}' && !quoted then current :: ['}'] :: splitBraces quoted [] rest
      else splitBraces quoted (current ++ [c]) rest

def pushStatement (lines : List (List Char)) (statement : List Char) : List (List Char) :=
  let statement := Text.trim statement
  if statement.isEmpty then lines
  else
    match lines.getLast? with
    | some previous =>
        if statement = ['{'] && takesBrace previous then
          lines.dropLast ++ [previous ++ [' ', '{']]
        else lines ++ [statement]
    | none => lines ++ [statement]

def pushPiece? (lines : List (List Char)) (piece : List Char) : Option (List (List Char)) :=
  (splitStatements? piece).map (·.foldl pushStatement lines)

def pushLine? (lines : List (List Char)) (line : List Char) : Option (List (List Char)) :=
  (splitBraces false [] (stripComment false (Text.trim line))).foldlM pushPiece? lines

/-- The statement lines of a script, unless a text is cut inside a character. -/
def passes? (source : String) : Option (List String) :=
  ((Text.lines source.toList).foldlM pushLine? []).map (·.map String.ofList)

theorem stripComment_eq (line : List Char) : stripComment false line = codeOf line := by
  have general (quoted : Bool) : stripComment quoted line =
      ((glyphs quoted line).takeWhile fun glyph => !glyph.isMark '#').map Glyph.char := by
    induction line generalizing quoted with
    | nil => rfl
    | cons c rest ih =>
        rw [stripComment, glyphs]
        split
        · next quote =>
          rw [ih, List.takeWhile_cons_of_pos (by simp [Glyph.isMark, quote])]
          rfl
        · split
          · next sign =>
            rw [List.takeWhile_cons_of_neg (by simpa [Glyph.isMark, and_comm] using sign)]
            rfl
          · next other =>
            rw [ih, List.takeWhile_cons_of_pos (by cases quoted <;> simp_all [Glyph.isMark])]
            rfl
  exact general false

theorem statements_blank_append {lead : List Char}
    (blank : ∀ c ∈ lead, Text.isBlank c = true) (line : List Char) :
    statements (lead ++ line) = statements line := by
  induction lead with
  | nil => rfl
  | cons c lead ih =>
      rw [List.forall_mem_cons] at blank
      rw [List.cons_append, statements_cons_of_blank blank.1, ih blank.2]

theorem statements_trim (line : List Char) : statements (Text.trim line) = statements line := by
  obtain ⟨lead, tail, parts, lead_blank, tail_blank⟩ := Text.trim_parts line
  conv_rhs => rw [parts]
  rw [statements_blank_append lead_blank, statements_append_of_blank tail_blank]

theorem quotedAfter_concat (quoted : Bool) (cs : List Char) (c : Char) :
    quotedAfter quoted (cs ++ [c]) =
      if c = '"' then !quotedAfter quoted cs else quotedAfter quoted cs := by
  induction cs generalizing quoted with
  | nil => rfl
  | cons d cs ih => exact ih _

theorem glyphs_concat (cs : List Char) (c : Char) :
    glyphs false (cs ++ [c]) = glyphs false cs ++ glyphs (quotedAfter false cs) [c] :=
  glyphs_append false cs [c]

theorem glyphs_append_of_unquoted {current : List Char} {c : Char} (no_quote : c ≠ '"')
    (unquoted : quotedAfter false current = false) (behind : List Char) :
    glyphs false (current ++ c :: behind) =
      glyphs false current ++ ⟨c, false⟩ :: glyphs false behind := by
  rw [glyphs_append, unquoted, glyphs, if_neg no_quote]

/-- The statements of the pieces between the braces of a line are those of the line, where `current`
is what stands before the line in its first piece. -/
structure SplitAsCut (quoted : Bool) (current line : List Char) : Prop where
  braceless : ∀ piece ∈ splitBraces quoted current line, Braceless (glyphs false piece)
  statements_eq :
    ((splitBraces quoted current line).flatMap fun piece => statementsOf (glyphs false piece)) =
      statementsOf (glyphs false (current ++ line))

namespace SplitAsCut

variable {quoted : Bool} {current rest : List Char}

section

variable (unquoted : quotedAfter false current = false)
  (flat : ∀ glyph ∈ glyphs false current, glyph.isBrace = false)
  (behind : SplitAsCut false [] rest)
include unquoted flat behind

theorem opening : SplitAsCut false current ('{' :: rest) := by
  have split_eq : splitBraces false current ('{' :: rest) =
      (current ++ ['{']) :: splitBraces false [] rest := rfl
  have first : glyphs false (current ++ ['{']) = glyphs false current ++ [Glyph.opening] :=
    glyphs_append_of_unquoted (by decide) unquoted []
  have whole : glyphs false (current ++ '{' :: rest) =
      glyphs false current ++ Glyph.opening :: glyphs false rest :=
    glyphs_append_of_unquoted (by decide) unquoted rest
  constructor
  · rw [split_eq, List.forall_mem_cons, first]
    exact ⟨.concat_opening flat, behind.braceless⟩
  · rw [split_eq, List.flatMap_cons, behind.statements_eq, first, whole]
    exact (statementsOf_append_brace _ rfl _).symm

theorem closing : SplitAsCut false current ('}' :: rest) := by
  have split_eq : splitBraces false current ('}' :: rest) =
      current :: ['}'] :: splitBraces false [] rest := rfl
  have whole : glyphs false (current ++ '}' :: rest) =
      glyphs false current ++ Glyph.closing :: glyphs false rest :=
    glyphs_append_of_unquoted (by decide) unquoted rest
  constructor
  · rw [split_eq, List.forall_mem_cons, List.forall_mem_cons]
    exact ⟨.of_forall flat, braceless_closing, behind.braceless⟩
  · rw [split_eq, List.flatMap_cons, List.flatMap_cons, behind.statements_eq, whole,
      statementsOf_append_closing]
    exact congrArg _ (statementsOf_append_brace [] rfl (glyphs false rest)).symm

end

theorem of_concat {c : Char} {next : Bool}
    (same : splitBraces quoted current (c :: rest) = splitBraces next (current ++ [c]) rest)
    (longer : SplitAsCut next (current ++ [c]) rest) : SplitAsCut quoted current (c :: rest) where
  braceless := by
    rw [same]
    exact longer.braceless
  statements_eq := by
    rw [same, longer.statements_eq, List.append_assoc, List.singleton_append]

theorem of_line (line : List Char) (state : quotedAfter false current = quoted)
    (flat : ∀ glyph ∈ glyphs false current, glyph.isBrace = false) :
    SplitAsCut quoted current line := by
  induction line generalizing quoted current with
  | nil =>
      constructor
      · exact List.forall_mem_singleton.mpr (.of_forall flat)
      · rw [splitBraces, List.flatMap_singleton, List.append_nil]
  | cons c rest ih =>
      have concat := glyphs_concat current c
      rw [state] at concat
      by_cases quote : c = '"'
      · refine of_concat (by rw [splitBraces, if_pos quote]) (ih ?_ ?_)
        · rw [quotedAfter_concat, if_pos quote, state]
        · rw [concat, List.forall_mem_append]
          exact ⟨flat, by simp [glyphs, quote, Glyph.isBrace, Glyph.isMark]⟩
      · cases brace : Glyph.isBrace ⟨c, quoted⟩ with
        | true =>
            have behind : SplitAsCut false [] rest := ih rfl (by simp [glyphs])
            rcases Glyph.isBrace_iff.mp brace with opens | closes
            · cases opens
              exact opening state flat behind
            · cases closes
              exact closing state flat behind
        | false =>
            have longer : SplitAsCut quoted (current ++ [c]) rest := by
              refine ih (by rw [quotedAfter_concat, if_neg quote, state]) ?_
              rw [concat, glyphs, if_neg quote, List.forall_mem_append]
              exact ⟨flat, List.forall_mem_singleton.mpr brace⟩
            have apart {mark : Char} (other : Glyph.isMark mark ⟨c, quoted⟩ = false) :
                ¬(decide (c = mark) && !quoted) = true := by
              rw [Bool.and_comm]
              exact ne_true_of_eq_false other
            obtain ⟨no_opening, no_closing⟩ := Bool.or_eq_false_iff.mp brace
            refine of_concat ?_ longer
            rw [splitBraces, if_neg quote, if_neg (apart no_opening), if_neg (apart no_closing)]

end SplitAsCut

theorem foldl_pushStatement_filledTexts (lines texts : List (List Char)) :
    texts.foldl pushStatement lines = (filledTexts texts).foldl pushStatement lines := by
  induction texts generalizing lines with
  | nil => rfl
  | cons text texts ih =>
      have first : filledTexts (text :: texts) =
          if (Text.trim text).isEmpty then filledTexts texts
          else Text.trim text :: filledTexts texts := by
        simp [filledTexts, List.filter_cons]
      rw [List.foldl_cons, ih, first]
      split
      · next empty => rw [pushStatement, if_pos empty]
      · rw [List.foldl_cons, pushStatement, pushStatement, Text.trim_trim]

theorem foldl_pushStatement (done : List (List Char)) (line : List Char)
    {statements : List (List Char)}
    (settled : ∀ statement ∈ statements, Text.trim statement = statement ∧ statement ≠ []) :
    statements.foldl pushStatement (done ++ [line]) = done ++ joinBraces (line :: statements) := by
  induction statements generalizing done line with
  | nil => rfl
  | cons next rest ih =>
      rw [List.forall_mem_cons] at settled
      obtain ⟨⟨trimmed, filled⟩, settled⟩ := settled
      have pushed : pushStatement (done ++ [line]) next =
          if next = ['{'] && takesBrace line then done ++ [line ++ [' ', '{']]
          else done ++ [line] ++ [next] := by
        rw [pushStatement, trimmed, if_neg (by simpa using filled), List.getLast?_concat]
        simp only [List.dropLast_concat]
      rw [List.foldl_cons, pushed, joinBraces]
      split
      · next joined =>
        rw [ih _ _ settled, joinBraces_cons fun _ => takesBrace_joined line]
      · next apart =>
        rw [ih _ _ settled, List.append_assoc, List.singleton_append]

theorem foldl_pushStatement_nil {statements : List (List Char)}
    (settled : ∀ statement ∈ statements, Text.trim statement = statement ∧ statement ≠ []) :
    statements.foldl pushStatement [] = joinBraces statements := by
  cases statements with
  | nil => rfl
  | cons first rest =>
      rw [List.forall_mem_cons] at settled
      have pushed : pushStatement [] first = [first] := by
        rw [pushStatement, settled.1.1, if_neg (by simpa using settled.1.2)]
        rfl
      rw [List.foldl_cons, pushed]
      exact foldl_pushStatement [] first settled.2

theorem pushPiece?_eq {piece : List Char} (braceless : Braceless (glyphs false piece))
    (lines : List (List Char)) : pushPiece? lines piece =
      some ((statementsOf (glyphs false piece)).foldl pushStatement lines) := by
  obtain ⟨texts, sliced, same⟩ := exists_splitStatements? piece braceless
  rw [pushPiece?, sliced, Option.map_some, foldl_pushStatement_filledTexts, same]

theorem foldlM_pushPiece? {pieces : List (List Char)}
    (braceless : ∀ piece ∈ pieces, Braceless (glyphs false piece)) (lines : List (List Char)) :
    pieces.foldlM pushPiece? lines =
      some ((pieces.flatMap fun piece => statementsOf (glyphs false piece)).foldl pushStatement
        lines) := by
  induction pieces generalizing lines with
  | nil => rfl
  | cons piece pieces ih =>
      rw [List.forall_mem_cons] at braceless
      rw [List.foldlM_cons, pushPiece?_eq braceless.1, List.flatMap_cons, List.foldl_append]
      exact ih braceless.2 _

theorem pushLine?_eq (lines : List (List Char)) (line : List Char) :
    pushLine? lines line = some ((statements line).foldl pushStatement lines) := by
  have unquoted : quotedAfter false [] = false := rfl
  have split_as_cut : SplitAsCut false [] (codeOf (Text.trim line)) :=
    .of_line _ unquoted (by simp [glyphs])
  rw [pushLine?, stripComment_eq, foldlM_pushPiece? split_as_cut.braceless,
    split_as_cut.statements_eq, List.nil_append,
    glyphs_codeOf, ← statements_eq, statements_trim]

theorem foldlM_pushLine? (lines done : List (List Char)) :
    lines.foldlM pushLine? done = some ((lines.flatMap statements).foldl pushStatement done) := by
  induction lines generalizing done with
  | nil => rfl
  | cons line lines ih =>
      rw [List.foldlM_cons, pushLine?_eq, List.flatMap_cons, List.foldl_append]
      exact ih _

/-- The passes never cut inside a character, and leave the lines of a single cut. -/
theorem passes?_eq (source : String) : passes? source = some (normalize source) := by
  have settled : ∀ statement ∈ (Text.lines source.toList).flatMap statements,
      Text.trim statement = statement ∧ statement ≠ [] := by
    intro statement inside
    obtain ⟨line, _, inside⟩ := List.mem_flatMap.mp inside
    exact ⟨trim_of_mem_statements inside, by simpa using (List.mem_filter.mp inside).2⟩
  rw [passes?, foldlM_pushLine?, foldl_pushStatement_nil settled, normalize]
  rfl

end EventWiki.Script
