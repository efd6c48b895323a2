import EventWiki.Proofs.BraceLayout

namespace EventWiki.Script

theorem statements_cons_of_blank {c : Char} (blank : Text.isBlank c = true) (line : List Char) :
    statements (c :: line) = statements line := by
  have gap : ∀ d ∈ [c], Text.isBlank d = true := List.forall_mem_singleton.mpr blank
  have split : withoutComment (c :: line) = glyphs false [c] ++ withoutComment line :=
    withoutComment_append (uncommented_of_blank gap) (closed_of_blank gap) line
  rw [statements_eq, split, glyphs_singleton, List.singleton_append,
    statementsOf_cons_of_blank blank, statements_eq]

theorem statements_append_comment {code : List Char} (uncommented : Uncommented code)
    (closed : Closed code) (comment : List Char) :
    statements (code ++ '#' :: comment) = statements code := by
  have nothing : withoutComment ('#' :: comment) = [] := rfl
  rw [statements_eq, withoutComment_append uncommented closed, nothing, List.append_nil,
    statements_eq, withoutComment_eq_self uncommented]

/-- A line with nothing but blanks and a comment. -/
def Idle (line : List Char) : Prop :=
  ∀ c ∈ (line.dropWhile Text.isBlank).head?, c = '#'

theorem statements_append_idle {code line : List Char} (uncommented : Uncommented code)
    (closed : Closed code) (idle : Idle line) : statements (code ++ line) = statements code := by
  have parts : line.takeWhile Text.isBlank ++ line.dropWhile Text.isBlank = line :=
    List.takeWhile_append_dropWhile
  have blank : ∀ c ∈ line.takeWhile Text.isBlank, Text.isBlank c = true :=
    fun _ => List.mem_takeWhile_imp
  cases comment : line.dropWhile Text.isBlank with
  | nil =>
      rw [comment, List.append_nil] at parts
      rw [← parts, statements_append_of_blank blank]
  | cons c comment_text =>
      obtain rfl : c = '#' := idle c (by rw [comment]; rfl)
      rw [← parts, comment, ← List.append_assoc, statements_append_comment
        (uncommented.append closed (uncommented_of_blank blank))
        ((closed_append_iff closed).mpr (closed_of_blank blank)), statements_append_of_blank blank]

theorem sourceStatements_of_single {line : List Char} (single : '\n' ∉ line) :
    sourceStatements line = statements line := by
  rw [sourceStatements_eq, Text.splitAt_of_not_mem single, List.flatMap_singleton]

theorem sourceStatements_append_break (left right : List Char) :
    sourceStatements (left ++ '\n' :: right) = sourceStatements left ++ sourceStatements right := by
  rw [sourceStatements_eq, Text.splitAt_append_cons, List.flatMap_append, ← sourceStatements_eq,
    ← sourceStatements_eq]

theorem sourceStatements_cons_of_blank {c : Char} (blank : Text.isBlank c = true)
    (source : List Char) : sourceStatements (c :: source) = sourceStatements source := by
  by_cases line_break : c = '\n'
  · subst line_break
    exact sourceStatements_append_break [] source
  · obtain ⟨line, later, split⟩ := Text.splitAt_append source
    have shorter := split [] List.not_mem_nil
    have longer := split [c] (by simpa using Ne.symm line_break)
    rw [List.nil_append, List.nil_append] at shorter
    rw [List.singleton_append, List.singleton_append] at longer
    rw [sourceStatements_eq, sourceStatements_eq, longer, shorter, List.flatMap_cons,
      List.flatMap_cons, statements_cons_of_blank blank]

theorem sourceStatements_append_of_blank {tail : List Char}
    (blank : ∀ c ∈ tail, Text.isBlank c = true) (single : '\n' ∉ tail) (source : List Char) :
    sourceStatements (source ++ tail) = sourceStatements source := by
  obtain ⟨earlier, split⟩ := Text.splitAt_lastLine source
  have last := Text.not_mem_lastLine source
  have whole := split []
  rw [List.append_nil, List.append_nil, Text.splitAt_of_not_mem last] at whole
  rw [sourceStatements_eq, sourceStatements_eq, split, whole,
    Text.splitAt_of_not_mem (by simp [last, single]), List.flatMap_append, List.flatMap_append,
    List.flatMap_singleton, List.flatMap_singleton, statements_append_of_blank blank]

section

variable {before : List Char} (closed : Closed (Text.lastLine before))
  (uncommented : Uncommented (Text.lastLine before))
include closed uncommented

theorem sourceStatements_append_brace {brace : Char} (is_brace : brace = '{' ∨ brace = '}')
    (after : List Char) :
    sourceStatements (before ++ brace :: after) =
      sourceStatements (before ++ [brace]) ++ sourceStatements after := by
  have plain : Glyph.isBrace ⟨brace, false⟩ = true ∧ brace ≠ '\n' := by
    rcases is_brace with rfl | rfl <;> decide
  -- A line break behind the brace would change nothing, so the text can be cut there.
  have broken : sourceStatements (before ++ ([brace] ++ '\n' :: after)) =
      sourceStatements (before ++ ([brace] ++ after)) :=
    sourceStatements_break_behind after closed uncommented (by simp) (by simp) plain.1 plain.2
  rw [← List.append_assoc, sourceStatements_append_break] at broken
  exact broken.symm

theorem sourceStatements_append_closing (after : List Char) :
    sourceStatements (before ++ '}' :: after) =
      sourceStatements before ++ sourceStatements ('}' :: after) := by
  have broken : sourceStatements (before ++ ([] ++ '\n' :: (['}'] ++ after))) =
      sourceStatements (before ++ (['}'] ++ after)) :=
    sourceStatements_break_before_closing after closed uncommented (by simp) (by simp)
  rw [List.nil_append, sourceStatements_append_break] at broken
  exact broken.symm

end

/-- Blanks, line breaks, and comments up to the ends of their lines. -/
inductive Filler : List Char → Prop where
  | nil : Filler []
  | blank {c : Char} {rest : List Char} (is_blank : Text.isBlank c = true) (filler : Filler rest) :
      Filler (c :: rest)
  | comment {text rest : List Char} (single : '\n' ∉ text) (filler : Filler rest) :
      Filler ('#' :: (text ++ '\n' :: rest))

theorem filler_of_blank {cs : List Char} (blank : ∀ c ∈ cs, Text.isBlank c = true) :
    Filler cs := by
  induction cs with
  | nil => exact .nil
  | cons c cs ih =>
      rw [List.forall_mem_cons] at blank
      exact .blank blank.1 (ih blank.2)

theorem Filler.sourceStatements_append {filler : List Char} (is_filler : Filler filler)
    (rest : List Char) : sourceStatements (filler ++ rest) = sourceStatements rest := by
  induction is_filler with
  | nil => rfl
  | blank is_blank _ ih => rw [List.cons_append, sourceStatements_cons_of_blank is_blank, ih]
  | @comment text filler single _ ih =>
      have nothing : sourceStatements ('#' :: text) = [] := by
        rw [sourceStatements_of_single (by simpa using single)]
        exact statements_append_comment uncommented_nil closed_nil text
      rw [List.cons_append, List.append_assoc, List.cons_append, ← List.cons_append,
        sourceStatements_append_break, nothing, ih, List.nil_append]

structure CodeLine (code : List Char) : Prop where
  single : '\n' ∉ code
  closed : Closed code
  uncommented : Uncommented code

namespace CodeLine

variable {code : List Char}

theorem nil : CodeLine [] :=
  ⟨List.not_mem_nil, closed_nil, uncommented_nil⟩

theorem lastLine_eq (code_line : CodeLine code) : Text.lastLine code = code := by
  rw [Text.lastLine, List.rtakeWhile_eq_self_iff]
  intro c member
  simpa using ne_of_mem_of_not_mem member code_line.single

theorem concat (code_line : CodeLine code) {c : Char} (blank : Text.isBlank c = true)
    (no_break : c ≠ '\n') : CodeLine (code ++ [c]) where
  single := by simpa [code_line.single] using no_break.symm
  closed := (closed_append_iff code_line.closed).mpr (closed_of_blank (by simpa using blank))
  uncommented := code_line.uncommented.append code_line.closed
    (uncommented_of_blank (by simpa using blank))

theorem last (code_line : CodeLine code) :
    Closed (Text.lastLine code) ∧ Uncommented (Text.lastLine code) := by
  rw [code_line.lastLine_eq]
  exact ⟨code_line.closed, code_line.uncommented⟩

theorem sourceStatements_append_closing (code_line : CodeLine code) (after : List Char) :
    sourceStatements (code ++ '}' :: after) =
      statements code ++ sourceStatements ('}' :: after) := by
  rw [Script.sourceStatements_append_closing code_line.last.1 code_line.last.2,
    sourceStatements_of_single code_line.single]

theorem sourceStatements_append_brace (code_line : CodeLine code) {brace : Char}
    (is_brace : brace = '{' ∨ brace = '}') (after : List Char) :
    sourceStatements (code ++ brace :: after) =
      statements (code ++ [brace]) ++ sourceStatements after := by
  have single : '\n' ∉ code ++ [brace] := by
    rcases is_brace with rfl | rfl <;> simp [code_line.single]
  rw [Script.sourceStatements_append_brace code_line.last.1 code_line.last.2 is_brace,
    sourceStatements_of_single single]

theorem sourceStatements_filler_closing (code_line : CodeLine code) {filler : List Char}
    (is_filler : Filler filler) (after : List Char) :
    sourceStatements (code ++ (filler ++ '}' :: after)) =
      statements code ++ sourceStatements ('}' :: after) := by
  induction is_filler generalizing code with
  | nil => exact code_line.sourceStatements_append_closing after
  | @blank c filler is_blank is_filler ih =>
      by_cases line_break : c = '\n'
      · subst line_break
        rw [List.cons_append, sourceStatements_append_break,
          is_filler.sourceStatements_append, sourceStatements_of_single code_line.single]
      · -- The blank is taken as code, since a comment behind it is on the line of the code.
        rw [List.cons_append, List.append_cons, ih (code_line.concat is_blank line_break),
          statements_concat_of_blank code is_blank]
  | @comment text filler single is_filler ih =>
      have line : '\n' ∉ code ++ '#' :: text := by simp [code_line.single, single]
      rw [List.cons_append, List.append_assoc, List.cons_append, ← List.cons_append,
        ← List.append_assoc, sourceStatements_append_break, is_filler.sourceStatements_append,
        sourceStatements_of_single line,
        statements_append_comment code_line.uncommented code_line.closed]

end CodeLine

/-- A text between two others shares no line with code of theirs. -/
structure OnOwnLines (before after : List Char) : Prop where
  indented : ∀ c ∈ Text.lastLine before, Text.isBlank c = true
  ended : Idle (after.takeWhile (· != '\n'))

namespace OnOwnLines

variable {before after : List Char}

theorem sourceStatements_before (own : OnOwnLines before after) (text : List Char) :
    sourceStatements (before ++ text) = sourceStatements before ++ sourceStatements text := by
  obtain ⟨earlier, split⟩ := Text.splitAt_lastLine before
  have indented := filler_of_blank own.indented
  have parts : ∀ rest, sourceStatements (before ++ rest) =
      earlier.flatMap statements ++ sourceStatements rest := by
    intro rest
    rw [sourceStatements_eq, split, List.flatMap_append, ← sourceStatements_eq,
      indented.sourceStatements_append]
  have alone := parts []
  rw [List.append_nil] at alone
  rw [parts, alone, show sourceStatements [] = [] from rfl, List.append_nil]

theorem sourceStatements_after (own : OnOwnLines before after) {code : List Char}
    (code_line : CodeLine code) :
    sourceStatements (code ++ after) = statements code ++ sourceStatements after := by
  have single : '\n' ∉ after.takeWhile (· != '\n') := by
    intro member
    simpa using List.mem_takeWhile_imp member
  have on_line : ∀ front, CodeLine front →
      sourceStatements (front ++ after.takeWhile (· != '\n')) = statements front := by
    intro front front_line
    rw [sourceStatements_of_single (by simp [front_line.single, single]),
      statements_append_idle front_line.uncommented front_line.closed own.ended]
  have parts : after.takeWhile (· != '\n') ++ after.dropWhile (· != '\n') = after :=
    List.takeWhile_append_dropWhile
  have nothing : statements [] = [] := rfl
  -- Behind the code only the rest of its line could be read with it, and that is idle.
  cases behind : after.dropWhile (· != '\n') with
  | nil =>
      rw [behind, List.append_nil] at parts
      have alone := on_line [] .nil
      have together := on_line code code_line
      rw [parts] at alone together
      rw [together, ← List.nil_append after, alone, nothing, List.append_nil]
  | cons c later =>
      obtain rfl : c = '\n' := by
        have outside := List.head?_dropWhile_not (· != '\n') after
        simpa [behind] using outside
      have alone := on_line [] .nil
      have together := on_line code code_line
      rw [List.nil_append] at alone
      rw [← parts, behind, ← List.append_assoc, sourceStatements_append_break,
        sourceStatements_append_break, together, alone, nothing, List.nil_append]

theorem normalize_eq {before after : String}
    (own : OnOwnLines before.toList after.toList) {text : List Char} {line : List Char}
    {lines : List (List Char)} (filled : line ≠ ['{'])
    (statements_eq : sourceStatements (text ++ after.toList) = line :: lines) :
    normalize (before ++ String.ofList text ++ after) =
      normalize before ++ (joinBraces (line :: lines)).map String.ofList := by
  have parts : (before ++ String.ofList text ++ after).toList =
      before.toList ++ (text ++ after.toList) := by
    simp
  rw [normalize, normalize, ← sourceStatements, ← sourceStatements, parts,
    own.sourceStatements_before, statements_eq, joinBraces_append (by simpa using filled),
    List.map_append]

end OnOwnLines

end EventWiki.Script
