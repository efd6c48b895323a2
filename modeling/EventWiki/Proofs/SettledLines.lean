import EventWiki.Proofs.BraceCut
import EventWiki.Proofs.BraceJoin
import EventWiki.Proofs.PhysicalLines

namespace EventWiki.Script

structure Settled (line : List Char) : Prop where
  filled : line ≠ []
  trimmed : Text.trim line = line
  single : '\n' ∉ line
  uncommented : Uncommented line
  whole : Whole (glyphs false line)

theorem Settled.statements_eq {line : List Char} (settled : Settled line) :
    statements line = [line] := by
  have cut_into := cutInto_of_whole settled.filled settled.whole
  rw [EventWiki.Script.statements_eq, withoutComment_eq_self settled.uncommented,
    statementsOf_eq_textsOf, cut_into.cut_eq, List.map_singleton, textsOf_singleton,
    map_char_glyphs, settled.trimmed, if_neg settled.filled]

theorem glyphs_of_mem_statements {line statement : List Char}
    (member : statement ∈ statements line) :
    Whole (glyphs false statement) ∧ glyphs false statement ⊆ withoutComment line := by
  obtain ⟨texts, cut_into⟩ := exists_cutInto (codeOf line)
  obtain ⟨text, text_member, rfl, _⟩ := cut_into.exists_of_mem_statements member
  obtain ⟨lead, tail, read⟩ := exists_glyphs_trim text
  have whole := cut_into.whole text text_member
  have inside := cut_into.glyphs_subset text_member
  rw [read] at whole inside
  rw [glyphs_codeOf] at inside
  exact ⟨whole.right.left, fun glyph kept => inside (by simp [kept])⟩

theorem settled_of_mem_statements {line statement : List Char} (single : '\n' ∉ line)
    (member : statement ∈ statements line) : Settled statement where
  filled := by
    obtain ⟨texts, cut_into⟩ := exists_cutInto (codeOf line)
    obtain ⟨_, _, _, filled⟩ := cut_into.exists_of_mem_statements member
    exact filled
  trimmed := trim_of_mem_statements member
  single := by
    intro line_break
    have inside : glyphs false statement ⊆ glyphs false line :=
      List.Subset.trans (glyphs_of_mem_statements member).2 (List.takeWhile_sublist _).subset
    have chars := List.map_subset Glyph.char inside
    rw [map_char_glyphs, map_char_glyphs] at chars
    exact single (chars line_break)
  uncommented := by
    rw [uncommented_iff]
    intro glyph inside
    simpa using List.mem_takeWhile_imp ((glyphs_of_mem_statements member).2 inside)
  whole := (glyphs_of_mem_statements member).1

theorem Settled.isBrace_last {line : List Char} (settled : Settled line)
    (takes : takesBrace line = true) :
    ∀ glyph ∈ (glyphs false line).getLast?, glyph.isBrace = false := by
  simp only [takesBrace, Bool.and_eq_true, bne_iff_ne] at takes
  have chars := map_char_glyphs false line
  cases settled.whole.shape with
  | closing line_eq =>
      rw [line_eq] at chars
      exact absurd chars.symm takes.2
  | opening front line_eq =>
      rw [line_eq, List.map_append, List.map_singleton] at chars
      refine absurd ?_ takes.1
      rw [← chars]
      exact List.getLast?_concat
  | plain no_brace =>
      intro glyph last
      exact no_brace glyph (List.mem_of_mem_getLast? last)

theorem Settled.join {line : List Char} (settled : Settled line)
    (takes : takesBrace line = true) : Settled (line ++ [' ', '{']) := by
  -- A line may leave a quotation open: then the brace joins the quoted text, and is no mark.
  have first : ∀ c ∈ (line ++ [' ', '{']).head?, Text.isBlank c = false := by
    rw [List.head?_append_of_ne_nil line settled.filled, ← settled.trimmed]
    exact Text.isBlank_of_mem_head?_trim
  have added : glyphs false (line ++ [' ', '{']) = glyphs false line ++
      [⟨' ', quotedAfter false line⟩, ⟨'{', quotedAfter false line⟩] :=
    glyphs_append false line [' ', '{']
  refine ⟨by simp, Text.trim_eq_self first ?_, by simp [settled.single], ?_, ?_⟩
  · rw [List.getLast?_append_of_ne_nil _ (List.cons_ne_nil _ _)]
    rintro _ ⟨⟩
    decide
  · rw [uncommented_iff, added, List.forall_mem_append]
    refine ⟨uncommented_iff.mp settled.uncommented, ?_⟩
    cases quotedAfter false line <;> decide
  · rw [added]
    have stops : Stops [⟨' ', quotedAfter false line⟩, ⟨'{', quotedAfter false line⟩] := by
      apply stops_of_forall
      cases quotedAfter false line <;> decide
    refine settled.whole.append ?_ stops fun glyph last => ?_
    · cases quotedAfter false line <;> exact ⟨fun _ => by decide, by simp [Whole]⟩
    · rw [endsBefore_of_stops glyph stops (by simp [Glyph.isMark])]
      exact settled.isBrace_last takes glyph last

theorem flatMap_statements_of_settled {lines : List (List Char)}
    (settled : ∀ line ∈ lines, Settled line) : lines.flatMap statements = lines := by
  induction lines with
  | nil => rfl
  | cons line lines ih =>
      rw [List.forall_mem_cons] at settled
      rw [List.flatMap_cons, settled.1.statements_eq, ih settled.2, List.singleton_append]

/-- Statement lines are their own statement lines. -/
theorem normalize_idempotent (source : String) :
    normalize ("\n".intercalate (normalize source)) = normalize source := by
  let lines := joinBraces ((Text.lines source.toList).flatMap statements)
  have settled : ∀ line ∈ lines, Settled line := by
    refine forall_mem_joinBraces (fun statement member => ?_) fun _ => Settled.join
    obtain ⟨line, line_member, member⟩ := List.mem_flatMap.mp member
    exact settled_of_mem_statements (Text.not_mem_of_mem_lines line_member) member
  have read : Text.lines ("\n".intercalate (normalize source)).toList = lines := by
    have toList_lines : (lines.map String.ofList).map String.toList = lines := by
      simp
    rw [normalize, String.toList_intercalate, toList_lines]
    refine Text.lines_intercalate (fun line member => ⟨(settled line member).filled, ?_⟩)
      fun line member => (settled line member).single
    intro ends
    rw [← (settled line member).trimmed] at ends
    exact absurd (Text.isBlank_of_mem_getLast?_trim '\r' ends) (by decide)
  rw [normalize, read, flatMap_statements_of_settled settled, joinBraces_joinBraces]
  rfl

end EventWiki.Script
