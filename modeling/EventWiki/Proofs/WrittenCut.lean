import EventWiki.Proofs.WrittenScript

namespace EventWiki.Script

def plain (cs : List Char) : List Glyph :=
  cs.map fun c => ⟨c, false⟩

def gap : Glyph := ⟨' ', false⟩

/-- The glyphs of a value but for the last one, and the last one. -/
def WrittenValue.body : WrittenValue → List Glyph
  | .word key _ => plain key.chars.dropLast
  | .quoted text .. => ⟨'"', false⟩ :: text.map fun c => ⟨c, true⟩

def WrittenValue.last : WrittenValue → Glyph
  | .word key _ => ⟨key.chars.getLast key.nonempty, false⟩
  | .quoted .. => ⟨'"', false⟩

theorem WrittenValue.glyphs_eq (value : WrittenValue) :
    glyphs false value.chars = value.body ++ [value.last] := by
  cases value with
  | word key ends =>
      rw [chars, glyphs_of_not_mem (key.not_mem (by decide))]
      conv_lhs => rw [← List.dropLast_append_getLast key.nonempty]
      simp [body, last, plain]
  | quoted text nonempty no_quote no_break trimmed =>
      simp [chars, glyphs, glyphs_append, glyphs_of_not_mem no_quote, body, last]

theorem WrittenValue.endsValue_last (value : WrittenValue) : value.last.endsValue = true := by
  cases value with
  | word key ends =>
      have final := ends (key.chars.getLast key.nonempty) (List.getLast?_eq_some_getLast _)
      simp only [Bool.or_eq_true] at final
      rcases final with word | point
      · simp [last, Glyph.endsValue, word]
      · simp [last, Glyph.endsValue, point]
  | quoted => simp [last, Glyph.endsValue]

theorem isKey_of_isKeyChar {c : Char} (key : isKeyChar c = true) :
    Glyph.isKey ⟨c, false⟩ = true := by
  simpa [Glyph.isKey, isKeyChar] using key

theorem isMark_eq_false_of_ne {mark : Char} {glyph : Glyph} (other : glyph.char ≠ mark) :
    glyph.isMark mark = false := by
  simp [Glyph.isMark, other]

theorem startsStatement_of_head {rest : List Glyph}
    (no_gap : rest.head?.any Glyph.isGap = false) : startsStatement rest = false := by
  simp [startsStatement, no_gap]

theorem runsOn_plain {cs : List Char}
    (inner : ∀ c ∈ cs, Text.isBlank c = false ∧ c ≠ '{' ∧ c ≠ '}') {rest : List Glyph}
    (open_end : rest.head?.any (Glyph.isMark '}') = false)
    (no_statement : startsStatement rest = false) : RunsOn (plain cs) rest := by
  induction cs with
  | nil => trivial
  | cons c cs ih =>
      rw [List.forall_mem_cons] at inner
      refine ⟨?_, ih inner.2⟩
      apply endsBefore_eq_false
      · exact isMark_eq_false_of_ne inner.1.2.1
      · exact isMark_eq_false_of_ne inner.1.2.2
      · cases cs with
        | nil => exact open_end
        | cons d cs =>
            simpa [plain] using isMark_eq_false_of_ne (inner.2 d List.mem_cons_self).2.2
      · intro _
        cases cs with
        | nil => exact no_statement
        | cons d cs =>
            apply startsStatement_of_head
            simp [Glyph.isGap, (inner.2 d List.mem_cons_self).1]

theorem runsOn_key {cs : List Char} (key_chars : ∀ c ∈ cs, isKeyChar c = true)
    {rest : List Glyph} (open_end : rest.head?.any (Glyph.isMark '}') = false)
    (no_statement : startsStatement rest = false) : RunsOn (plain cs) rest := by
  have other : ∀ mark, isKeyChar mark = false → ∀ c ∈ cs, c ≠ mark := by
    rintro mark no_key c member rfl
    rw [key_chars c member] at no_key
    contradiction
  refine runsOn_plain (fun c member => ⟨isBlank_of_isKeyChar (key_chars c member), ?_, ?_⟩)
    open_end no_statement
  · exact other '{' (by decide) c member
  · exact other '}' (by decide) c member

theorem runsOn_of_not_endsValue {piece rest : List Glyph}
    (inner : ∀ glyph ∈ piece, glyph.endsValue = false ∧ glyph.isMark '{' = false ∧
      glyph.isMark '}' = false)
    (open_end : rest.head?.any (Glyph.isMark '}') = false) : RunsOn piece rest := by
  induction piece with
  | nil => trivial
  | cons glyph piece ih =>
      obtain ⟨no_value, no_opening, no_closing⟩ := inner glyph List.mem_cons_self
      refine ⟨endsBefore_eq_false no_opening no_closing ?_ (by simp [no_value]),
        ih fun other member => inner other (List.mem_cons_of_mem glyph member)⟩
      cases piece with
      | nil => exact open_end
      | cons other piece => simpa using (inner other (by simp)).2.2

theorem WrittenValue.runsOn_body (value : WrittenValue) (rest : List Glyph) :
    RunsOn value.body (value.last :: rest) := by
  cases value with
  | word key ends =>
      have last_key : isKeyChar (key.chars.getLast key.nonempty) = true :=
        key.key_chars _ (List.getLast_mem key.nonempty)
      apply runsOn_key fun c member => key.key_chars c (List.mem_of_mem_dropLast member)
      · have apart : key.chars.getLast key.nonempty ≠ '}' := by
          intro same
          rw [same] at last_key
          exact absurd last_key (by decide)
        simp [last, Glyph.isMark, apart]
      · apply startsStatement_of_head
        simp [last, Glyph.isGap, isBlank_of_isKeyChar last_key]
  | quoted text nonempty no_quote no_break trimmed =>
      refine ⟨endsBefore_eq_false (by decide) (by decide) ?_ fun _ => ?_, ?_⟩
      · cases text with
        | nil => contradiction
        | cons c text => simp [Glyph.isMark]
      · apply startsStatement_of_head
        cases text with
        | nil => contradiction
        | cons c text => simp [Glyph.isGap]
      · apply runsOn_of_not_endsValue
        · intro glyph member
          obtain ⟨c, _, rfl⟩ := List.mem_map.mp member
          simp [Glyph.endsValue, Glyph.isMark]
        · simp [last, Glyph.isMark]

theorem isMark_eq_false_of_endsValue {glyph : Glyph} (value : glyph.endsValue = true)
    {mark : Char} (no_value : Glyph.endsValue ⟨mark, false⟩ = false) :
    glyph.isMark mark = false := by
  rw [← Bool.not_eq_true]
  intro marked
  simp only [Glyph.isMark, Bool.and_eq_true, Bool.not_eq_true', beq_iff_eq] at marked
  obtain ⟨char, quoted⟩ := glyph
  simp only at marked
  rw [marked.1, marked.2, no_value] at value
  contradiction

theorem Key.glyphs_eq (key : Key) : glyphs false key.chars = plain key.chars :=
  glyphs_of_not_mem (key.not_mem (by decide)) false

theorem Key.quotedAfter_eq (key : Key) : quotedAfter false key.chars = false :=
  quotedAfter_of_not_mem (key.not_mem (by decide)) false

theorem Key.dropWhile_isKey (key : Key) (rest : List Glyph) :
    (plain key.chars ++ gap :: rest).dropWhile Glyph.isKey = gap :: rest := by
  have inside : ∀ glyph ∈ plain key.chars, glyph.isKey = true := by
    intro glyph member
    obtain ⟨c, charMember, rfl⟩ := List.mem_map.mp member
    exact isKey_of_isKeyChar (key.key_chars c charMember)
  rw [List.dropWhile_append_of_pos inside, List.dropWhile_cons_of_neg (by decide)]

theorem startsStatement_key (key : Key) {sign : Glyph} (comparison : sign.isComparison = true)
    (no_gap : sign.isGap = false) (rest : List Glyph) :
    startsStatement (gap :: (plain key.chars ++ gap :: sign :: rest)) = true := by
  have is_gap : gap.isGap = true := by decide
  have behind : (gap :: (plain key.chars ++ gap :: sign :: rest)).dropWhile Glyph.isGap =
      plain key.chars ++ gap :: sign :: rest := by
    rw [List.dropWhile_cons_of_pos is_gap]
    obtain ⟨c, cs, chars_eq, key_char⟩ := key.exists_head
    rw [chars_eq]
    exact List.dropWhile_cons_of_neg (by simp [Glyph.isGap, isBlank_of_isKeyChar key_char])
  have head_key : (plain key.chars ++ gap :: sign :: rest).head?.any Glyph.isKey = true := by
    obtain ⟨c, cs, chars_eq, key_char⟩ := key.exists_head
    rw [chars_eq]
    exact isKey_of_isKeyChar key_char
  rw [startsStatement, behind, startsComparison, head_key, key.dropWhile_isKey,
    List.dropWhile_cons_of_pos is_gap, List.dropWhile_cons_of_neg (by simp [no_gap])]
  simp [is_gap, comparison]

theorem startsStatement_gap_sign {sign : Glyph} (no_key : sign.isKey = false)
    (no_gap : sign.isGap = false) (rest : List Glyph) :
    startsStatement (gap :: sign :: rest) = false := by
  have is_gap : gap.isGap = true := by decide
  rw [startsStatement, List.dropWhile_cons_of_pos is_gap,
    List.dropWhile_cons_of_neg (by simp [no_gap]), startsComparison]
  simp [no_key]

theorem Comparison.exists_sign (comparison : Comparison) : ∃ sign rest,
    plain comparison.symbol = sign :: rest ∧ sign.isComparison = true ∧ sign.isGap = false ∧
      sign.isKey = false := by
  cases comparison <;> exact ⟨_, _, rfl, by decide, by decide, by decide⟩

theorem Comparison.quiet (comparison : Comparison) :
    ∀ glyph ∈ plain comparison.symbol, glyph.endsValue = false ∧ glyph.isMark '{' = false ∧
      glyph.isMark '}' = false := by
  cases comparison <;> decide

theorem Comparison.glyphs_eq (comparison : Comparison) :
    glyphs false comparison.symbol = plain comparison.symbol ∧
      quotedAfter false comparison.symbol = false := by
  cases comparison <;> decide

def WrittenLeaf.body (leaf : WrittenLeaf) : List Glyph :=
  plain leaf.key.chars ++ (gap :: plain leaf.comparison.symbol ++ [gap]) ++ leaf.value.body

theorem WrittenLeaf.glyphs_eq (leaf : WrittenLeaf) :
    glyphs false leaf.line = leaf.body ++ [leaf.value.last] := by
  obtain ⟨symbol_glyphs, symbol_closed⟩ := leaf.comparison.glyphs_eq
  rw [line, glyphs_append, leaf.key.glyphs_eq, leaf.key.quotedAfter_eq, glyphs, if_neg (by decide),
    glyphs_append, symbol_glyphs, symbol_closed, glyphs, if_neg (by decide),
    leaf.value.glyphs_eq]
  simp [body, gap]

theorem WrittenValue.head_not_closing (value : WrittenValue) (rest : List Glyph) :
    (value.body ++ value.last :: rest).head?.any (Glyph.isMark '}') = false := by
  have last_quiet : value.last.isMark '}' = false :=
    isMark_eq_false_of_endsValue value.endsValue_last (by decide)
  cases body : value.body with
  | nil => simpa using last_quiet
  | cons glyph glyphs =>
      have runs := value.runsOn_body rest
      rw [body] at runs
      have first := runs.1
      simp only [endsBefore, Bool.or_eq_false_iff] at first
      simpa using first.1.1.2

theorem WrittenLeaf.runsOn_body (leaf : WrittenLeaf) (rest : List Glyph) :
    RunsOn leaf.body (leaf.value.last :: rest) := by
  obtain ⟨sign, signs, symbol_eq, comparison, no_gap, no_key⟩ := leaf.comparison.exists_sign
  refine .append (.append ?_ ?_) (leaf.value.runsOn_body rest)
  · refine runsOn_key leaf.key.key_chars rfl ?_
    rw [symbol_eq]
    exact startsStatement_gap_sign no_key no_gap _
  · refine runsOn_of_not_endsValue ?_ (leaf.value.head_not_closing rest)
    have gap_quiet : gap.endsValue = false ∧ gap.isMark '{' = false ∧
        gap.isMark '}' = false := by
      decide
    intro glyph member
    simp only [List.cons_append, List.mem_cons, List.mem_append, List.not_mem_nil,
      or_false] at member
    rcases member with rfl | member | rfl
    · exact gap_quiet
    · exact leaf.comparison.quiet glyph member
    · exact gap_quiet

/-- What may stand behind a statement: nothing, a closing brace or another statement. -/
inductive MayFollow : List Glyph → Prop where
  | nothing : MayFollow []
  | closing (rest : List Glyph) : MayFollow (gap :: ⟨'}', false⟩ :: rest)
  | statement {rest : List Glyph} (starts : startsStatement rest = true) : MayFollow rest

theorem isBlank_gap : Text.isBlank gap.char = true := by decide

theorem isBlank_of_endsValue {glyph : Glyph} (value : glyph.endsValue = true) :
    Text.isBlank glyph.char = false := by
  simp only [Glyph.endsValue, Bool.and_eq_true, Bool.or_eq_true, beq_iff_eq] at value
  obtain ⟨_, (word | point) | quote⟩ := value
  · exact Text.isBlank_of_isWord word
  · rw [point]
    decide
  · rw [quote]
    decide

theorem WrittenLeaf.line_ne_nil (leaf : WrittenLeaf) : leaf.line ≠ [] := by
  simp [line]

theorem WrittenLeaf.map_char (leaf : WrittenLeaf) :
    (leaf.body ++ [leaf.value.last]).map Glyph.char = leaf.line := by
  rw [← leaf.glyphs_eq, map_char_glyphs]

theorem WrittenLeaf.getLast?_line (leaf : WrittenLeaf) :
    leaf.line.getLast? = some leaf.value.last.char := by
  rw [← leaf.map_char]
  simp

theorem WrittenLeaf.trim_line (leaf : WrittenLeaf) : Text.trim leaf.line = leaf.line := by
  apply leaf.key.trim_append
  rw [← line, leaf.getLast?_line]
  rintro _ ⟨⟩
  exact isBlank_of_endsValue leaf.value.endsValue_last

theorem statementsOf_leaf (leaf : WrittenLeaf) {after : List Glyph} (follow : MayFollow after) :
    statementsOf (glyphs false leaf.line ++ after) = leaf.line :: statementsOf after := by
  have last_value := leaf.value.endsValue_last
  have trimmed : Text.trim ((leaf.body ++ [leaf.value.last]).map Glyph.char) = leaf.line := by
    rw [leaf.map_char, leaf.trim_line]
  rw [leaf.glyphs_eq]
  cases follow with
  | nothing =>
      rw [List.append_nil]
      exact statementsOf_of_cut (cut_to_end (leaf.runsOn_body [])) trimmed leaf.line_ne_nil
  | closing rest =>
      -- the cut is made behind the blank, which belongs to the statement until it is trimmed
      have runs : RunsOn (leaf.body ++ [leaf.value.last]) (gap :: ⟨'}', false⟩ :: rest) := by
        refine .append (leaf.runsOn_body _) ⟨?_, trivial⟩
        apply endsBefore_eq_false
        · exact isMark_eq_false_of_endsValue last_value (by decide)
        · exact isMark_eq_false_of_endsValue last_value (by decide)
        · rfl
        · exact fun _ => startsStatement_gap_sign (by decide) (by decide) rest
      rw [statementsOf_cons_of_blank isBlank_gap]
      refine statementsOf_of_cut (cut_of_ends runs (by simp [endsBefore, Glyph.isMark])) ?_
        leaf.line_ne_nil
      rw [List.map_append, List.map_singleton, Text.trim_concat_of_blank isBlank_gap, trimmed]
  | statement starts =>
      -- the cut is made before the blank, which the next statement loses
      rw [List.append_assoc, List.singleton_append]
      refine statementsOf_of_cut (cut_of_ends (leaf.runsOn_body after) ?_) trimmed
        leaf.line_ne_nil
      simp [endsBefore, last_value, starts]

theorem Key.headerLine_ne_nil (key : Key) : key.headerLine ≠ [] := by
  simp [headerLine]

theorem Key.trim_headerLine (key : Key) : Text.trim key.headerLine = key.headerLine := by
  apply key.trim_append
  rw [List.getLast?_append_of_ne_nil _ (List.cons_ne_nil _ _)]
  rintro _ ⟨⟩
  decide

theorem Key.headerLine_glyphs (key : Key) :
    glyphs false key.headerLine =
      plain key.chars ++ plain [' ', '=', ' '] ++ [⟨'{', false⟩] := by
  rw [headerLine, glyphs_append, key.glyphs_eq, key.quotedAfter_eq]
  simp [glyphs, plain]

theorem statementsOf_header (key : Key) (after : List Glyph) :
    statementsOf (glyphs false key.headerLine ++ after) =
      key.headerLine :: statementsOf after := by
  have chars_eq : (plain key.chars ++ plain [' ', '=', ' '] ++ [Glyph.mk '{' false]).map
      Glyph.char = key.headerLine := by
    rw [← key.headerLine_glyphs, map_char_glyphs]
  have runs : RunsOn (plain key.chars ++ plain [' ', '=', ' ']) (⟨'{', false⟩ :: after) := by
    refine .append (runsOn_key key.key_chars rfl ?_) (runsOn_of_not_endsValue ?_ ?_)
    · exact startsStatement_gap_sign (by decide) (by decide) _
    · decide
    · simp [Glyph.isMark]
  rw [key.headerLine_glyphs, List.append_assoc, List.singleton_append]
  refine statementsOf_of_cut (cut_of_ends runs (by simp [endsBefore, Glyph.isMark])) ?_
    key.headerLine_ne_nil
  rw [chars_eq, key.trim_headerLine]

theorem statementsOf_closing (after : List Glyph) :
    statementsOf (⟨'}', false⟩ :: after) = ['}'] :: statementsOf after := by
  have cut_eq : cut (⟨'}', false⟩ :: after) = [⟨'}', false⟩] :: cut after := by
    rw [cut, if_pos (by simp [endsBefore, Glyph.isMark])]
  exact statementsOf_of_cut cut_eq (by decide) (List.cons_ne_nil _ _)

def spaced (pieces : List (List Char)) : List Glyph :=
  pieces.flatMap fun piece => gap :: glyphs false piece

@[simp] theorem spaced_nil : spaced [] = [] := rfl

@[simp] theorem spaced_cons (piece : List Char) (pieces : List (List Char)) :
    spaced (piece :: pieces) = gap :: (glyphs false piece ++ spaced pieces) := by
  simp [spaced]

@[simp] theorem spaced_append (left right : List (List Char)) :
    spaced (left ++ right) = spaced left ++ spaced right :=
  List.flatMap_append

theorem spaced_leaf (leaf : WrittenLeaf) :
    spaced (Written.leaf leaf).pieces = gap :: glyphs false leaf.line := by
  obtain ⟨symbol_glyphs, symbol_closed⟩ := leaf.comparison.glyphs_eq
  rw [WrittenLeaf.line, glyphs_append, leaf.key.quotedAfter_eq, glyphs, if_neg (by decide),
    glyphs_append, symbol_closed, glyphs, if_neg (by decide)]
  simp [Written.pieces, gap]

theorem spaced_block (key : Key) (body : List Written) :
    spaced (Written.block key body).pieces =
      gap :: (glyphs false key.headerLine ++ (spaced (piecesOf body) ++
        [gap, ⟨'}', false⟩])) := by
  rw [Key.headerLine, glyphs_append, key.quotedAfter_eq]
  simp [Written.pieces, gap, glyphs]

theorem mayFollow_statement (statement : Written) (rest : List Glyph) :
    MayFollow (spaced statement.pieces ++ rest) := by
  apply MayFollow.statement
  cases statement with
  | leaf leaf =>
      obtain ⟨symbol_glyphs, _⟩ := leaf.comparison.glyphs_eq
      obtain ⟨sign, signs, symbol_eq, comparison, no_gap, _⟩ := leaf.comparison.exists_sign
      simp only [Written.pieces, spaced_cons, leaf.key.glyphs_eq, symbol_glyphs, symbol_eq,
        List.cons_append, List.append_assoc]
      exact startsStatement_key leaf.key comparison no_gap _
  | block key body =>
      simp only [Written.pieces, spaced_cons, key.glyphs_eq, List.cons_append, List.append_assoc]
      exact startsStatement_key key (by decide) (by decide) _

theorem mayFollow_forest (forest : List Written) {after : List Glyph}
    (follow : MayFollow after) : MayFollow (spaced (piecesOf forest) ++ after) := by
  cases forest with
  | nil => exact follow
  | cons statement rest =>
      rw [piecesOf, spaced_append, List.append_assoc]
      exact mayFollow_statement statement _

mutual

theorem statementsOf_statement (statement : Written) {after : List Glyph}
    (follow : MayFollow after) :
    statementsOf (spaced statement.pieces ++ after) =
      statement.lines ++ statementsOf after := by
  cases statement with
  | leaf leaf =>
      rw [spaced_leaf, List.cons_append, statementsOf_cons_of_blank isBlank_gap,
        statementsOf_leaf leaf follow]
      rfl
  | block key body =>
      rw [spaced_block, List.cons_append, statementsOf_cons_of_blank isBlank_gap,
        List.append_assoc, statementsOf_header, List.append_assoc, List.cons_append,
        List.cons_append, List.nil_append, statementsOf_forest body (.closing after),
        statementsOf_cons_of_blank isBlank_gap, statementsOf_closing]
      simp [Written.lines]

theorem statementsOf_forest (forest : List Written) {after : List Glyph}
    (follow : MayFollow after) :
    statementsOf (spaced (piecesOf forest) ++ after) =
      linesOf forest ++ statementsOf after := by
  cases forest with
  | nil => rfl
  | cons statement rest =>
      rw [piecesOf, spaced_append, List.append_assoc,
        statementsOf_statement statement (mayFollow_forest rest follow),
        statementsOf_forest rest follow, linesOf, List.append_assoc]

end

end EventWiki.Script
