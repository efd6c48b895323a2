import EventWiki.Proofs.TokenCut
import EventWiki.Proofs.WrittenCut

namespace EventWiki.Script

structure IsPiece (cs : List Char) : Prop where
  nonempty : cs ≠ []
  closed : quotedAfter false cs = false
  no_comment : ∀ glyph ∈ glyphs false cs, glyph.isMark '#' = false
  no_break : '\n' ∉ cs

theorem isPiece_of_plain {cs : List Char} (nonempty : cs ≠ []) (no_quote : '"' ∉ cs)
    (no_comment : '#' ∉ cs) (no_break : '\n' ∉ cs) : IsPiece cs where
  nonempty := nonempty
  closed := quotedAfter_of_not_mem no_quote false
  no_comment := by
    rw [glyphs_of_not_mem no_quote]
    intro glyph member
    obtain ⟨c, charMember, rfl⟩ := List.mem_map.mp member
    apply isMark_eq_false_of_ne
    rintro rfl
    exact no_comment charMember
  no_break := no_break

theorem Key.isPiece (key : Key) : IsPiece key.chars :=
  isPiece_of_plain key.nonempty (key.not_mem (by decide))
    (key.not_mem (by decide)) (key.not_mem (by decide))

theorem Comparison.isPiece (comparison : Comparison) : IsPiece comparison.symbol := by
  cases comparison <;>
    exact isPiece_of_plain (by decide) (by decide) (by decide) (by decide)

theorem WrittenValue.isPiece (value : WrittenValue) : IsPiece value.chars := by
  cases value with
  | word key ends => exact key.isPiece
  | quoted text nonempty no_quote no_break trimmed =>
      have glyphs_eq := (WrittenValue.quoted text nonempty no_quote no_break trimmed).glyphs_eq
      refine ⟨by simp [chars], ?_, fun glyph member => ?_, by simp [chars, no_break]⟩
      · have behind : ∀ cs, '"' ∉ cs → quotedAfter true (cs ++ ['"']) = false := by
          intro cs absent
          induction cs with
          | nil => rfl
          | cons c rest ih =>
              rw [List.mem_cons, not_or] at absent
              simp [quotedAfter, Ne.symm absent.1, ih absent.2]
        exact behind text no_quote
      · rw [glyphs_eq] at member
        simp only [body, last, List.cons_append, List.mem_cons, List.mem_append, List.mem_map,
          List.not_mem_nil, or_false] at member
        rcases member with rfl | ⟨c, _, rfl⟩ | rfl
        · rfl
        · simp [Glyph.isMark]
        · rfl

mutual

theorem isPiece_of_mem_pieces (statement : Written) :
    ∀ piece ∈ statement.pieces, IsPiece piece := by
  cases statement with
  | leaf leaf =>
      simp only [Written.pieces, List.forall_mem_cons]
      exact ⟨leaf.key.isPiece, leaf.comparison.isPiece, leaf.value.isPiece, by simp⟩
  | block key body =>
      simp only [Written.pieces, List.forall_mem_cons, List.forall_mem_append]
      have single : ∀ c ∈ ['=', '{', '}'], IsPiece [c] := by
        intro c member
        simp only [List.mem_cons, List.not_mem_nil, or_false] at member
        rcases member with rfl | rfl | rfl <;>
          exact isPiece_of_plain (by decide) (by decide) (by decide) (by decide)
      exact ⟨key.isPiece, single '=' (by simp), single '{' (by simp),
        isPiece_of_mem_piecesOf body, single '}' (by simp), by simp⟩

theorem isPiece_of_mem_piecesOf (forest : List Written) :
    ∀ piece ∈ piecesOf forest, IsPiece piece := by
  cases forest with
  | nil => simp [piecesOf]
  | cons statement rest =>
      rw [piecesOf, List.forall_mem_append]
      exact ⟨isPiece_of_mem_pieces statement, isPiece_of_mem_piecesOf rest⟩

end

theorem glyphs_intercalate {piece : List Char} {pieces : List (List Char)}
    (are_pieces : ∀ other ∈ piece :: pieces, IsPiece other) :
    glyphs false ([' '].intercalate (piece :: pieces)) = glyphs false piece ++ spaced pieces := by
  induction pieces generalizing piece with
  | nil => simp [List.intercalate]
  | cons next pieces ih =>
      rw [List.forall_mem_cons] at are_pieces
      have shifted := ih are_pieces.2
      rw [List.intercalate_cons_cons, List.append_assoc, glyphs_append, are_pieces.1.closed,
        List.singleton_append, glyphs, if_neg (by decide), shifted, spaced_cons]
      rfl

theorem no_comment_or_break_of_mem_spaced {pieces : List (List Char)}
    (are_pieces : ∀ piece ∈ pieces, IsPiece piece) :
    ∀ glyph ∈ spaced pieces, glyph.isMark '#' = false ∧ glyph.char ≠ '\n' := by
  intro glyph member
  obtain ⟨piece, pieceMember, member⟩ := List.mem_flatMap.mp member
  obtain rfl | member := List.mem_cons.mp member
  · decide
  · have is_piece := are_pieces piece pieceMember
    refine ⟨is_piece.no_comment glyph member, ?_⟩
    rintro line_break
    apply is_piece.no_break
    rw [← line_break, ← map_char_glyphs false piece]
    exact List.mem_map_of_mem member

theorem statements_intercalate {piece : List Char} {pieces : List (List Char)}
    (are_pieces : ∀ other ∈ piece :: pieces, IsPiece other) :
    statements ([' '].intercalate (piece :: pieces)) = statementsOf (spaced (piece :: pieces)) := by
  have no_comment : ∀ glyph ∈ glyphs false piece ++ spaced pieces,
      (!glyph.isMark '#') = true := by
    intro glyph member
    have inside : glyph ∈ spaced (piece :: pieces) := by
      rw [spaced_cons]
      exact List.mem_cons_of_mem gap member
    simp [(no_comment_or_break_of_mem_spaced are_pieces glyph inside).1]
  rw [statements_eq, withoutComment, glyphs_intercalate are_pieces,
    List.takeWhile_eq_self_iff.mpr no_comment, spaced_cons,
    statementsOf_cons_of_blank isBlank_gap]

theorem not_mem_intercalate {pieces : List (List Char)}
    (are_pieces : ∀ piece ∈ pieces, IsPiece piece) : '\n' ∉ [' '].intercalate pieces := by
  cases pieces with
  | nil => exact List.not_mem_nil
  | cons piece pieces =>
      rw [← map_char_glyphs false ([' '].intercalate _), glyphs_intercalate are_pieces]
      intro member
      obtain ⟨glyph, inside, line_break⟩ := List.mem_map.mp member
      have shown : glyph ∈ spaced (piece :: pieces) := by
        rw [spaced_cons]
        exact List.mem_cons_of_mem gap inside
      exact (no_comment_or_break_of_mem_spaced are_pieces glyph shown).2 line_break

theorem flatMap_statements_intercalate {pieces : List (List Char)}
    (are_pieces : ∀ piece ∈ pieces, IsPiece piece) :
    (Text.lines ([' '].intercalate pieces)).flatMap statements = statementsOf (spaced pieces) := by
  cases pieces with
  | nil => rfl
  | cons piece pieces =>
      have nonempty : [' '].intercalate (piece :: pieces) ≠ [] := by
        have first := (are_pieces piece List.mem_cons_self).nonempty
        intro empty
        have chars := map_char_glyphs false ([' '].intercalate (piece :: pieces))
        rw [glyphs_intercalate are_pieces, List.map_append, map_char_glyphs, empty] at chars
        exact first (List.append_eq_nil_iff.mp chars).1
      rw [Text.lines_of_single nonempty (not_mem_intercalate are_pieces),
        List.flatMap_singleton, statements_intercalate are_pieces]

theorem joinBraces_of_not_mem {lines : List (List Char)} (absent : ['{'] ∉ lines) :
    joinBraces lines = lines := by
  induction lines using joinBraces.induct with
  | case1 line next rest joined ih =>
      simp only [Bool.and_eq_true, decide_eq_true_eq] at joined
      simp [joined.1] at absent
  | case2 line next rest apart ih =>
      rw [joinBraces, if_neg apart, ih fun member => absent (List.mem_cons_of_mem line member)]
  | case3 line => rfl
  | case4 => rfl

mutual

theorem not_mem_lines (statement : Written) : ['{'] ∉ statement.lines := by
  cases statement with
  | leaf leaf =>
      obtain ⟨c, cs, chars_eq, _⟩ := leaf.key.exists_head
      simp [Written.lines, WrittenLeaf.line, chars_eq]
  | block key body =>
      obtain ⟨c, cs, chars_eq, _⟩ := key.exists_head
      simp [Written.lines, Key.headerLine, chars_eq, not_mem_linesOf body]

theorem not_mem_linesOf (forest : List Written) : ['{'] ∉ linesOf forest := by
  cases forest with
  | nil => exact List.not_mem_nil
  | cons statement rest =>
      simp [linesOf, not_mem_lines statement, not_mem_linesOf rest]

end

theorem normalize_written (forest : List Written) :
    normalize (written forest) = (linesOf forest).map String.ofList := by
  have cut_forest := statementsOf_forest forest .nothing
  rw [List.append_nil, statementsOf_nil, List.append_nil] at cut_forest
  rw [normalize, written, String.toList_ofList,
    flatMap_statements_intercalate (isPiece_of_mem_piecesOf forest), cut_forest,
    joinBraces_of_not_mem (not_mem_linesOf forest)]

@[simp] theorem ofLine_closing : LineRole.ofLine (String.ofList ['}']) = .close := by
  decide

theorem ofLine_leaf (leaf : WrittenLeaf) :
    LineRole.ofLine (String.ofList leaf.line) = .leaf (String.ofList leaf.line) := by
  have last_quiet : ∀ mark, Glyph.endsValue ⟨mark, false⟩ = false →
      leaf.line.getLast? ≠ some mark := by
    intro mark no_value
    rw [leaf.getLast?_line]
    rintro same
    have value := leaf.value.endsValue_last
    have marked : leaf.value.last = ⟨mark, false⟩ := by
      cases last : leaf.value.last
      simp_all [Glyph.endsValue]
    rw [marked, no_value] at value
    contradiction
  have no_closing : leaf.line ≠ ['}'] := by
    intro same
    exact last_quiet '}' (by decide) (by rw [same]; rfl)
  simp only [LineRole.ofLine, String.toList_ofList, leaf.trim_line]
  rw [if_neg no_closing, if_neg (last_quiet '{' (by decide))]

def Key.headerText (key : Key) : List Char :=
  key.chars ++ [' ', '=', ' ']

theorem ofLine_header (key : Key) :
    LineRole.ofLine (String.ofList key.headerLine) = .header (String.ofList key.headerText) := by
  have split : key.headerLine = key.headerText ++ ['{'] := by
    simp [Key.headerLine, Key.headerText]
  have no_closing : key.headerLine ≠ ['}'] := by
    rw [split]
    intro same
    simpa using congrArg List.getLast? same
  simp only [LineRole.ofLine, String.toList_ofList, key.trim_headerLine]
  rw [if_neg no_closing, if_pos (by simp [split]), split, List.dropLast_concat]

theorem WrittenValue.mem_chars {value : WrittenValue} {c : Char} (member : c ∈ value.chars) :
    c = '"' ∨ c ∈ value.text := by
  cases value with
  | word key ends => exact .inr member
  | quoted text =>
      simp only [chars, List.cons_append, List.mem_cons, List.mem_append, List.not_mem_nil,
        or_false] at member
      rcases member with quote | inside | quote
      · exact .inl quote
      · exact .inr inside
      · exact .inl quote

/-- No sign in the text would be found before that of a comparison in front of it. -/
def Comparison.Precedes : Comparison → List Char → Prop
  | less, after => '=' ∉ after
  | more, after => '=' ∉ after ∧ '<' ∉ after
  | _, _ => True

structure Unsigned (cs : List Char) : Prop where
  no_equal : '=' ∉ cs
  no_less : '<' ∉ cs
  no_more : '>' ∉ cs

theorem Unsigned.comparison_equal {before : List Char} (unsigned : Unsigned before) :
    Token.comparison '=' before = (before, some .equal) := by
  rw [Token.comparison, if_pos rfl]
  split
  · next last => exact absurd (List.mem_of_getLast? last) unsigned.no_less
  · next last => exact absurd (List.mem_of_getLast? last) unsigned.no_more
  · rfl

theorem Comparison.cut?_eq (comparison : Comparison) {before after : List Char}
    (unsigned : Unsigned before) (precedes : comparison.Precedes after) : ∃ mark front,
    Token.cut? (before ++ (comparison.symbol ++ after)) = some (mark, front, after) ∧
      Token.comparison mark front = (before, some comparison.operator) := by
  obtain ⟨no_equal, no_less, no_more⟩ := unsigned
  -- the text up to the sign that is found first, and what stands behind that sign
  have parts : ∀ signs mark, comparison.symbol = signs ++ [mark] →
      before ++ (comparison.symbol ++ after) = (before ++ signs) ++ mark :: after := by
    intro signs mark symbol_eq
    simp [symbol_eq]
  cases comparison with
  | equal =>
      refine ⟨'=', before, ?_, Unsigned.comparison_equal ⟨no_equal, no_less, no_more⟩⟩
      exact Token.cut?_eq_some_iff.mpr ⟨rfl, no_equal, .inl rfl⟩
  | atMost =>
      refine ⟨'=', before ++ ['<'], ?_, by simp [Token.comparison, operator]⟩
      rw [parts ['<'] '=' rfl]
      exact Token.cut?_eq_some_iff.mpr ⟨rfl, by simp [no_equal], .inl rfl⟩
  | atLeast =>
      refine ⟨'=', before ++ ['>'], ?_, by simp [Token.comparison, operator]⟩
      rw [parts ['>'] '=' rfl]
      exact Token.cut?_eq_some_iff.mpr ⟨rfl, by simp [no_equal], .inl rfl⟩
  | less =>
      refine ⟨'<', before, ?_, rfl⟩
      have behind : '=' ∉ after := precedes
      exact Token.cut?_eq_some_iff.mpr
        ⟨rfl, no_less, .inr (.inl ⟨rfl, by simp [symbol, no_equal, behind]⟩)⟩
  | more =>
      refine ⟨'>', before, ?_, rfl⟩
      exact Token.cut?_eq_some_iff.mpr ⟨rfl, no_more,
        .inr (.inr ⟨rfl, by simp [symbol, no_equal, precedes.1],
          by simp [symbol, no_less, precedes.2]⟩)⟩

theorem WrittenValue.not_mem_chars {value : WrittenValue} {mark : Char} (no_quote : mark ≠ '"')
    (no_text : mark ∉ value.text) : mark ∉ value.chars := by
  intro member
  rcases value.mem_chars member with quote | inside
  · exact no_quote quote
  · exact no_text inside

theorem WrittenLeaf.precedes (leaf : WrittenLeaf) :
    leaf.comparison.Precedes (' ' :: leaf.value.chars) := by
  obtain ⟨key, comparison, value, admits⟩ := leaf
  have behind : ∀ mark, mark ≠ ' ' → mark ≠ '"' → mark ∉ value.text →
      mark ∉ ' ' :: value.chars := by
    intro mark no_space no_quote no_text
    simp [no_space, value.not_mem_chars no_quote no_text]
  cases comparison with
  | equal | atMost | atLeast => trivial
  | less => exact behind '=' (by decide) (by decide) admits
  | more =>
      exact ⟨behind '=' (by decide) (by decide) admits.1, behind '<' (by decide) (by decide) admits.2⟩

theorem Key.unsigned (key : Key) : Unsigned (key.chars ++ [' ']) := by
  have outside : ∀ mark, isKeyChar mark = false → mark ≠ ' ' → mark ∉ key.chars ++ [' '] := by
    intro mark no_key no_space
    simp [key.not_mem no_key, no_space]
  exact ⟨outside '=' (by decide) (by decide), outside '<' (by decide) (by decide),
    outside '>' (by decide) (by decide)⟩

theorem WrittenLeaf.cut?_line (leaf : WrittenLeaf) : ∃ mark before,
    Token.cut? leaf.line = some (mark, before, ' ' :: leaf.value.chars) ∧
      Token.comparison mark before =
        (leaf.key.chars ++ [' '], some leaf.comparison.operator) := by
  have split : leaf.line =
      (leaf.key.chars ++ [' ']) ++ (leaf.comparison.symbol ++ ' ' :: leaf.value.chars) := by
    simp [line]
  rw [split]
  exact leaf.comparison.cut?_eq leaf.key.unsigned leaf.precedes

theorem Key.kind?_eq (key : Key) :
    Token.kind? (key.chars ++ [' ']) = some (String.ofList key.chars) := by
  have no_brace : ∀ c ∈ key.chars, ¬(c = '{' ∨ c = '}') := by
    rintro c member (rfl | rfl)
    · exact key.not_mem (by decide) member
    · exact key.not_mem (by decide) member
  have trimmed : Text.trim (key.chars ++ [' ']) = key.chars := by
    rw [Text.trim_concat_of_blank (by decide), key.trim_chars]
  rw [Token.kind?, trimmed, if_neg]
  simpa [key.nonempty] using no_brace

theorem value?_of_unquoted {cs text : List Char} (unquoted : Text.unquoted (Text.trim cs) = text)
    (trimmed : Text.trim text = text) (nonempty : text ≠ []) :
    Token.value? cs = some (String.ofList text) := by
  rw [Token.value?, unquoted, trimmed, if_neg (by simpa using nonempty)]

theorem WrittenValue.value?_eq (value : WrittenValue) :
    Token.value? (' ' :: value.chars) = some (String.ofList value.text) := by
  have blank : Text.isBlank ' ' = true := by decide
  cases value with
  | word key ends =>
      refine value?_of_unquoted ?_ key.trim_chars key.nonempty
      rw [chars, Text.trim_cons_of_blank blank, key.trim_chars]
      exact Text.unquoted_of_not_mem (key.not_mem (by decide))
  | quoted text nonempty no_quote no_break trimmed =>
      refine value?_of_unquoted ?_ trimmed nonempty
      have quotes_stay : Text.trim ('"' :: text ++ ['"']) = '"' :: text ++ ['"'] := by
        apply Text.trim_eq_self
        · rintro _ ⟨⟩
          decide
        · rw [List.getLast?_concat]
          rintro _ ⟨⟩
          decide
      rw [chars, Text.trim_cons_of_blank blank, quotes_stay, List.cons_append,
        Text.unquoted_cons_quote, Text.unquoted_concat_quote, Text.unquoted_of_not_mem no_quote]
      rfl

theorem tokenOf?_leaf (leaf : WrittenLeaf) :
    tokenOf? (String.ofList leaf.line) = some leaf.token := by
  obtain ⟨mark, before, cut_line, comparison⟩ := leaf.cut?_line
  rw [tokenOf?, String.toList_ofList, leaf.trim_line, Token.ofStatement?, cut_line]
  simp only [comparison, leaf.key.kind?_eq, leaf.value.value?_eq, Option.map_some]
  rfl

theorem tokenOf?_header (key : Key) :
    tokenOf? (String.ofList key.headerText) = some key.headerToken := by
  have trimmed : Text.trim key.headerText = (key.chars ++ [' ']) ++ ['='] := by
    have split : key.headerText = ((key.chars ++ [' ']) ++ ['=']) ++ [' '] := by
      simp [Key.headerText]
    rw [split, Text.trim_concat_of_blank (by decide), List.append_assoc]
    apply key.trim_append
    rw [← List.append_assoc, List.getLast?_concat]
    rintro _ ⟨⟩
    decide
  have cut_text : Token.cut? (key.chars ++ [' '] ++ ['=']) = some ('=', key.chars ++ [' '], []) :=
    Token.cut?_eq_some_iff.mpr ⟨rfl, key.unsigned.no_equal, .inl rfl⟩
  rw [tokenOf?, String.toList_ofList, trimmed, Token.ofStatement?, cut_text]
  have no_value : Token.value? [] = none := by decide
  simp [Token.comparison, key.kind?_eq, no_value, Key.headerToken]

end EventWiki.Script
