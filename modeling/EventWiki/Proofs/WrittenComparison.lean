import EventWiki.Proofs.LineBraces
import EventWiki.Proofs.NestedReading
import EventWiki.Proofs.SettledLines
import EventWiki.Proofs.StatementGaps
import EventWiki.Proofs.WrittenLines

namespace EventWiki.Script

/-- A character that means nothing to the layout of a script. -/
def isPlainChar (c : Char) : Bool :=
  !(Text.isBlank c || ['"', '#', '{', '}', '=', '<', '>'].contains c)

structure Word where
  chars : List Char
  nonempty : chars ≠ []
  plain_chars : ∀ c ∈ chars, isPlainChar c = true

structure Gap where
  chars : List Char
  blank : ∀ c ∈ chars, Text.isBlank c = true
  single : '\n' ∉ chars

structure Lead where
  key : Word
  before : Gap
  comparison : Comparison
  behind : Gap

structure ComparisonText where
  lead : Lead
  value : Word

def Lead.chars (lead : Lead) : List Char :=
  (lead.key.chars ++ lead.before.chars) ++ (lead.comparison.symbol ++ lead.behind.chars)

def ComparisonText.chars (text : ComparisonText) : List Char :=
  text.lead.chars ++ text.value.chars

def Lead.token (lead : Lead) (value : Option String) : Token :=
  .make (String.ofList lead.key.chars) (some lead.comparison.operator) value

def ComparisonText.token (text : ComparisonText) : Token :=
  text.lead.token (some (String.ofList text.value.chars))

namespace Word

variable (word : Word)

theorem not_mem {mark : Char} (no_plain : isPlainChar mark = false) : mark ∉ word.chars := by
  intro member
  rw [word.plain_chars mark member] at no_plain
  contradiction

theorem isBlank_eq_false : ∀ c ∈ word.chars, Text.isBlank c = false := by
  intro c member
  have plain := word.plain_chars c member
  simp only [isPlainChar, Bool.not_eq_true', Bool.or_eq_false_iff] at plain
  exact plain.1

theorem inner : ∀ c ∈ word.chars, Text.isBlank c = false ∧ c ≠ '{' ∧ c ≠ '}' := by
  intro c member
  refine ⟨word.isBlank_eq_false c member, ?_, ?_⟩
  · rintro rfl
    exact word.not_mem (by decide) member
  · rintro rfl
    exact word.not_mem (by decide) member

theorem trim_chars : Text.trim word.chars = word.chars :=
  Text.trim_of_visible word.isBlank_eq_false

theorem head_not_closing (rest : List Glyph) :
    (plain word.chars ++ rest).head?.any (Glyph.isMark '}') = false := by
  cases chars : word.chars with
  | nil => exact absurd chars word.nonempty
  | cons c cs =>
      have other := (word.inner c (by simp [chars])).2.2
      exact isMark_eq_false_of_ne other

end Word

theorem Gap.not_mem (gap : Gap) {mark : Char} (visible : Text.isBlank mark = false) :
    mark ∉ gap.chars := by
  intro member
  rw [gap.blank mark member] at visible
  contradiction

theorem startsStatement_gaps_sign {gaps : List Char}
    (blank : ∀ c ∈ gaps, Text.isBlank c = true) {sign : Glyph} (no_key : sign.isKey = false)
    (no_gap : sign.isGap = false) (rest : List Glyph) :
    startsStatement (plain gaps ++ sign :: rest) = false := by
  have all_gaps : ∀ glyph ∈ plain gaps, glyph.isGap = true := by
    intro glyph member
    obtain ⟨c, inside, rfl⟩ := List.mem_map.mp member
    simp [Glyph.isGap, blank c inside]
  rw [startsStatement, List.dropWhile_append_of_pos all_gaps,
    List.dropWhile_cons_of_neg (by simp [no_gap]), startsComparison]
  simp [no_key]

namespace Lead

variable (lead : Lead)

theorem not_mem {mark : Char} (no_plain : isPlainChar mark = false)
    (no_gap : Text.isBlank mark = false ∨ mark = '\n') (no_sign : mark ∉ ['=', '<', '>']) :
    mark ∉ lead.chars := by
  have apart : ∀ gap : Gap, mark ∉ gap.chars := by
    intro gap
    rcases no_gap with visible | rfl
    · exact gap.not_mem visible
    · exact gap.single
  have no_symbol : mark ∉ lead.comparison.symbol := by
    have signs : lead.comparison.symbol ⊆ ['=', '<', '>'] := by
      cases lead.comparison <;> decide
    exact fun member => no_sign (signs member)
  simp [chars, lead.key.not_mem no_plain, apart, no_symbol]

theorem glyphs_eq (rest : List Char) :
    glyphs false (lead.chars ++ rest) = plain lead.chars ++ glyphs false rest := by
  have no_quote : '"' ∉ lead.chars := lead.not_mem (by decide) (.inl (by decide)) (by decide)
  rw [glyphs_append, quotedAfter_of_not_mem no_quote, glyphs_of_not_mem no_quote]
  rfl

theorem runsOn {rest : List Glyph} (open_end : rest.head?.any (Glyph.isMark '}') = false) :
    RunsOn (plain lead.chars) rest := by
  obtain ⟨sign, signs, symbol_eq, _, no_gap, no_key⟩ := lead.comparison.exists_sign
  have split : plain lead.chars = plain lead.key.chars ++
      (plain lead.before.chars ++ (plain lead.comparison.symbol ++ plain lead.behind.chars)) := by
    simp [plain, chars]
  have gap_quiet : ∀ gap : Gap, ∀ glyph ∈ plain gap.chars, glyph.endsValue = false ∧
      glyph.isMark '{' = false ∧ glyph.isMark '}' = false := by
    intro gap glyph member
    obtain ⟨c, inside, rfl⟩ := List.mem_map.mp member
    refine ⟨?_, ?_, ?_⟩
    · rw [← Bool.not_eq_true]
      intro value
      have visible := isBlank_of_endsValue value
      rw [gap.blank c inside] at visible
      contradiction
    · exact isMark_eq_false_of_ne (ne_of_mem_of_not_mem inside (gap.not_mem (by decide)))
    · exact isMark_eq_false_of_ne (ne_of_mem_of_not_mem inside (gap.not_mem (by decide)))
  -- Behind the key nothing ends a value, so the line can only be cut in the key.
  have quiet : ∀ glyph ∈ plain lead.before.chars ++
      (plain lead.comparison.symbol ++ plain lead.behind.chars), glyph.endsValue = false ∧
        glyph.isMark '{' = false ∧ glyph.isMark '}' = false := by
    simp only [List.forall_mem_append]
    exact ⟨gap_quiet lead.before, lead.comparison.quiet, gap_quiet lead.behind⟩
  rw [split]
  refine .append (runsOn_plain lead.key.inner ?_ ?_) (runsOn_of_not_endsValue quiet open_end)
  · rw [List.head?_append_of_ne_nil _ (by simp [symbol_eq]), any_head?_eq_false_iff]
    exact fun glyph first => (quiet glyph (List.mem_of_mem_head? first)).2.2
  · rw [symbol_eq, List.append_assoc, List.cons_append, List.cons_append]
    exact startsStatement_gaps_sign lead.before.blank no_key no_gap _

theorem trim_append {rest : List Char} (filled : rest ≠ [])
    (last : ∀ c ∈ rest.getLast?, Text.isBlank c = false) :
    Text.trim (lead.chars ++ rest) = lead.chars ++ rest := by
  have whole_last : ∀ c ∈ (lead.chars ++ rest).getLast?, Text.isBlank c = false := by
    rwa [List.getLast?_append_of_ne_nil _ filled]
  simp only [chars, List.append_assoc] at whole_last ⊢
  exact Text.trim_append_of_visible lead.key.nonempty lead.key.isBlank_eq_false whole_last

theorem trim_chars : Text.trim lead.chars =
    (lead.key.chars ++ lead.before.chars) ++ lead.comparison.symbol := by
  rw [chars, ← List.append_assoc, Text.trim_append_of_blank lead.behind.blank, List.append_assoc]
  apply Text.trim_append_of_visible lead.key.nonempty lead.key.isBlank_eq_false
  rw [← List.append_assoc]
  cases lead.comparison <;> simp [Comparison.symbol] <;> decide

end Lead

theorem RunsOn.whole {left right : List Glyph} (runs : RunsOn left right) (whole : Whole right) :
    Whole (left ++ right) := by
  induction left with
  | nil => exact whole
  | cons glyph left ih => exact ⟨fun _ => runs.1, ih runs.2⟩

namespace Lead

variable (lead : Lead)

theorem settled {rest : List Char} (filled : rest ≠ []) (single : '\n' ∉ rest)
    (no_comment : '#' ∉ rest) (last : ∀ c ∈ rest.getLast?, Text.isBlank c = false)
    (open_end : (glyphs false rest).head?.any (Glyph.isMark '}') = false)
    (whole : Whole (glyphs false rest)) : Settled (lead.chars ++ rest) where
  filled := by simp [filled]
  trimmed := lead.trim_append filled last
  single := by
    have no_break : '\n' ∉ lead.chars := lead.not_mem (by decide) (.inr rfl) (by decide)
    simp [no_break, single]
  uncommented := by
    have no_sign : '#' ∉ lead.chars := lead.not_mem (by decide) (.inl (by decide)) (by decide)
    exact uncommented_of_not_mem (by simp [no_sign, no_comment])
  whole := by
    rw [lead.glyphs_eq]
    exact (lead.runsOn open_end).whole whole

theorem settled_header : Settled (lead.chars ++ ['{']) := by
  refine lead.settled (by decide) (by decide) (by decide) ?_ (by decide)
    ⟨fun filled => absurd rfl filled, trivial⟩
  rintro _ ⟨⟩
  decide

theorem codeLine : CodeLine lead.chars where
  single := lead.not_mem (by decide) (.inr rfl) (by decide)
  closed := closed_of_not_mem (lead.not_mem (by decide) (.inl (by decide)) (by decide))
  uncommented := uncommented_of_not_mem (lead.not_mem (by decide) (.inl (by decide)) (by decide))

theorem header_ne_brace : lead.chars ++ ['{'] ≠ ['{'] := by
  rw [ne_eq, List.append_left_eq_self, Lead.chars]
  simp [lead.key.nonempty]

theorem ofStatement?_eq {after : List Char} (precedes : lead.comparison.Precedes after) :
    Token.ofStatement?
        ((lead.key.chars ++ lead.before.chars) ++ (lead.comparison.symbol ++ after)) =
      some (lead.token (Token.value? after)) := by
  have outside : ∀ mark, isPlainChar mark = false → Text.isBlank mark = false →
      mark ∉ lead.key.chars ++ lead.before.chars := by
    intro mark no_plain visible
    simp [lead.key.not_mem no_plain, lead.before.not_mem visible]
  have unsigned : Unsigned (lead.key.chars ++ lead.before.chars) :=
    ⟨outside '=' (by decide) (by decide), outside '<' (by decide) (by decide),
      outside '>' (by decide) (by decide)⟩
  obtain ⟨mark, front, cut_text, comparison⟩ := lead.comparison.cut?_eq unsigned precedes
  have kind_eq : Token.kind? (lead.key.chars ++ lead.before.chars) =
      some (String.ofList lead.key.chars) := by
    rw [Token.kind?, Text.trim_append_of_blank lead.before.blank, lead.key.trim_chars, if_neg]
    · have no_brace : ∀ c ∈ lead.key.chars, ¬(c = '{' ∨ c = '}') :=
        fun c member => not_or.mpr (lead.key.inner c member).2
      simpa [lead.key.nonempty] using no_brace
  rw [Token.ofStatement?, cut_text]
  simp only [comparison, kind_eq, Option.map_some]
  rfl

theorem tokenOf?_header {text : List Char} (trimmed : Text.trim text = Text.trim lead.chars) :
    tokenOf? (String.ofList text) = some (lead.token none) := by
  have alone : lead.comparison.Precedes [] := by
    cases lead.comparison <;> simp [Comparison.Precedes]
  have read := lead.ofStatement?_eq alone
  rw [List.append_nil] at read
  rw [tokenOf?, String.toList_ofList, trimmed, lead.trim_chars, read]
  rfl

theorem step?_header (nest : Nest) :
    nest.step? (String.ofList (lead.chars ++ ['{'])) = some (nest.openBlock (lead.token none)) := by
  have role := ofLine_opening lead.chars
  simp only [Nest.step?, role, lead.tokenOf?_header (Text.trim_dropWhile lead.chars),
    Option.map_some]

end Lead

namespace ComparisonText

variable (text : ComparisonText)

theorem settled : Settled text.chars := by
  have no_quote : '"' ∉ text.value.chars := text.value.not_mem (by decide)
  have glyphs_eq : glyphs false text.value.chars = plain text.value.chars :=
    glyphs_of_not_mem no_quote false
  refine text.lead.settled text.value.nonempty (text.value.not_mem (by decide))
    (text.value.not_mem (by decide)) (fun c last => ?_) ?_ ?_
  · exact text.value.isBlank_eq_false c (List.mem_of_mem_getLast? last)
  · rw [glyphs_eq, ← List.append_nil (plain _)]
    exact text.value.head_not_closing []
  · have runs : RunsOn (plain text.value.chars) [] := runsOn_plain text.value.inner rfl rfl
    rw [glyphs_eq, ← List.append_nil (plain _)]
    exact runs.whole trivial

theorem codeLine : CodeLine text.chars where
  single := text.settled.single
  closed := (closed_append_iff text.lead.codeLine.closed).mpr
    (closed_of_not_mem (text.value.not_mem (by decide)))
  uncommented := text.settled.uncommented

theorem tokenOf?_chars : tokenOf? (String.ofList text.chars) = some text.token := by
  have outside : ∀ mark, isPlainChar mark = false → Text.isBlank mark = false →
      mark ∉ text.lead.behind.chars ++ text.value.chars := by
    intro mark no_plain visible
    simp [text.value.not_mem no_plain, text.lead.behind.not_mem visible]
  have no_equal := outside '=' (by decide) (by decide)
  have no_less := outside '<' (by decide) (by decide)
  have precedes : text.lead.comparison.Precedes (text.lead.behind.chars ++ text.value.chars) := by
    cases text.lead.comparison with
    | equal | atMost | atLeast => trivial
    | less => exact no_equal
    | more => exact ⟨no_equal, no_less⟩
  have value_eq : Token.value? (text.lead.behind.chars ++ text.value.chars) =
      some (String.ofList text.value.chars) := by
    refine value?_of_unquoted ?_ text.value.trim_chars text.value.nonempty
    rw [Text.trim_blank_append text.lead.behind.blank, text.value.trim_chars]
    exact Text.unquoted_of_not_mem (text.value.not_mem (by decide))
  have parts : text.chars = (text.lead.key.chars ++ text.lead.before.chars) ++
      (text.lead.comparison.symbol ++ (text.lead.behind.chars ++ text.value.chars)) := by
    simp [chars, Lead.chars]
  rw [tokenOf?, String.toList_ofList, text.settled.trimmed, parts,
    text.lead.ofStatement?_eq precedes, value_eq]
  rfl

theorem ofLine_chars :
    LineRole.ofLine (String.ofList text.chars) = .leaf (String.ofList text.chars) := by
  have no_brace : ∀ mark, isPlainChar mark = false → Text.isBlank mark = false →
      mark ∉ ['=', '<', '>'] → mark ∉ text.chars := by
    intro mark no_plain visible no_sign
    simp [chars, text.lead.not_mem no_plain (.inl visible) no_sign, text.value.not_mem no_plain]
  have no_opening := no_brace '{' (by decide) (by decide) (by decide)
  have no_closing := no_brace '}' (by decide) (by decide) (by decide)
  rw [LineRole.ofLine, String.toList_ofList, text.settled.trimmed]
  rw [if_neg fun alone => no_closing (by simp [alone]),
    if_neg fun last => no_opening (List.mem_of_getLast? last)]

theorem chars_ne_brace : text.chars ≠ ['{'] := by
  intro alone
  have role := text.ofLine_chars
  rw [alone] at role
  exact absurd role (by decide)

theorem step?_chars (nest : Nest) :
    nest.step? (String.ofList text.chars) = some (nest.add (.mk text.token [])) := by
  simp only [Nest.step?, text.ofLine_chars, text.tokenOf?_chars, Option.map_some]

end ComparisonText

end EventWiki.Script
