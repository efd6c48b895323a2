import EventWiki.Proofs.PlainText
import EventWiki.Proofs.TemplateText

namespace EventWiki

namespace Text

theorem contains_iff_infix {pattern cs : List Char} :
    contains pattern cs = true ↔ pattern <:+: cs := by
  rw [contains]
  induction cs with
  | nil => cases pattern <;> simp [cutAtFirst?]
  | cons c rest ih =>
      rw [cutAtFirst?, List.infix_cons_iff]
      cases found : pattern.isPrefixOf? (c :: rest) with
      | some behind =>
          have starts := List.isPrefixOf?_eq_some_iff_append_eq.mp found
          simp only [Option.isSome_some, true_iff]
          exact .inl ⟨behind, starts⟩
      | none =>
          have no_start : ¬pattern <+: c :: rest := by
            rintro ⟨behind, starts⟩
            rw [List.isPrefixOf?_eq_some_iff_append_eq.mpr starts] at found
            contradiction
          simp only [Option.isSome_map, ih, no_start, false_or]

theorem infix_append_iff_of_not_mem {first : Char} {front : List Char} (absent : first ∉ front)
    (pattern rest : List Char) :
    first :: pattern <:+: front ++ rest ↔ first :: pattern <:+: rest := by
  induction front with
  | nil => rfl
  | cons c front ih =>
      rw [List.mem_cons, not_or] at absent
      rw [List.cons_append, List.infix_cons_iff, ih absent.2, List.cons_prefix_cons]
      simp [absent.1]

theorem getLast?_trimEnd_append (left right : List Char) :
    (trimEnd (left ++ right)).getLast? = (trimEnd right).getLast?.or (trimEnd left).getLast? := by
  simp only [trimEnd, dropEndWhile, List.getLast?_reverse, List.reverse_append,
    List.dropWhile_append]
  cases right.reverse.dropWhile isBlank <;> simp

theorem getLast?_trimEnd_append_cons {c : Char} (visible : isBlank c = false)
    (front rest : List Char) :
    (trimEnd (front ++ c :: rest)).getLast? = (trimEnd rest).getLast?.or (some c) := by
  have last : (trimEnd [c]).getLast? = some c := by simp [trimEnd, dropEndWhile, visible]
  rw [List.append_cons, getLast?_trimEnd_append, getLast?_trimEnd_append front, last]
  simp

end Text

namespace Template

/-- How the units at the beginning of a text give segments. -/
inductive ReadAs : List Char → List Segment → Prop where
  | nil : ReadAs [] []
  | percent {rest : List Char} {segments : List Segment} (read : ReadAs rest segments) :
      ReadAs ('%' :: '%' :: rest) (addChar '%' segments)
  | next {rest : List Char} {segments : List Segment} (read : ReadAs rest segments) :
      ReadAs ('%' :: 's' :: rest) (.value none :: segments)
  | numbered {digits rest : List Char} {segments : List Segment} (filled : digits ≠ [])
      (are_digits : ∀ c ∈ digits, c.isDigit = true) (index : Nat) (read : ReadAs rest segments) :
      ReadAs ('%' :: (digits ++ '$' :: 's' :: rest)) (.value (some index) :: segments)
  | operator {rest : List Char} {segments : List Segment} (read : ReadAs rest segments) :
      ReadAs (operatorMarker.toList ++ rest) (.operator :: segments)
  | plain {c : Char} {rest : List Char} {segments : List Segment} (other : c ≠ '%')
      (unmarked : ¬operatorMarker.toList <+: c :: rest) (read : ReadAs rest segments) :
      ReadAs (c :: rest) (addChar c segments)

variable {cs : List Char} {segments : List Segment}

theorem readAs_of_segments? (read : segments? cs = .ok segments) : ReadAs cs segments := by
  fun_induction segments? cs generalizing segments with
  | case1 =>
      obtain rfl := Except.ok.inj read
      exact .nil
  | case2 rest ih =>
      obtain ⟨inner, inner_read, rfl⟩ := map_eq_ok read
      exact .percent (ih inner_read)
  | case3 rest ih =>
      obtain ⟨inner, inner_read, rfl⟩ := map_eq_ok read
      exact .next (ih inner_read)
  | case4 rest no_escape no_next missing => simp at read
  | case5 rest no_escape no_next digits behind found index number ih =>
      obtain ⟨inner, inner_read, rfl⟩ := map_eq_ok read
      obtain ⟨rfl, filled, are_digits⟩ := slot?_eq_some_iff.mp found
      exact .numbered filled are_digits index (ih inner_read)
  | case6 rest no_escape no_next digits behind found missing => simp at read
  | case7 c rest no_escape no_next no_slot behind found ih =>
      obtain ⟨inner, inner_read, rfl⟩ := map_eq_ok read
      rw [← List.isPrefixOf?_eq_some_iff_append_eq.mp found]
      exact .operator (ih inner_read)
  | case8 c rest no_escape no_next no_slot missing ih =>
      obtain ⟨inner, inner_read, rfl⟩ := map_eq_ok read
      refine .plain ?_ ?_ (ih inner_read)
      · rintro rfl
        exact no_slot rfl
      · rintro ⟨behind, starts⟩
        rw [List.isPrefixOf?_eq_some_iff_append_eq.mpr starts] at missing
        contradiction

theorem operator_mem_addChar {c : Char} :
    .operator ∈ addChar c segments ↔ .operator ∈ segments := by
  match segments with
  | .literal text :: rest => simp [addChar]
  | [] | .value _ :: _ | .operator :: _ => simp [addChar]

def ShowsPercent (segments : List Segment) : Prop :=
  ∃ text, .literal text ∈ segments ∧ '%' ∈ text.toList

theorem showsPercent_addChar {c : Char} :
    ShowsPercent (addChar c segments) ↔ c = '%' ∨ ShowsPercent segments := by
  match segments with
  | .literal text :: rest => simp [ShowsPercent, addChar, or_assoc, eq_comm]
  | [] | .value _ :: _ | .operator :: _ => simp [ShowsPercent, addChar, eq_comm]

theorem exists_addChar (c : Char) (segments : List Segment) :
    ∃ text rest, addChar c segments = .literal text :: rest := by
  match segments with
  | .literal text :: rest => exact ⟨_, _, rfl⟩
  | [] | .value _ :: _ | .operator :: _ => exact ⟨_, _, rfl⟩

theorem not_mem_slot {c : Char} {digits : List Char}
    (are_digits : ∀ c ∈ digits, c.isDigit = true) (no_digit : c.isDigit = false)
    (other : c ∉ ['$', 's']) : c ∉ digits ++ ['$', 's'] := by
  rw [List.mem_append, not_or]
  exact ⟨fun member => by simp [are_digits c member] at no_digit, other⟩

theorem exists_cons_of_digits {digits : List Char} (filled : digits ≠ [])
    (are_digits : ∀ c ∈ digits, c.isDigit = true) :
    ∃ first front, digits = first :: front ∧ '%' ≠ first := by
  obtain ⟨first, front, rfl⟩ := List.exists_cons_of_ne_nil filled
  refine ⟨first, front, rfl, ?_⟩
  rintro rfl
  simpa using are_digits '%' (by simp)

theorem operatorMarker_infix_append (front : List Char) (absent : '[' ∉ front)
    (rest : List Char) :
    operatorMarker.toList <:+: front ++ rest ↔ operatorMarker.toList <:+: rest := by
  rw [toList_operatorMarker]
  exact Text.infix_append_iff_of_not_mem absent _ rest

namespace ReadAs

theorem operator_mem_iff (read : ReadAs cs segments) :
    .operator ∈ segments ↔ operatorMarker.toList <:+: cs := by
  induction read with
  | nil => simp [toList_operatorMarker]
  | percent read ih =>
      rw [operator_mem_addChar, ih]
      exact (operatorMarker_infix_append ['%', '%'] (by simp) _).symm
  | next read ih =>
      rw [List.mem_cons, ih]
      simpa using (operatorMarker_infix_append ['%', 's'] (by simp) _).symm
  | @numbered digits rest segments filled are_digits index read ih =>
      have absent : '[' ∉ '%' :: (digits ++ ['$', 's']) := by
        simpa using not_mem_slot are_digits (c := '[') (by decide) (by simp)
      rw [List.mem_cons, ih]
      simpa using (operatorMarker_infix_append _ absent rest).symm
  | @operator rest segments read ih =>
      simpa using (List.prefix_append operatorMarker.toList rest).isInfix
  | plain other unmarked read ih =>
      rw [operator_mem_addChar, ih, List.infix_cons_iff]
      simp [unmarked]

theorem showsPercent_iff (read : ReadAs cs segments) :
    ShowsPercent segments ↔ ['%', '%'] <:+: cs := by
  induction read with
  | nil => simp [ShowsPercent]
  | percent read ih => simp [showsPercent_addChar, List.infix_cons_iff]
  | next read ih => simpa [ShowsPercent, List.infix_cons_iff] using ih
  | @numbered digits rest segments filled are_digits index read ih =>
      obtain ⟨first, front, rfl, other⟩ := exists_cons_of_digits filled are_digits
      have absent := not_mem_slot are_digits (c := '%') (by decide) (by simp)
      have behind := Text.infix_append_iff_of_not_mem absent ['%'] rest
      rw [List.infix_cons_iff, List.cons_prefix_cons, List.cons_append, List.cons_prefix_cons]
      simpa [other, ShowsPercent] using ih.trans behind.symm
  | operator read ih =>
      rw [Text.infix_append_iff_of_not_mem (by simp [toList_operatorMarker])]
      simpa [ShowsPercent] using ih
  | plain other unmarked read ih =>
      rw [showsPercent_addChar, ih, List.infix_cons_iff, List.cons_prefix_cons]
      simp [other, other.symm]

theorem head?_iff (read : ReadAs cs segments) :
    (∃ index, segments.head? = some (.value index)) ↔ ['%'] <+: cs ∧ ¬['%', '%'] <+: cs := by
  cases read with
  | nil => simp
  | percent read =>
      obtain ⟨text, rest, added⟩ := exists_addChar '%' ‹List Segment›
      simp [added]
  | next read => simp
  | @numbered digits rest segments filled are_digits index read =>
      obtain ⟨first, front, rfl, other⟩ := exists_cons_of_digits filled are_digits
      simp [other]
  | operator read => simp [toList_operatorMarker]
  | plain other unmarked read =>
      obtain ⟨text, rest, added⟩ := exists_addChar ‹Char› ‹List Segment›
      simp [added, other.symm]

end ReadAs

/-- The last visible character that a segment has in the text. -/
def shownEnd? : Segment → Option Char
  | .literal text => (Text.trimEnd text.toList).getLast?
  | .value _ => some 's'
  | .operator => some ']'

def shownEndOf? (segments : List Segment) : Option Char :=
  segments.foldr (fun segment later => later.or (shownEnd? segment)) none

theorem shownEndOf?_addChar (c : Char) :
    shownEndOf? (addChar c segments) =
      (shownEndOf? segments).or (Text.trimEnd [c]).getLast? := by
  match segments with
  | .literal text :: rest =>
      simp [shownEndOf?, addChar, shownEnd?, Option.or_assoc,
        ← Text.getLast?_trimEnd_append [c] text.toList]
  | [] | .value _ :: _ | .operator :: _ => simp [shownEndOf?, addChar, shownEnd?]

theorem ReadAs.shownEndOf?_eq (read : ReadAs cs segments) :
    (Text.trimEnd cs).getLast? = shownEndOf? segments := by
  induction read with
  | nil => rfl
  | @percent rest segments read ih =>
      rw [shownEndOf?_addChar, ← ih]
      exact Text.getLast?_trimEnd_append_cons (c := '%') (by decide) ['%'] rest
  | @next rest segments read ih =>
      refine (Text.getLast?_trimEnd_append_cons (c := 's') (by decide) ['%'] rest).trans ?_
      rw [ih]
      rfl
  | @numbered digits rest segments filled are_digits index read ih =>
      have ended := Text.getLast?_trimEnd_append_cons (c := 's') (by decide)
        ('%' :: (digits ++ ['$'])) rest
      rw [List.cons_append, List.append_assoc] at ended
      refine ended.trans ?_
      rw [ih]
      rfl
  | @operator rest segments read ih =>
      have marker_eq : operatorMarker.toList = "[OPERATOR".toList ++ [']'] := by decide
      rw [marker_eq, List.append_assoc]
      refine (Text.getLast?_trimEnd_append_cons (c := ']') (by decide) _ rest).trans ?_
      rw [ih]
      rfl
  | plain other unmarked read ih =>
      rw [shownEndOf?_addChar, ← ih, ← Text.getLast?_trimEnd_append]
      rfl

def Apart (segments : List Segment) : Prop :=
  segments.IsChain fun left right => ¬(isLiteral left = true ∧ isLiteral right = true)

theorem Apart.cons_slot {segment : Segment} (apart : Apart segments)
    (slot : isLiteral segment = false) : Apart (segment :: segments) := by
  rw [Apart, List.isChain_cons]
  exact ⟨by simp [slot], apart⟩

theorem Apart.addChar (c : Char) (apart : Apart segments) : Apart (addChar c segments) := by
  match segments with
  | .literal text :: rest => simpa [Template.addChar, Apart, List.isChain_cons, isLiteral] using apart
  | [] => simp [Template.addChar, Apart]
  | .value _ :: _ | .operator :: _ =>
      rw [Template.addChar, Apart, List.isChain_cons_cons]
      · exact ⟨by simp [isLiteral], apart⟩
      · simp

theorem ReadAs.apart (read : ReadAs cs segments) : Apart segments := by
  induction read with
  | nil => exact List.IsChain.nil
  | percent read ih | plain other unmarked read ih => exact ih.addChar _
  | next read ih | numbered filled are_digits index read ih | operator read ih =>
      exact ih.cons_slot rfl

theorem isLiteral_of_shownEnd? {segment : Segment} (hidden : shownEnd? segment = none) :
    isLiteral segment = true := by
  cases segment with
  | literal text => rfl
  | value index | operator => contradiction

theorem shownEndOf?_eq_colon_iff (apart : Apart segments) :
    shownEndOf? segments = some ':' ↔
      ∃ text, segments.getLast? = some (.literal text) ∧
        (Text.trimEnd text.toList).getLast? = some ':' := by
  induction segments with
  | nil => simp [shownEndOf?]
  | cons segment rest ih =>
      have step : shownEndOf? (segment :: rest) = (shownEndOf? rest).or (shownEnd? segment) := rfl
      rw [step]
      cases rest with
      | nil => cases segment <;> simp [shownEndOf?, shownEnd?]
      | cons other rest =>
          obtain ⟨neighbours, apart⟩ := List.isChain_cons_cons.mp apart
          rw [List.getLast?_cons_cons, ← ih apart]
          cases later : shownEndOf? (other :: rest) with
          | some c => simp
          | none =>
              -- What is behind the segment is a blank literal, so the segment itself is a slot.
              have blank : shownEnd? other = none := (Option.or_eq_none_iff.mp later).2
              cases segment with
              | literal text => exact absurd ⟨rfl, isLiteral_of_shownEnd? blank⟩ neighbours
              | value index | operator => simp [shownEnd?]

theorem isSectionHeader_iff {source : String} {template : Template}
    (read : Template.read source = .ok template) :
    template.isSectionHeader = true ↔
      ∃ text, template.segments.getLast? = some (.literal text) ∧
        (Text.trimEnd text.toList).getLast? = some ':' := by
  obtain ⟨source_eq, segments_read⟩ := read_eq_ok_iff.mp read
  have units := readAs_of_segments? segments_read
  rw [isSectionHeader, beq_iff_eq, source_eq, units.shownEndOf?_eq]
  exact shownEndOf?_eq_colon_iff units.apart

/-- What the text of a template says of its operator, of its percent signs, of its beginning and of
its end is what its segments say of them. -/
theorem read_views {source : String} {template : Template}
    (read : Template.read source = .ok template) :
    (template.hasOperator = true ↔ operatorMarker.toList <:+: source.toList) ∧
    (template.hasPercent = true ↔ ∃ text, .literal text ∈ template.segments ∧ '%' ∈ text.toList) ∧
    (template.startsWithValue = true ↔
      ['%'] <+: source.toList ∧ ¬percentMarker.toList <+: source.toList) ∧
    (template.isSectionHeader = true ↔
      ∃ text, template.segments.getLast? = some (.literal text) ∧
        (Text.trimEnd text.toList).getLast? = some ':') := by
  obtain ⟨source_eq, segments_read⟩ := read_eq_ok_iff.mp read
  have units := readAs_of_segments? segments_read
  have percent_eq : percentMarker.toList = ['%', '%'] := by decide
  refine ⟨?_, ?_, ?_, isSectionHeader_iff read⟩
  · rw [hasOperator, List.contains_iff_mem, units.operator_mem_iff]
  · rw [hasPercent, Text.contains_iff_infix, source_eq, percent_eq]
    exact units.showsPercent_iff.symm
  · rw [percent_eq, ← units.head?_iff, startsWithValue]
    match template.segments with
    | .value index :: rest => simp
    | [] | .literal _ :: _ | .operator :: _ => simp

def shareTemplate : Template where
  source := "%s%% [[OPERATOR]%2$s: "
  segments := [.value none, .literal "% [", .operator, .value (some 1), .literal ": "]

theorem read_views_of_shareTemplate :
    Template.read shareTemplate.source = .ok shareTemplate ∧
      operatorMarker.toList <:+: shareTemplate.source.toList ∧
      shareTemplate.hasPercent = true ∧ shareTemplate.startsWithValue = true ∧
      shareTemplate.isSectionHeader = true := by
  have read : Template.read shareTemplate.source = .ok shareTemplate := by decide +kernel
  obtain ⟨operator_iff, percent_iff, value_iff, header_iff⟩ := read_views read
  refine ⟨read, operator_iff.mp (by decide), percent_iff.mpr ?_, value_iff.mpr (by decide),
    header_iff.mpr ?_⟩
  · exact ⟨"% [", by decide, by decide⟩
  · exact ⟨": ", by decide, by decide⟩

end Template

end EventWiki
