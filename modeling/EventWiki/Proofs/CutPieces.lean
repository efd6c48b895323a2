import EventWiki.Proofs.Quotation

namespace EventWiki.Script

/-! No piece of a cut line can be cut again, and what is added behind a line cuts it no further if
it neither completes a statement nor closes a block. -/

theorem Glyph.isBlank_of_isKey {glyph : Glyph} (key : glyph.isKey = true) :
    Text.isBlank glyph.char = false := by
  simp only [isKey, Bool.and_eq_true, Bool.or_eq_true, List.contains_iff_mem, List.mem_cons,
    List.not_mem_nil, or_false] at key
  rcases key.2 with word | same | same | same | same
  · exact Text.isBlank_of_isWord word
  all_goals
    rw [same]
    decide

theorem Glyph.isBlank_of_isComparison {glyph : Glyph} (comparison : glyph.isComparison = true) :
    Text.isBlank glyph.char = false := by
  simp only [isComparison, Bool.and_eq_true, List.contains_iff_mem, List.mem_cons,
    List.not_mem_nil, or_false] at comparison
  rcases comparison.2 with same | same | same
  all_goals
    rw [same]
    decide

/-- Behind any gap, the line goes on with neither a key nor a comparison. -/
def Stops (line : List Glyph) : Prop :=
  ∀ glyph ∈ (line.dropWhile Glyph.isGap).head?,
    glyph.isKey = false ∧ glyph.isComparison = false

theorem Stops.head_isKey {line : List Glyph} (stops : Stops line) :
    ∀ glyph ∈ line.head?, glyph.isKey = false := by
  cases line with
  | nil => simp
  | cons glyph line =>
      rintro _ ⟨⟩
      by_cases blank : glyph.isGap = true
      · rw [← Bool.not_eq_true]
        intro key
        simp [Glyph.isGap, Glyph.isBlank_of_isKey key] at blank
      · have first : glyph ∈ ((glyph :: line).dropWhile Glyph.isGap).head? := by
          rw [List.dropWhile_cons_of_neg blank]
          rfl
        exact (stops glyph first).1

theorem stops_of_forall {line : List Glyph}
    (quiet : ∀ glyph ∈ line, glyph.isKey = false ∧ glyph.isComparison = false) : Stops line :=
  fun glyph first => quiet glyph ((List.dropWhile_sublist _).subset (List.mem_of_mem_head? first))

theorem any_head?_eq_false_iff {line : List Glyph} {p : Glyph → Bool} :
    line.head?.any p = false ↔ ∀ glyph ∈ line.head?, p glyph = false := by
  cases line <;> simp

theorem head?_append_of_isEmpty {line : List Glyph} (filled : ¬line.isEmpty = true)
    (rest : List Glyph) : (line ++ rest).head? = line.head? := by
  cases line with
  | nil => simp at filled
  | cons glyph line => rfl

theorem startsComparison_append (line : List Glyph) {rest : List Glyph} (stops : Stops rest) :
    startsComparison (line ++ rest) = startsComparison line := by
  have no_comparison : (rest.dropWhile Glyph.isGap).head?.any Glyph.isComparison = false :=
    any_head?_eq_false_iff.mpr fun glyph first => (stops glyph first).2
  cases line with
  | nil => simp [startsComparison, any_head?_eq_false_iff.mpr stops.head_isKey]
  | cons glyph line =>
      rw [startsComparison, startsComparison, List.dropWhile_append]
      congr 1
      split
      · next all_keys =>
          rw [Text.dropWhile_eq_self stops.head_isKey, no_comparison,
            List.isEmpty_iff.mp all_keys]
          rfl
      · rw [List.dropWhile_append]
        split
        · next all_gaps =>
            rw [no_comparison, List.isEmpty_iff.mp all_gaps]
            rfl
        · next filled => rw [head?_append_of_isEmpty filled]

theorem startsStatement_append (line : List Glyph) {rest : List Glyph} (stops : Stops rest) :
    startsStatement (line ++ rest) = startsStatement line := by
  have no_comparison : startsComparison (rest.dropWhile Glyph.isGap) = false := by
    rw [startsComparison,
      any_head?_eq_false_iff.mpr fun glyph first => (stops glyph first).1, Bool.false_and]
  cases line with
  | nil => simp [startsStatement, no_comparison]
  | cons glyph line =>
      rw [startsStatement, startsStatement, List.dropWhile_append]
      congr 1
      split
      · next all_gaps =>
          rw [no_comparison, List.isEmpty_iff.mp all_gaps]
          rfl
      · exact startsComparison_append _ stops

theorem endsBefore_append (glyph : Glyph) {line rest : List Glyph} (filled : line ≠ [])
    (stops : Stops rest) : endsBefore glyph (line ++ rest) = endsBefore glyph line := by
  rw [endsBefore, endsBefore, startsStatement_append line stops,
    List.head?_append_of_ne_nil line filled]

theorem startsComparison_append_of_starts {line : List Glyph}
    (starts : startsComparison line = true) (rest : List Glyph) :
    startsComparison (line ++ rest) = true := by
  rw [startsComparison, Bool.and_eq_true] at starts ⊢
  obtain ⟨key, comparison⟩ := starts
  have behind_gap : ¬((line.dropWhile Glyph.isKey).dropWhile Glyph.isGap).isEmpty = true := by
    intro empty
    simp [List.isEmpty_iff.mp empty] at comparison
  have behind_key : ¬(line.dropWhile Glyph.isKey).isEmpty = true := by
    intro empty
    simp [List.isEmpty_iff.mp empty] at comparison
  have filled : ¬line.isEmpty = true := by
    intro empty
    simp [List.isEmpty_iff.mp empty] at key
  rw [head?_append_of_isEmpty filled, List.dropWhile_append, if_neg behind_key,
    List.dropWhile_append, if_neg behind_gap, head?_append_of_isEmpty behind_gap]
  exact ⟨key, comparison⟩

theorem startsStatement_append_of_starts {line : List Glyph}
    (starts : startsStatement line = true) (rest : List Glyph) :
    startsStatement (line ++ rest) = true := by
  rw [startsStatement, Bool.and_eq_true] at starts ⊢
  obtain ⟨gap, comparison⟩ := starts
  have behind_gap : ¬(line.dropWhile Glyph.isGap).isEmpty = true := by
    intro empty
    rw [List.isEmpty_iff.mp empty] at comparison
    contradiction
  have filled : ¬line.isEmpty = true := by
    intro empty
    simp [List.isEmpty_iff.mp empty] at gap
  rw [head?_append_of_isEmpty filled, List.dropWhile_append, if_neg behind_gap]
  exact ⟨gap, startsComparison_append_of_starts comparison rest⟩

theorem endsBefore_append_of_ends {glyph : Glyph} {line : List Glyph}
    (ends : endsBefore glyph line = true) (rest : List Glyph) :
    endsBefore glyph (line ++ rest) = true := by
  simp only [endsBefore, Bool.or_eq_true, Bool.and_eq_true] at ends ⊢
  rcases ends with ((opening | closing) | before_closing) | ⟨value, starts⟩
  · exact .inl (.inl (.inl opening))
  · exact .inl (.inl (.inr closing))
  · refine .inl (.inr ?_)
    cases line with
    | nil => contradiction
    | cons _ _ => exact before_closing
  · exact .inr ⟨value, startsStatement_append_of_starts starts rest⟩

/-- The line is cut nowhere. -/
def Whole : List Glyph → Prop
  | [] => True
  | glyph :: rest => (rest ≠ [] → endsBefore glyph rest = false) ∧ Whole rest

theorem Whole.right {left right : List Glyph} (whole : Whole (left ++ right)) : Whole right := by
  induction left with
  | nil => exact whole
  | cons glyph left ih => exact ih whole.2

theorem Whole.left {left right : List Glyph} (whole : Whole (left ++ right)) : Whole left := by
  induction left with
  | nil => trivial
  | cons glyph left ih =>
      refine ⟨fun filled => ?_, ih whole.2⟩
      have uncut := whole.1 (List.append_ne_nil_of_left_ne_nil filled right)
      rw [← Bool.not_eq_true] at uncut ⊢
      exact fun ends => uncut (endsBefore_append_of_ends ends right)

theorem Whole.append {left right : List Glyph} (first : Whole left) (second : Whole right)
    (stops : Stops right) (runs : ∀ glyph ∈ left.getLast?, endsBefore glyph right = false) :
    Whole (left ++ right) := by
  induction left with
  | nil => exact second
  | cons glyph left ih =>
      cases left with
      | nil => exact ⟨fun _ => runs glyph rfl, second⟩
      | cons next left =>
          refine ⟨fun _ => ?_, ih first.2 runs⟩
          change endsBefore glyph (next :: left ++ right) = false
          rw [endsBefore_append glyph (List.cons_ne_nil next left) stops]
          exact first.1 (List.cons_ne_nil next left)

theorem cut_of_whole {line : List Glyph} (whole : Whole line) (filled : line ≠ []) :
    cut line = [line] := by
  induction line with
  | nil => contradiction
  | cons glyph rest ih =>
      rw [cut]
      cases rest with
      | nil => split <;> rfl
      | cons next rest =>
          rw [if_neg (by simp [whole.1 (List.cons_ne_nil next rest)]),
            ih whole.2 (List.cons_ne_nil next rest)]
          rfl

theorem cut_eq_nil_iff {line : List Glyph} : cut line = [] ↔ line = [] := by
  constructor
  · intro empty
    rw [← flatten_cut line, empty, List.flatten_nil]
  · rintro rfl
    rfl

/-- The first piece of a line, and the line behind it. A piece that is not the last one ends where
the line is cut. -/
theorem cut_eq_cons {line : List Glyph} (filled : line ≠ []) : ∃ front last rest,
    line = front ++ last :: rest ∧ cut line = (front ++ [last]) :: cut rest ∧
      Whole (front ++ [last]) ∧ (rest ≠ [] → endsBefore last rest = true) := by
  induction line with
  | nil => contradiction
  | cons glyph line ih =>
      rw [cut]
      split
      · next ends => exact ⟨[], glyph, line, rfl, rfl, by simp [Whole], fun _ => ends⟩
      · next runs =>
          rw [Bool.not_eq_true] at runs
          cases line with
          | nil => exact ⟨[], glyph, [], rfl, rfl, by simp [Whole], by simp⟩
          | cons next line =>
              obtain ⟨front, last, rest, parts, cut_rest, whole, ends⟩ :=
                ih (List.cons_ne_nil next line)
              refine ⟨glyph :: front, last, rest, by rw [parts]; rfl, ?_, ⟨fun _ => ?_, whole⟩,
                ends⟩
              · rw [cut_rest]
                rfl
              · rw [← Bool.not_eq_true] at runs ⊢
                intro early
                apply runs
                rw [parts, List.append_cons]
                exact endsBefore_append_of_ends early rest

theorem closed_of_head {text rest : List Char} {p : Glyph → Bool}
    (unquoted : ∀ c quoted, p ⟨c, quoted⟩ = true → quoted = false ∧ c ≠ '"')
    (first : (glyphs (quotedAfter false text) rest).head?.any p = true) : Closed text := by
  cases rest with
  | nil => contradiction
  | cons c rest =>
      rw [glyphs] at first
      split at first
      · next quote => exact absurd quote (unquoted c false first).2
      · exact closed_of_quotedAfter (unquoted c _ first).1

theorem isMark_unquoted {mark : Char} (no_quote : mark ≠ '"') (c : Char) (quoted : Bool)
    (marked : Glyph.isMark mark ⟨c, quoted⟩ = true) : quoted = false ∧ c ≠ '"' := by
  simp only [Glyph.isMark, Bool.and_eq_true, Bool.not_eq_true', beq_iff_eq] at marked
  exact ⟨marked.1, marked.2 ▸ no_quote⟩

theorem isGap_unquoted (c : Char) (quoted : Bool) (blank : Glyph.isGap ⟨c, quoted⟩ = true) :
    quoted = false ∧ c ≠ '"' := by
  simp only [Glyph.isGap, Bool.and_eq_true, Bool.not_eq_true'] at blank
  refine ⟨blank.1, ?_⟩
  rintro rfl
  exact absurd blank.2 (by decide)

theorem closed_of_last {text : List Char} {front : List Glyph} {last : Glyph} {mark : Char}
    (no_quote : mark ≠ '"') (read : glyphs false text = front ++ [last])
    (marked : last.isMark mark = true) : Closed text := by
  obtain ⟨before, behind, rfl, _, rest⟩ := glyphs_eq_append_iff.mp read
  have char_eq := congrArg (List.map Glyph.char) rest
  rw [map_char_glyphs] at char_eq
  subst char_eq
  have closed : Closed before :=
    closed_of_head (p := Glyph.isMark mark) (isMark_unquoted no_quote)
      (by rw [rest]; exact marked)
  rw [closed_append_iff closed]
  exact closed_of_not_mem (by
    simpa using (isMark_unquoted no_quote last.char last.quoted marked).2.symm)

theorem closed_of_endsBefore {text rest : List Char} {front : List Glyph} {last : Glyph}
    (read : glyphs false text = front ++ [last])
    (ends : endsBefore last (glyphs (quotedAfter false text) rest) = true) : Closed text := by
  simp only [endsBefore, Bool.or_eq_true, Bool.and_eq_true, startsStatement] at ends
  rcases ends with ((opening | closing) | before_closing) | ⟨_, gap, _⟩
  · exact closed_of_last (by decide) read opening
  · exact closed_of_last (by decide) read closing
  · exact closed_of_head (isMark_unquoted (by decide)) before_closing
  · exact closed_of_head isGap_unquoted gap

structure CutInto (cs : List Char) (texts : List (List Char)) : Prop where
  cut_eq : cut (glyphs false cs) = texts.map (glyphs false)
  flatten_eq : texts.flatten = cs
  whole : ∀ text ∈ texts, Whole (glyphs false text)
  closed : Closed cs → ∀ text ∈ texts, Closed text

theorem CutInto.glyphs_subset {cs text : List Char} {texts : List (List Char)}
    (cut_into : CutInto cs texts) (member : text ∈ texts) : glyphs false text ⊆ glyphs false cs := by
  intro glyph inside
  rw [← flatten_cut (glyphs false cs), cut_into.cut_eq]
  exact List.mem_flatten_of_mem (List.mem_map_of_mem member) inside

theorem CutInto.nil : CutInto [] [] where
  cut_eq := rfl
  flatten_eq := rfl
  whole := by simp
  closed := by simp

theorem CutInto.cons {text rest : List Char} {texts : List (List Char)}
    (cut_eq : cut (glyphs false (text ++ rest)) = glyphs false text :: cut (glyphs false rest))
    (whole : Whole (glyphs false text)) (closed : Closed text) (later : CutInto rest texts) :
    CutInto (text ++ rest) (text :: texts) where
  cut_eq := by rw [cut_eq, later.cut_eq, List.map_cons]
  flatten_eq := by rw [List.flatten_cons, later.flatten_eq]
  whole := List.forall_mem_cons.mpr ⟨whole, later.whole⟩
  closed := fun all_closed => List.forall_mem_cons.mpr
    ⟨closed, later.closed ((closed_append_iff closed).mp all_closed)⟩

theorem cutInto_of_whole {text : List Char} (filled : text ≠ [])
    (whole : Whole (glyphs false text)) : CutInto text [text] where
  cut_eq := by
    refine cut_of_whole whole fun empty => filled ?_
    rw [← map_char_glyphs false text, empty, List.map_nil]
  flatten_eq := by simp
  whole := by simpa using whole
  closed := by simp

theorem exists_cutInto (cs : List Char) : ∃ texts, CutInto cs texts := by
  -- On the length: behind its first piece no quotation is open, and what is left is cut as a line of
  -- its own.
  induction length : cs.length using Nat.strong_induction_on generalizing cs with
  | _ count ih =>
  by_cases filled : cs = []
  · exact filled ▸ ⟨[], .nil⟩
  · have glyphs_filled : glyphs false cs ≠ [] := by
      intro empty
      rw [← map_char_glyphs false cs, empty] at filled
      contradiction
    obtain ⟨front, last, behind, parts, cut_eq, whole, ends⟩ := cut_eq_cons glyphs_filled
    rw [List.append_cons] at parts
    obtain ⟨text, rest, rfl, read, read_rest⟩ := glyphs_eq_append_iff.mp parts
    rw [← read] at cut_eq whole
    cases rest with
    | nil =>
        rw [List.append_nil] at filled ⊢
        exact ⟨[text], cutInto_of_whole filled whole⟩
    | cons c rest =>
        have behind_filled : behind ≠ [] := by
          rw [← read_rest, glyphs]
          split <;> exact List.cons_ne_nil _ _
        rw [← read_rest] at ends behind_filled
        have closed := closed_of_endsBefore read (ends behind_filled)
        rw [quotedAfter_of_closed closed] at read_rest
        rw [← read_rest] at cut_eq
        have text_filled : text ≠ [] := by
          rintro rfl
          simp [glyphs] at read
        have shorter : (c :: rest).length < count := by
          rw [← length, List.length_append]
          exact Nat.lt_add_of_pos_left (List.length_pos_iff.mpr text_filled)
        obtain ⟨texts, later⟩ := ih _ shorter (c :: rest) rfl
        exact ⟨text :: texts, .cons cut_eq whole closed later⟩

end EventWiki.Script
