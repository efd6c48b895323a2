import EventWiki.Proofs.BoundarySearch

namespace EventWiki.Script

/-! No slice begins or ends inside a character, and but for the blanks around them the slices are
the pieces of the cut line. -/

/-- A text before and behind a number of bytes, if these end between two characters. -/
def splitBytes? : Nat → List Char → Option (List Char × List Char)
  | 0, cs => some ([], cs)
  | _ + 1, [] => none
  | size + 1, c :: cs =>
      if c.utf8Size ≤ size + 1 then
        (splitBytes? (size + 1 - c.utf8Size) cs).map fun (front, rest) => (c :: front, rest)
      else none

def slices? (text : List Char) (start : Nat) : List (Nat × Nat) → Option (List (List Char))
  | [] => (splitBytes? start text).map fun (_, last) => [last]
  | (first, last) :: rest => do
      let (front, _) ← splitBytes? first text
      let (_, statement) ← splitBytes? start front
      return statement :: (← slices? text last rest)

def splitStatements? (piece : List Char) : Option (List (List Char)) :=
  slices? piece 0 (gaps 0 (masked false piece))

theorem splitBytes?_append (front rest : List Char) :
    splitBytes? (Text.byteSize front) (front ++ rest) = some (front, rest) := by
  induction front with
  | nil => rw [Text.byteSize_nil, splitBytes?, List.nil_append]
  | cons c front ih =>
      obtain ⟨size, size_eq⟩ := Nat.exists_eq_succ_of_ne_zero (Nat.ne_of_gt c.utf8Size_pos)
      have total : Text.byteSize (c :: front) = size + Text.byteSize front + 1 := by
        rw [Text.byteSize_cons, size_eq]
        omega
      have left : size + Text.byteSize front + 1 - c.utf8Size = Text.byteSize front := by omega
      rw [total, List.cons_append, splitBytes?, if_pos (by omega), left, ih]
      rfl

theorem slices?_nil (done last : List Char) :
    slices? (done ++ last) (Text.byteSize done) [] = some [last] := by
  rw [slices?, splitBytes?_append]
  rfl

theorem slices?_cons (done statement later : List Char) {last : Nat} {rest : List (Nat × Nat)}
    {texts : List (List Char)}
    (behind : slices? (done ++ (statement ++ later)) last rest = some texts) :
    slices? (done ++ (statement ++ later)) (Text.byteSize done)
      ((Text.byteSize (done ++ statement), last) :: rest) = some (statement :: texts) := by
  rw [slices?, ← List.append_assoc, splitBytes?_append, List.append_assoc]
  simp [splitBytes?_append, behind]

/-- A line without braces, but for an opening brace at its end, or a closing brace alone. -/
structure Braceless (line : List Glyph) : Prop where
  inner : line.Pairwise fun glyph _ => glyph.isBrace = false
  no_closing : Glyph.closing ∉ line.tail

theorem Braceless.of_forall {line : List Glyph} (flat : ∀ glyph ∈ line, glyph.isBrace = false) :
    Braceless line where
  inner := List.pairwise_of_forall_mem_list fun glyph inside _ _ => flat glyph inside
  no_closing := fun inside => absurd (flat _ (List.mem_of_mem_tail inside)) (by decide)

theorem Braceless.concat_opening {line : List Glyph}
    (flat : ∀ glyph ∈ line, glyph.isBrace = false) : Braceless (line ++ [Glyph.opening]) where
  inner := by
    refine List.pairwise_append.mpr
      ⟨(Braceless.of_forall flat).inner, List.pairwise_singleton .., ?_⟩
    exact fun glyph inside _ _ => flat glyph inside
  no_closing := by
    intro inside
    rcases List.mem_append.mp (List.mem_of_mem_tail inside) with early | last
    · exact absurd (flat _ early) (by decide)
    · exact absurd (List.mem_singleton.mp last) (by decide)

theorem braceless_closing : Braceless [Glyph.closing] where
  inner := List.pairwise_singleton ..
  no_closing := List.not_mem_nil

theorem Braceless.of_cons {glyph : Glyph} {rest : List Glyph}
    (braceless : Braceless (glyph :: rest)) : Braceless rest where
  inner := braceless.inner.of_cons
  no_closing := fun inside => braceless.no_closing (List.mem_of_mem_tail inside)

theorem Braceless.right {left right : List Glyph} (braceless : Braceless (left ++ right)) :
    Braceless right := by
  induction left with
  | nil => exact braceless
  | cons glyph left ih => exact ih braceless.of_cons

theorem any_head?_closing_of_not_mem {line : List Glyph} (absent : Glyph.closing ∉ line) :
    line.head?.any (Glyph.isMark '}') = false := by
  rw [any_head?_eq_false_iff]
  intro glyph first
  rw [← Bool.not_eq_true, Glyph.isMark_iff]
  rintro rfl
  exact absent (List.mem_of_mem_head? first)

theorem Braceless.endsBefore_eq {glyph : Glyph} {rest : List Glyph}
    (braceless : Braceless (glyph :: rest)) (filled : rest ≠ []) :
    endsBefore glyph rest = (glyph.endsValue && startsStatement rest) := by
  cases rest with
  | nil => contradiction
  | cons next rest =>
      have no_brace := (List.pairwise_cons.mp braceless.inner).1 next List.mem_cons_self
      rw [Glyph.isBrace] at no_brace
      have open_end : (next :: rest).head?.any (Glyph.isMark '}') = false :=
        any_head?_closing_of_not_mem braceless.no_closing
      rw [endsBefore, no_brace, open_end]
      rfl

def withHead {α : Type} (front : List α) : List (List α) → List (List α)
  | [] => [front]
  | piece :: rest => (front ++ piece) :: rest

theorem map_withHead {α β : Type} (f : α → β) (front : List α) (pieces : List (List α)) :
    (withHead front pieces).map (List.map f) =
      withHead (front.map f) (pieces.map (List.map f)) := by
  cases pieces <;> simp [withHead]

theorem cut_append_of_runsOn {piece rest : List Glyph} (runs : RunsOn piece rest)
    (filled : piece ≠ []) : cut (piece ++ rest) = withHead piece (cut rest) := by
  induction piece with
  | nil => contradiction
  | cons glyph piece ih =>
      rw [List.cons_append, cut_cons_of_runs runs.1]
      cases piece with
      | nil =>
          rw [List.nil_append]
          cases cut rest <;> rfl
      | cons next piece =>
          rw [ih runs.2 (List.cons_ne_nil next piece)]
          cases cut rest <;> rfl

theorem Glyph.quiet_of_isGap {glyph : Glyph} (gap : glyph.isGap = true) :
    glyph.endsValue = false ∧ glyph.isMark '{' = false ∧ glyph.isMark '}' = false := by
  rw [isGap, Bool.and_eq_true] at gap
  have other : ∀ mark, Text.isBlank mark = false → glyph.char ≠ mark := by
    rintro mark visible rfl
    rw [gap.2] at visible
    contradiction
  refine ⟨?_, isMark_eq_false_of_ne (other '{' (by decide)),
    isMark_eq_false_of_ne (other '}' (by decide))⟩
  rw [← Bool.not_eq_true]
  intro value
  rw [isBlank_of_endsValue value] at gap
  exact absurd gap.2 (by decide)

theorem Glyph.quiet_of_isComparison {glyph : Glyph} (compares : glyph.isComparison = true) :
    glyph.endsValue = false ∧ glyph.isMark '{' = false ∧ glyph.isMark '}' = false := by
  obtain ⟨c, quoted⟩ := glyph
  simp only [isComparison, Bool.and_eq_true, Bool.not_eq_true', List.contains_iff_mem,
    List.mem_cons, List.not_mem_nil, or_false] at compares
  obtain ⟨rfl, rfl | rfl | rfl⟩ := compares <;> decide

theorem startsStatement_space {space : List Glyph}
    (space_blank : ∀ glyph ∈ space, glyph.isGap = true) {mark : Glyph}
    (compares : mark.isComparison = true) (behind : List Glyph) :
    startsStatement (space ++ mark :: behind) = false := by
  have visible := Glyph.isBlank_of_isComparison compares
  have no_key : mark.isKey = false := by
    rw [← Bool.not_eq_true, Glyph.isKey_iff]
    rintro ⟨_, key_char⟩
    rw [(isComparisonChar_quiet (Glyph.isComparison_iff.mp compares).2).2] at key_char
    contradiction
  rw [startsStatement, List.dropWhile_append_of_pos space_blank,
    List.dropWhile_cons_of_neg (by simp [Glyph.isGap, visible]), startsComparison]
  simp [no_key]

theorem plain_of_isKey {key : List Glyph} (key_chars : ∀ glyph ∈ key, glyph.isKey = true) :
    plain (key.map Glyph.char) = key := by
  rw [plain, List.map_map]
  refine List.map_congr_left (g := id) (fun glyph inside => ?_) |>.trans (List.map_id key)
  obtain ⟨c, quoted⟩ := glyph
  obtain rfl : quoted = false := (Glyph.isKey_iff.mp (key_chars _ inside)).1
  rfl

theorem GlyphBoundary.runsOn {rest gap key space behind : List Glyph} {mark : Glyph}
    (boundary : GlyphBoundary rest gap key space mark behind) (no_closing : Glyph.closing ∉ rest) :
    RunsOn (gap ++ (key ++ (space ++ [mark]))) behind := by
  obtain ⟨rfl, _, gap_blank, _, key_chars, space_blank, compares⟩ := boundary
  have space_quiet : ∀ glyph ∈ space ++ [mark], glyph.endsValue = false ∧
      glyph.isMark '{' = false ∧ glyph.isMark '}' = false := by
    simp only [List.forall_mem_append, List.forall_mem_singleton]
    exact ⟨fun glyph inside => Glyph.quiet_of_isGap (space_blank glyph inside),
      Glyph.quiet_of_isComparison compares⟩
  simp only [List.mem_append, List.mem_cons, not_or] at no_closing
  obtain ⟨_, key_open, space_open, mark_open, behind_open⟩ := no_closing
  refine .append ?_ (.append ?_ ?_)
  · refine runsOn_of_not_endsValue
      (fun glyph inside => Glyph.quiet_of_isGap (gap_blank glyph inside))
      (any_head?_closing_of_not_mem ?_)
    simp [key_open, space_open, mark_open, behind_open]
  · rw [← plain_of_isKey key_chars]
    refine runsOn_key ?_ (any_head?_closing_of_not_mem ?_) ?_
    · exact List.forall_mem_map.mpr fun glyph inside =>
        (Glyph.isKey_iff.mp (key_chars glyph inside)).2
    · simp [space_open, mark_open, behind_open]
    · simpa using startsStatement_space space_blank compares behind
  · exact runsOn_of_not_endsValue space_quiet (any_head?_closing_of_not_mem behind_open)

def filledTexts (texts : List (List Char)) : List (List Char) :=
  (texts.map Text.trim).filter (!·.isEmpty)

theorem filledTexts_append (left right : List (List Char)) :
    filledTexts (left ++ right) = filledTexts left ++ filledTexts right := by
  simp [filledTexts]

theorem filledTexts_cons_congr (text : List Char) {left right : List (List Char)}
    (same : filledTexts left = filledTexts right) :
    filledTexts (text :: left) = filledTexts (text :: right) := by
  rw [← List.singleton_append, filledTexts_append, same, ← filledTexts_append,
    List.singleton_append]

theorem filledTexts_withHead_of_blank {blanks : List Char}
    (blank : ∀ c ∈ blanks, Text.isBlank c = true) (front : List Char)
    (pieces : List (List Char)) :
    filledTexts (withHead (blanks ++ front) pieces) = filledTexts (withHead front pieces) := by
  cases pieces <;> simp [withHead, filledTexts, Text.trim_blank_append blank]

theorem cut_cons_of_inner {glyph : Glyph} {rest : List Glyph}
    (braceless : Braceless (glyph :: rest))
    (runs : (glyph.endsValue && startsStatement rest) = false) :
    cut (glyph :: rest) = withHead [glyph] (cut rest) := by
  cases rest with
  | nil => rw [cut_singleton, cut, withHead]
  | cons next rest =>
      have filled := List.cons_ne_nil next rest
      rw [cut_cons_of_runs ((braceless.endsBefore_eq filled).trans runs)]
      cases pieces : cut (next :: rest) <;> rfl

theorem withHead_append {α : Type} (front : List α) (a : α) (pieces : List (List α)) :
    withHead front (withHead [a] pieces) = withHead (front ++ [a]) pieces := by
  cases pieces <;> simp [withHead]

/-- The texts around the gaps of the mask are those of the pieces of the line, where `current` is
what stands before the line in its first piece. -/
def SlicedAsCut (line : List Glyph) : Prop :=
  ∀ done current : List Char, ∃ texts,
    slices? (done ++ (current ++ line.map Glyph.char)) (Text.byteSize done)
      (gaps (Text.byteSize (done ++ current)) (maskedLine line)) = some texts ∧
    filledTexts texts = filledTexts (withHead current ((cut line).map (List.map Glyph.char)))

namespace SlicedAsCut

variable {glyph : Glyph} {rest : List Glyph}

theorem nil : SlicedAsCut [] := by
  intro done current
  refine ⟨[current], ?_, rfl⟩
  rw [maskedLine, List.flatMap_nil, gaps, List.map_nil, List.append_nil, slices?_nil]

theorem cons_of_runs (chain : (glyph :: rest).IsChain Neighbours)
    (braceless : Braceless (glyph :: rest))
    (runs : (glyph.endsValue && startsStatement rest) = false) (sliced : SlicedAsCut rest) :
    SlicedAsCut (glyph :: rest) := by
  intro done current
  have skipped : gaps (Text.byteSize (done ++ current)) (maskedLine (glyph :: rest)) =
      gaps (Text.byteSize (done ++ (current ++ [glyph.char]))) (maskedLine rest) := by
    have place : Text.byteSize (done ++ (current ++ [glyph.char])) =
        Text.byteSize (done ++ current) + glyph.char.utf8Size := by
      simp [Nat.add_assoc]
    rw [place]
    cases quoted : glyph.quoted with
    | true => exact gaps_of_quoted quoted chain _
    | false => exact gaps_of_runs quoted chain runs _
  rw [skipped, cut_cons_of_inner braceless runs, map_withHead, List.map_singleton, withHead_append,
    List.map_cons, List.append_cons]
  exact sliced done (current ++ [glyph.char])

theorem cons_of_boundary {gap key space behind : List Glyph} {mark : Glyph}
    (braceless : Braceless (glyph :: rest)) (ends : glyph.endsValue = true)
    (starts : startsStatement rest = true)
    (boundary : GlyphBoundary rest gap key space mark behind) (sliced : SlicedAsCut behind) :
    SlicedAsCut (glyph :: rest) := by
  intro done current
  let statement := current ++ [glyph.char]
  let blanks := gap.map Glyph.char
  let front := (key ++ (space ++ [mark])).map Glyph.char
  have parts : rest = (gap ++ (key ++ (space ++ [mark]))) ++ behind := by
    rw [boundary.parts]
    simp
  obtain ⟨texts, around, same⟩ := sliced (done ++ statement ++ blanks) front
  refine ⟨statement :: texts, ?_, ?_⟩
  · have text_eq : current ++ (glyph :: rest).map Glyph.char =
        statement ++ (blanks ++ (front ++ behind.map Glyph.char)) := by
      simp [parts, statement, blanks, front]
    have first : Text.byteSize (done ++ current) + glyph.char.utf8Size =
        Text.byteSize (done ++ statement) := by
      simp [statement, Nat.add_assoc]
    rw [gaps_of_glyphBoundary ends boundary, first, text_eq]
    apply slices?_cons
    simpa only [List.append_assoc, Text.byteSize_append, Nat.add_assoc] using around
  · have filled : rest ≠ [] := by
      rw [boundary.parts]
      simp [boundary.gap_filled]
    have runs := boundary.runsOn braceless.no_closing
    have cut_eq : cut (glyph :: rest) =
        [glyph] :: withHead (gap ++ (key ++ (space ++ [mark]))) (cut behind) := by
      rw [cut_cons_of_ends ((braceless.endsBefore_eq filled).trans (by simp [ends, starts])), parts,
        cut_append_of_runsOn runs (by simp [boundary.gap_filled])]
    have blank : ∀ c ∈ blanks, Text.isBlank c = true := by
      refine List.forall_mem_map.mpr fun g inside => ?_
      have is_gap := boundary.gap_blank g inside
      rw [Glyph.isGap, Bool.and_eq_true] at is_gap
      exact is_gap.2
    rw [cut_eq, List.map_cons, map_withHead, List.map_append]
    exact filledTexts_cons_congr statement
      (same.trans (filledTexts_withHead_of_blank blank front _).symm)

theorem of_line (line : List Glyph) (chain : line.IsChain Neighbours)
    (braceless : Braceless line) : SlicedAsCut line := by
  -- A boundary takes away more than one glyph, so the induction is on the length.
  induction size : line.length using Nat.strong_induction_on generalizing line with
  | h length ih =>
      subst size
      cases line with
      | nil => exact .nil
      | cons glyph rest =>
          cases starts : glyph.endsValue && startsStatement rest with
          | false =>
              exact .cons_of_runs chain braceless starts
                (ih _ (Nat.lt_succ_self _) rest chain.of_cons braceless.of_cons rfl)
          | true =>
              obtain ⟨ends, starts⟩ := Bool.and_eq_true_iff.mp starts
              obtain ⟨gap, key, space, mark, behind, boundary⟩ := exists_glyphBoundary starts
              have parts : glyph :: rest =
                  (glyph :: (gap ++ (key ++ (space ++ [mark])))) ++ behind := by
                rw [boundary.parts]
                simp
              refine .cons_of_boundary braceless ends starts boundary (ih _ ?_ behind ?_ ?_ rfl)
              · rw [parts, List.length_append, List.length_cons]
                omega
              · rw [parts] at chain
                exact chain.right_of_append
              · rw [parts] at braceless
                exact braceless.right

end SlicedAsCut

/-- A piece between braces is cut at the gaps of its mask. -/
theorem exists_splitStatements? (piece : List Char) (braceless : Braceless (glyphs false piece)) :
    ∃ texts, splitStatements? piece = some texts ∧
      filledTexts texts = statementsOf (glyphs false piece) := by
  obtain ⟨texts, sliced, same⟩ := SlicedAsCut.of_line _ (isChain_glyphs false piece) braceless [] []
  refine ⟨texts, ?_, ?_⟩
  · rw [splitStatements?, masked_eq]
    simpa [map_char_glyphs] using sliced
  · rw [same, statementsOf, filledTexts]
    cases cut (glyphs false piece) <;> simp [withHead, Function.comp_def]

end EventWiki.Script
