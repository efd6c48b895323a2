import EventWiki.Proofs.KeptText
import EventWiki.Proofs.LineBraces
import EventWiki.Proofs.LineVerdict

namespace EventWiki.Script

def braces (cs : List Char) : List Char :=
  sift (fun quoted c => !quoted && (c == '{' || c == '}')) false cs

/-- No part from the start closes more than it opens, and the whole closes all that it opens. -/
structure Matched (signs : List Char) : Prop where
  closing_le : ∀ count, (signs.take count).count '}' ≤ (signs.take count).count '{'
  closing_eq : signs.count '}' = signs.count '{'

theorem sift_eq_filter {keep : Bool → Char → Bool} (quote : keep true '"' = keep false '"')
    (quoted : Bool) (cs : List Char) :
    sift keep quoted cs =
      ((glyphs quoted cs).filter fun glyph => keep glyph.quoted glyph.char).map Glyph.char := by
  induction cs generalizing quoted with
  | nil => rfl
  | cons c cs ih =>
      by_cases same : c = '"'
      · subst same
        have either : keep quoted '"' = keep false '"' := by
          cases quoted
          · rfl
          · exact quote
        simp only [sift, glyphs, if_true, either, ih, List.filter_cons]
        split <;> rfl
      · simp only [sift, glyphs, if_neg same, ih, List.filter_cons]
        split <;> rfl

theorem braces_eq (cs : List Char) :
    braces cs = ((glyphs false cs).filter Glyph.isBrace).map Glyph.char := by
  rw [braces, sift_eq_filter rfl]
  congr 2
  funext glyph
  simp only [Glyph.isBrace, Glyph.isMark, Bool.and_or_distrib_left]

theorem braceOf_trim {text : List Char} (whole : Whole (glyphs false text))
    (closed : Closed text) : braceOf (Text.trim text) = braces text := by
  have chars := map_char_glyphs false text
  rw [braces_eq]
  cases whole.shape with
  | closing text_eq =>
      rw [text_eq] at chars ⊢
      subst chars
      decide
  | opening front text_eq no_brace =>
      rw [text_eq] at chars ⊢
      have front_plain : front.filter Glyph.isBrace = [] := by
        simpa using no_brace
      rw [← chars, List.map_append, List.map_singleton, List.filter_append, front_plain,
        Text.trim_concat_of_not_blank (by decide)]
      exact braceOf_opening _
  | plain no_brace =>
      have none : (glyphs false text).filter Glyph.isBrace = [] := by
        simpa using no_brace
      rw [none, braceOf_of_takesBrace (Text.trim_trim text) (takesBrace_of_plain closed no_brace)]
      rfl

theorem braceOf_statements {line : List Char} (closed : Closed (codeOf line)) :
    (statements line).flatMap braceOf = braces (codeOf line) := by
  apply flatMap_statements_of_closed closed
  · decide
  · intro text whole text_closed
    exact braceOf_trim whole text_closed

theorem bracesOf_normalize {source : String}
    (closed : ∀ line ∈ Text.lines source.toList, Closed (codeOf line)) :
    bracesOf (normalize source) = ((Text.lines source.toList).map codeOf).flatMap braces := by
  have join : ∀ statement ∈ (Text.lines source.toList).flatMap statements,
      takesBrace statement = true →
        braceOf (statement ++ [' ', '{']) = braceOf statement ++ braceOf ['{'] := by
    intro statement member takes
    obtain ⟨line, _, member⟩ := List.mem_flatMap.mp member
    rw [braceOf_of_takesBrace (trim_of_mem_statements member) takes, List.append_cons,
      braceOf_opening]
    exact (braceOf_opening []).symm
  rw [bracesOf, normalize, List.flatMap_map]
  simp only [String.toList_ofList]
  exact flatMap_joinBraces_statements join fun line member =>
    braceOf_statements (closed line member)

theorem balanced_of_ok {lines : List String} {result : Outline}
    (accepted : outline lines = .ok result) : Balanced lines := by
  rcases balanced_or_faulty lines with balanced | ⟨error, first | unclosed⟩
  · exact balanced
  · rw [outline_of_firstFault first] at accepted
    contradiction
  · rw [outline_of_unclosed unclosed] at accepted
    contradiction

theorem matched_of_balanced {lines : List String} (balanced : Balanced lines) :
    Matched (bracesOf lines) where
  closing_le := by
    intro count
    obtain ⟨first, taken⟩ := exists_take_bracesOf lines count
    rw [taken, (count_bracesOf _).1, (count_bracesOf _).2]
    exact balanced.closing_le first
  closing_eq := by
    rw [(count_bracesOf _).1, (count_bracesOf _).2]
    exact balanced.closing_eq

theorem Matched.closing_le_opening {lines : List String} (matched : Matched (bracesOf lines))
    (count : Nat) : closing (lines.take count) ≤ opening (lines.take count) := by
  obtain ⟨first, taken⟩ := bracesOf_take lines count
  rw [← (count_bracesOf _).1, ← (count_bracesOf _).2, taken]
  exact matched.closing_le first

theorem not_matched_of_unmatchedClose {lines : List String} {number : Nat}
    (refused : outline lines = .error (.unmatchedClose number)) : ¬Matched (bracesOf lines) := by
  intro matched
  rcases outline_cases lines with ⟨error, stopped, position, fault, _⟩ | ⟨reading, finished, _⟩
  · rw [refused, Except.error.injEq] at stopped
    subst stopped
    obtain ⟨line, found, fault⟩ := Option.bind_eq_some_iff.mp fault
    rcases lineFault?_cases fault with ⟨closes, full, _⟩ | other | ⟨_, other⟩
    · have bound := matched.closing_le_opening (position + 1)
      rw [opening_take_succ found, closing_take_succ found, closing_singleton, if_pos closes,
        opening_singleton_of_closes closes] at bound
      omega
    · cases other
    · cases other
  · rw [refused, Reading.finish] at finished
    split at finished <;> cases finished

theorem not_matched_of_unclosedBlock {lines : List String} {kind : String} {number : Nat}
    (refused : outline lines = .error (.unclosedBlock kind number)) :
    ¬Matched (bracesOf lines) := by
  intro matched
  rcases outline_cases lines with
    ⟨error, stopped, position, fault, _⟩ | ⟨reading, finished, tracks, _⟩
  · rw [refused, Except.error.injEq] at stopped
    subst stopped
    obtain ⟨line, _, fault⟩ := Option.bind_eq_some_iff.mp fault
    rcases lineFault?_cases fault with ⟨_, _, other⟩ | other | ⟨_, other⟩ <;> cases other
  · have remaining : reading.blocks ≠ [] := by
      intro none
      rw [refused, Reading.finish, none] at finished
      contradiction
    have uneven := tracks.closing_lt_opening_iff.mpr remaining
    have even := matched.closing_eq
    rw [(count_bracesOf _).1, (count_bracesOf _).2] at even
    omega

/-- Where all quotations are closed, the blocks that a script is read with are those of its braces
outside quotes and comments. -/
theorem parse_braces {source : String} {codes : List (List Char)}
    (cut_source : List.Forall₂ IsCodeOf (Text.lines source.toList) codes)
    (codes_closed : ∀ code ∈ codes, Closed code) :
    (∀ result, parse source = .ok result → Matched (codes.flatMap braces) ∧
      opening (normalize source) = (codes.flatMap braces).count '{') ∧
    (∀ number, parse source = .error (.unmatchedClose number) →
      ¬Matched (codes.flatMap braces)) ∧
    ∀ kind number, parse source = .error (.unclosedBlock kind number) →
      ¬Matched (codes.flatMap braces) := by
  obtain rfl := forall₂_isCodeOf_iff.mp cut_source
  rw [← bracesOf_normalize (List.forall_mem_map.mp codes_closed)]
  refine ⟨fun result accepted => ?_, fun _ => not_matched_of_unmatchedClose,
    fun _ _ => not_matched_of_unclosedBlock⟩
  exact ⟨matched_of_balanced (balanced_of_ok accepted), (count_bracesOf _).1.symm⟩

def nestedSource : String :=
  "option =\n\x7b name = \"\x7d\" trigger = \x7b \x7d \x7d # \x7d"

def nestedCodes : List (List Char) :=
  ["option =".toList, "\x7b name = \"\x7d\" trigger = \x7b \x7d \x7d ".toList]

theorem parse_nestedSource :
    List.Forall₂ IsCodeOf (Text.lines nestedSource.toList) nestedCodes ∧
      (∀ code ∈ nestedCodes, Closed code) ∧ (∃ result, parse nestedSource = .ok result) ∧
      Matched (nestedCodes.flatMap braces) ∧
      opening (normalize nestedSource) = (nestedCodes.flatMap braces).count '{' := by
  have cut_source : List.Forall₂ IsCodeOf (Text.lines nestedSource.toList) nestedCodes :=
    forall₂_isCodeOf_iff.mpr (by decide +kernel)
  have closed : ∀ code ∈ nestedCodes, Closed code := by decide +kernel
  have accepted : parse nestedSource = .ok
      ⟨.bare rootKind, #[⟨0, .make "option" (some .equal) none⟩,
        ⟨1, .make "name" (some .equal) (some "\x7d")⟩,
        ⟨1, .make "trigger" (some .equal) none⟩]⟩ := by
    decide +kernel
  exact ⟨cut_source, closed, ⟨_, accepted⟩, (parse_braces cut_source closed).1 _ accepted⟩

end EventWiki.Script
