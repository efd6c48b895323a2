import EventWiki.Proofs.StatementCut
import Mathlib

namespace EventWiki.Script

def Closed (cs : List Char) : Prop :=
  Even (cs.count '"')

/-- Every number sign of the text stands inside quotes. -/
def Uncommented (cs : List Char) : Prop :=
  ∀ before after, cs = before ++ '#' :: after → ¬Closed before

/-- The code of a line goes up to its first number sign outside quotes. -/
structure IsCodeOf (line code : List Char) : Prop where
  uncommented : Uncommented code
  ends : line = code ∨ Closed code ∧ ∃ comment, line = code ++ '#' :: comment

def codeOf (line : List Char) : List Char :=
  (withoutComment line).map Glyph.char

instance (cs : List Char) : Decidable (Closed cs) :=
  inferInstanceAs (Decidable (Even (cs.count '"')))

@[simp] theorem closed_nil : Closed [] := ⟨0, rfl⟩

theorem closed_of_not_mem {cs : List Char} (absent : '"' ∉ cs) : Closed cs := by
  rw [Closed, List.count_eq_zero_of_not_mem absent]
  exact Even.zero

theorem not_mem_of_blank {cs : List Char} (blank : ∀ c ∈ cs, Text.isBlank c = true) :
    '"' ∉ cs :=
  fun quote => absurd (blank '"' quote) (by decide)

theorem closed_of_blank {cs : List Char} (blank : ∀ c ∈ cs, Text.isBlank c = true) :
    Closed cs :=
  closed_of_not_mem (not_mem_of_blank blank)

theorem closed_append_iff {left right : List Char} (closed : Closed left) :
    Closed (left ++ right) ↔ Closed right := by
  rw [Closed, List.count_append, Nat.even_add]
  exact iff_true_left closed

theorem closed_append_iff_left {left right : List Char} (closed : Closed right) :
    Closed (left ++ right) ↔ Closed left := by
  rw [Closed, List.count_append, Nat.even_add]
  exact iff_true_right closed

theorem closed_trim_iff {text : List Char} : Closed (Text.trim text) ↔ Closed text := by
  obtain ⟨lead, tail, parts, lead_blank, tail_blank⟩ := Text.trim_parts text
  conv_rhs => rw [parts]
  rw [closed_append_iff (closed_of_blank lead_blank),
    closed_append_iff_left (closed_of_blank tail_blank)]

theorem quotedAfter_eq_false_iff {cs : List Char} {quoted : Bool} :
    quotedAfter quoted cs = false ↔ (Closed cs ↔ quoted = false) := by
  induction cs generalizing quoted with
  | nil => simp [quotedAfter]
  | cons c cs ih =>
      rw [quotedAfter, ih]
      by_cases quote : c = '"'
      · subst quote
        cases quoted <;> simp [Closed, Nat.even_add_one]
      · simp [Closed, quote]

theorem quotedAfter_of_closed {cs : List Char} (closed : Closed cs) :
    quotedAfter false cs = false :=
  quotedAfter_eq_false_iff.mpr (iff_of_true closed rfl)

theorem closed_of_quotedAfter {cs : List Char} (unquoted : quotedAfter false cs = false) :
    Closed cs :=
  (quotedAfter_eq_false_iff.mp unquoted).mpr rfl

theorem glyphs_append_of_closed {left : List Char} (closed : Closed left) (right : List Char) :
    glyphs false (left ++ right) = glyphs false left ++ glyphs false right := by
  rw [glyphs_append, quotedAfter_of_closed closed]

theorem exists_glyphs_trim (text : List Char) :
    ∃ lead tail, glyphs false text = lead ++ (glyphs false (Text.trim text) ++ tail) := by
  obtain ⟨lead, tail, parts, lead_blank, _⟩ := Text.trim_parts text
  refine ⟨glyphs false lead, glyphs (quotedAfter false (Text.trim text)) tail, ?_⟩
  rw [← glyphs_append, ← glyphs_append_of_closed (closed_of_blank lead_blank), ← parts]

/-- Pieces of a line are read as the line is, each in the state that the one before it leaves. -/
theorem glyphs_eq_append_iff {quoted : Bool} {cs : List Char} {left right : List Glyph} :
    glyphs quoted cs = left ++ right ↔ ∃ first second, cs = first ++ second ∧
      glyphs quoted first = left ∧ glyphs (quotedAfter quoted first) second = right := by
  constructor
  · intro parts
    have cs_eq : cs = left.map Glyph.char ++ right.map Glyph.char := by
      rw [← List.map_append, ← parts, map_char_glyphs]
    refine ⟨left.map Glyph.char, right.map Glyph.char, cs_eq, ?_⟩
    rw [cs_eq, glyphs_append] at parts
    refine List.append_inj parts ?_
    simpa using congrArg List.length (map_char_glyphs quoted (left.map Glyph.char))
  · rintro ⟨first, second, rfl, rfl, rfl⟩
    exact glyphs_append quoted first second

theorem glyphs_singleton (quoted : Bool) (c : Char) :
    glyphs quoted [c] = [⟨c, quoted && c != '"'⟩] := by
  by_cases quote : c = '"' <;> simp [glyphs, quote]

theorem exists_isMark_iff {cs : List Char} {mark : Char} (no_quote : mark ≠ '"') :
    (∃ glyph ∈ glyphs false cs, glyph.isMark mark = true) ↔
      ∃ before after, cs = before ++ mark :: after ∧ Closed before := by
  constructor
  · rintro ⟨glyph, member, marked⟩
    obtain ⟨left, right, parts⟩ := List.append_of_mem member
    obtain ⟨before, after, rfl, _, rest⟩ := glyphs_eq_append_iff.mp parts
    cases after with
    | nil => simp [glyphs] at rest
    | cons c after =>
        simp only [Glyph.isMark, Bool.and_eq_true, Bool.not_eq_true', beq_iff_eq] at marked
        have same := congrArg (List.map Glyph.char) rest
        rw [map_char_glyphs, List.map_cons, marked.2, List.cons.injEq] at same
        obtain ⟨rfl, _⟩ := same
        rw [glyphs, if_neg no_quote, List.cons.injEq] at rest
        have read := congrArg Glyph.quoted rest.1
        rw [marked.1] at read
        exact ⟨before, after, rfl, closed_of_quotedAfter read⟩
  · rintro ⟨before, after, rfl, closed⟩
    refine ⟨⟨mark, false⟩, ?_, by simp [Glyph.isMark]⟩
    rw [glyphs_append_of_closed closed, glyphs, if_neg no_quote]
    simp

theorem uncommented_iff {cs : List Char} :
    Uncommented cs ↔ ∀ glyph ∈ glyphs false cs, glyph.isMark '#' = false := by
  have exposed : (∃ glyph ∈ glyphs false cs, glyph.isMark '#' = true) ↔
      ∃ before after, cs = before ++ '#' :: after ∧ Closed before :=
    exists_isMark_iff (by decide)
  constructor
  · intro uncommented glyph member
    rw [← Bool.not_eq_true]
    intro marked
    obtain ⟨before, after, parts, closed⟩ := exposed.mp ⟨glyph, member, marked⟩
    exact uncommented before after parts closed
  · intro unmarked before after parts closed
    obtain ⟨glyph, member, marked⟩ := exposed.mpr ⟨before, after, parts, closed⟩
    rw [unmarked glyph member] at marked
    contradiction

theorem uncommented_nil : Uncommented [] := by
  intro before after parts
  simp at parts

theorem uncommented_of_not_mem {cs : List Char} (absent : '#' ∉ cs) : Uncommented cs := by
  rintro before after rfl
  simp at absent

theorem Uncommented.append {left right : List Char} (first : Uncommented left)
    (closed : Closed left) (second : Uncommented right) : Uncommented (left ++ right) := by
  rw [uncommented_iff, glyphs_append_of_closed closed, List.forall_mem_append]
  exact ⟨uncommented_iff.mp first, uncommented_iff.mp second⟩

theorem uncommented_of_blank {cs : List Char} (blank : ∀ c ∈ cs, Text.isBlank c = true) :
    Uncommented cs :=
  uncommented_of_not_mem fun sign => absurd (blank '#' sign) (by decide)

theorem glyphs_codeOf (line : List Char) : glyphs false (codeOf line) = withoutComment line := by
  have parts := (List.takeWhile_append_dropWhile (p := fun glyph => !glyph.isMark '#')
    (l := glyphs false line)).symm
  obtain ⟨code, _, _, read, _⟩ := glyphs_eq_append_iff.mp parts
  rw [codeOf, withoutComment, ← read, map_char_glyphs]

theorem withoutComment_append {code : List Char} (uncommented : Uncommented code)
    (closed : Closed code) (rest : List Char) :
    withoutComment (code ++ rest) = glyphs false code ++ withoutComment rest := by
  have passed : ∀ glyph ∈ glyphs false code, (!glyph.isMark '#') = true := by
    intro glyph member
    rw [uncommented_iff.mp uncommented glyph member]
    rfl
  rw [withoutComment, withoutComment, glyphs_append_of_closed closed,
    List.takeWhile_append_of_pos passed]

theorem withoutComment_eq_self {code : List Char} (uncommented : Uncommented code) :
    withoutComment code = glyphs false code := by
  rw [withoutComment, List.takeWhile_eq_self_iff]
  intro glyph member
  rw [uncommented_iff.mp uncommented glyph member]
  rfl

theorem uncommented_codeOf (line : List Char) : Uncommented (codeOf line) := by
  rw [uncommented_iff, glyphs_codeOf]
  intro glyph member
  simpa using List.mem_takeWhile_imp member

theorem isCodeOf_codeOf (line : List Char) : IsCodeOf line (codeOf line) := by
  refine ⟨uncommented_codeOf line, ?_⟩
  have parts := (List.takeWhile_append_dropWhile (p := fun glyph => !glyph.isMark '#')
    (l := glyphs false line)).symm
  rw [← withoutComment, ← glyphs_codeOf] at parts
  obtain ⟨code, rest, rfl, same, behind⟩ := glyphs_eq_append_iff.mp parts
  have code_eq : codeOf (code ++ rest) = code := by
    have chars := congrArg (List.map Glyph.char) same
    rw [map_char_glyphs, map_char_glyphs] at chars
    exact chars.symm
  have stopped := List.head?_dropWhile_not (fun glyph => !glyph.isMark '#')
    (glyphs false (code ++ rest))
  rw [← behind] at stopped
  rw [code_eq]
  cases rest with
  | nil => exact .inl (List.append_nil code)
  | cons c comment =>
      right
      by_cases quote : c = '"'
      · simp [glyphs, quote, Glyph.isMark] at stopped
      · simp only [glyphs, if_neg quote, List.head?_cons, Glyph.isMark, Bool.not_eq_false',
          Bool.and_eq_true, Bool.not_eq_true', beq_iff_eq] at stopped
        exact ⟨closed_of_quotedAfter stopped.1, comment, by rw [stopped.2]⟩

theorem codeOf_eq_iff {line code : List Char} : codeOf line = code ↔ IsCodeOf line code := by
  constructor
  · rintro rfl
    exact isCodeOf_codeOf line
  · rintro ⟨uncommented, rfl | ⟨closed, comment, rfl⟩⟩
    · rw [codeOf, withoutComment_eq_self uncommented, map_char_glyphs]
    · have nothing : withoutComment ('#' :: comment) = [] := by
        simp [withoutComment, glyphs, Glyph.isMark]
      rw [codeOf, withoutComment_append uncommented closed, nothing, List.append_nil,
        map_char_glyphs]

theorem forall₂_isCodeOf_iff {lines codes : List (List Char)} :
    List.Forall₂ IsCodeOf lines codes ↔ lines.map codeOf = codes := by
  rw [← List.forall₂_eq_eq_eq, List.forall₂_map_left_iff]
  simp only [codeOf_eq_iff]

end EventWiki.Script
