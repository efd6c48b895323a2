import EventWiki.Proofs.CutPieces

namespace EventWiki.Script

/-! A closing brace is a piece of its own, an opening brace ends its piece, and the line behind a
brace is cut as if nothing stood before it. -/

namespace Glyph

def isBrace (glyph : Glyph) : Bool :=
  glyph.isMark '{' || glyph.isMark '}'

def opening : Glyph := ⟨'{', false⟩

def closing : Glyph := ⟨'}', false⟩

theorem isMark_iff {mark : Char} {glyph : Glyph} :
    glyph.isMark mark = true ↔ glyph = ⟨mark, false⟩ := by
  cases glyph
  simp [isMark, and_comm]

theorem isBrace_iff {glyph : Glyph} :
    glyph.isBrace = true ↔ glyph = opening ∨ glyph = closing := by
  rw [isBrace, Bool.or_eq_true, isMark_iff, isMark_iff]
  rfl

end Glyph

open Glyph (opening closing)

theorem stops_brace {brace : Glyph} (is_brace : brace.isBrace = true) (rest : List Glyph) :
    Stops (brace :: rest) := by
  have quiet : brace.isGap = false ∧ brace.isKey = false ∧ brace.isComparison = false := by
    rcases Glyph.isBrace_iff.mp is_brace with rfl | rfl <;> decide
  rw [Stops, List.dropWhile_cons_of_neg (by simp [quiet.1])]
  rintro _ ⟨⟩
  exact quiet.2

theorem endsBefore_brace {brace : Glyph} (is_brace : brace.isBrace = true) (rest : List Glyph) :
    endsBefore brace rest = true := by
  rw [Glyph.isBrace, Bool.or_eq_true] at is_brace
  rcases is_brace with opens | closes
  · simp [endsBefore, opens]
  · simp [endsBefore, closes]

theorem endsBefore_closing (glyph : Glyph) (rest : List Glyph) :
    endsBefore glyph (closing :: rest) = true := by
  simp [endsBefore, closing, Glyph.isMark]

theorem cut_cons_of_ends {glyph : Glyph} {rest : List Glyph}
    (ends : endsBefore glyph rest = true) : cut (glyph :: rest) = [glyph] :: cut rest := by
  rw [cut, if_pos ends]

theorem cut_cons_of_runs {glyph : Glyph} {rest : List Glyph}
    (runs : endsBefore glyph rest = false) : cut (glyph :: rest) = consHead glyph (cut rest) := by
  rw [cut, if_neg (by simp [runs])]

@[simp] theorem cut_singleton (glyph : Glyph) : cut [glyph] = [[glyph]] := by
  rw [cut]
  split <;> rfl

theorem consHead_append {α : Type} (head : α) {left : List (List α)} (filled : left ≠ [])
    (right : List (List α)) : consHead head (left ++ right) = consHead head left ++ right := by
  cases left with
  | nil => contradiction
  | cons piece left => rfl

theorem cut_cons_append {glyph : Glyph} {line longer : List Glyph} {behind : List (List Glyph)}
    (filled : line ≠ []) (same : endsBefore glyph longer = endsBefore glyph line)
    (parts : cut longer = cut line ++ behind) :
    cut (glyph :: longer) = cut (glyph :: line) ++ behind := by
  cases ends : endsBefore glyph line with
  | true =>
      rw [cut_cons_of_ends ends, cut_cons_of_ends (same.trans ends), parts, List.cons_append]
  | false =>
      rw [cut_cons_of_runs ends, cut_cons_of_runs (same.trans ends), parts]
      exact consHead_append glyph (by rwa [ne_eq, cut_eq_nil_iff]) behind

theorem cut_append_brace (line : List Glyph) {brace : Glyph} (is_brace : brace.isBrace = true)
    (rest : List Glyph) : cut (line ++ brace :: rest) = cut (line ++ [brace]) ++ cut rest := by
  induction line with
  | nil =>
      rw [List.nil_append, List.nil_append, cut_cons_of_ends (endsBefore_brace is_brace rest),
        cut_singleton, List.singleton_append]
  | cons glyph line ih =>
      refine cut_cons_append (by simp) ?_ ih
      cases line with
      | nil =>
          have quiet : ∀ behind, startsStatement (brace :: behind) = false :=
            fun behind => startsStatement_append [] (stops_brace is_brace behind)
          simp [endsBefore, quiet]
      | cons next line =>
          have filled := List.cons_ne_nil next line
          exact (endsBefore_append glyph filled (stops_brace is_brace rest)).trans
            (endsBefore_append glyph filled (stops_brace is_brace [])).symm

theorem cut_append_closing (line rest : List Glyph) :
    cut (line ++ closing :: rest) = cut line ++ cut (closing :: rest) := by
  induction line with
  | nil => rfl
  | cons glyph line ih =>
      cases line with
      | nil =>
          rw [List.singleton_append, cut_cons_of_ends (endsBefore_closing glyph rest),
            cut_singleton, List.singleton_append]
      | cons next line =>
          refine cut_cons_append (List.cons_ne_nil next line) ?_ ih
          exact endsBefore_append glyph (List.cons_ne_nil next line) (stops_brace rfl rest)

theorem endsBefore_of_stops (glyph : Glyph) {rest : List Glyph} (stops : Stops rest)
    (open_end : rest.head?.any (Glyph.isMark '}') = false) :
    endsBefore glyph rest = glyph.isBrace := by
  have quiet : startsStatement rest = false := startsStatement_append [] stops
  rw [endsBefore, open_end, quiet, Bool.and_false, Bool.or_false, Bool.or_false]
  rfl

/-- A glyph that nothing follows joins the last piece of a line, unless that one ends in a brace. -/
inductive Joins (line : List Glyph) (glyph : Glyph) : Prop where
  | apart (cut_eq : cut (line ++ [glyph]) = cut line ++ [[glyph]])
  | joined (pieces : List (List Glyph)) (front : List Glyph) (last : Glyph)
      (no_brace : last.isBrace = false) (cut_line : cut line = pieces ++ [front ++ [last]])
      (cut_eq : cut (line ++ [glyph]) = pieces ++ [front ++ [last, glyph]])

theorem Joins.cons {line : List Glyph} {first glyph : Glyph} (filled : line ≠ [])
    (same : endsBefore first (line ++ [glyph]) = endsBefore first line)
    (joins : Joins line glyph) : Joins (first :: line) glyph := by
  cases joins with
  | apart cut_eq => exact .apart (cut_cons_append filled same cut_eq)
  | joined pieces front last no_brace cut_line cut_eq =>
      cases ends : endsBefore first line with
      | true =>
          refine .joined ([first] :: pieces) front last no_brace ?_ ?_
          · rw [cut_cons_of_ends ends, cut_line, List.cons_append]
          · rw [List.cons_append, cut_cons_of_ends (same.trans ends), cut_eq, List.cons_append]
      | false =>
          have shorter := cut_cons_of_runs ends
          have longer := cut_cons_of_runs (same.trans ends)
          rw [cut_line] at shorter
          rw [cut_eq] at longer
          cases pieces with
          | nil => exact .joined [] (first :: front) last no_brace shorter longer
          | cons piece pieces =>
              exact .joined ((first :: piece) :: pieces) front last no_brace shorter longer

theorem joins_of_stops (line : List Glyph) {glyph : Glyph} (stops : Stops [glyph])
    (no_closing : glyph.isMark '}' = false) : Joins line glyph := by
  -- Only the last glyph of the line can tell that another one follows it.
  induction line with
  | nil => exact .apart (by simp [cut])
  | cons first line ih =>
      cases line with
      | nil =>
          have ends_iff : endsBefore first [glyph] = first.isBrace :=
            endsBefore_of_stops first stops (by simpa using no_closing)
          cases brace : first.isBrace with
          | true => exact .apart (by simp [cut_cons_of_ends (ends_iff.trans brace)])
          | false =>
              refine .joined [] [] first brace (by simp) ?_
              rw [List.singleton_append, cut_cons_of_runs (ends_iff.trans brace), cut_singleton]
              rfl
      | cons next line =>
          exact ih.cons (List.cons_ne_nil next line)
            (endsBefore_append first (List.cons_ne_nil next line) stops)

inductive Shape (piece : List Glyph) : Prop where
  | closing (piece_eq : piece = [closing])
  | opening (front : List Glyph) (piece_eq : piece = front ++ [opening])
      (no_brace : ∀ glyph ∈ front, glyph.isBrace = false)
  | plain (no_brace : ∀ glyph ∈ piece, glyph.isBrace = false)

theorem Whole.shape {piece : List Glyph} (whole : Whole piece) : Shape piece := by
  induction piece with
  | nil => exact .plain (by simp)
  | cons glyph rest ih =>
      cases rest with
      | nil =>
          cases brace : glyph.isBrace with
          | false => exact .plain (by simpa using brace)
          | true =>
              rcases Glyph.isBrace_iff.mp brace with rfl | rfl
              · exact .opening [] rfl (by simp)
              · exact .closing rfl
      | cons next rest =>
          have runs := whole.1 (List.cons_ne_nil next rest)
          have no_brace : glyph.isBrace = false := by
            rw [← Bool.not_eq_true]
            intro brace
            rw [endsBefore_brace brace] at runs
            contradiction
          cases ih whole.2 with
          | closing rest_eq =>
              rw [rest_eq, endsBefore_closing] at runs
              contradiction
          | opening front rest_eq front_plain =>
              rw [rest_eq]
              exact .opening (glyph :: front) rfl (List.forall_mem_cons.mpr ⟨no_brace, front_plain⟩)
          | plain rest_plain => exact .plain (List.forall_mem_cons.mpr ⟨no_brace, rest_plain⟩)

theorem Whole.plain_of_last {front : List Glyph} {last : Glyph} (whole : Whole (front ++ [last]))
    (no_brace : last.isBrace = false) : ∀ glyph ∈ front ++ [last], glyph.isBrace = false := by
  have other : ∀ before brace, brace.isBrace = true → front ++ [last] ≠ before ++ [brace] := by
    intro before brace is_brace same
    obtain ⟨_, same_last⟩ := List.append_inj' same rfl
    rw [List.singleton_inj.mp same_last, is_brace] at no_brace
    contradiction
  cases whole.shape with
  | closing piece_eq => exact absurd piece_eq (other [] closing rfl)
  | opening before piece_eq => exact absurd piece_eq (other before opening rfl)
  | plain all_plain => exact all_plain

def textsOf (pieces : List (List Glyph)) : List (List Char) :=
  (pieces.map fun piece => Text.trim (piece.map Glyph.char)).filter (!·.isEmpty)

theorem statementsOf_eq_textsOf (line : List Glyph) : statementsOf line = textsOf (cut line) := rfl

@[simp] theorem textsOf_append (left right : List (List Glyph)) :
    textsOf (left ++ right) = textsOf left ++ textsOf right := by
  simp [textsOf]

theorem statementsOf_append_brace (line : List Glyph) {brace : Glyph}
    (is_brace : brace.isBrace = true) (rest : List Glyph) :
    statementsOf (line ++ brace :: rest) = statementsOf (line ++ [brace]) ++ statementsOf rest := by
  simp only [statementsOf_eq_textsOf]
  rw [cut_append_brace line is_brace, textsOf_append]

theorem statementsOf_append_closing (line rest : List Glyph) :
    statementsOf (line ++ closing :: rest) =
      statementsOf line ++ statementsOf (closing :: rest) := by
  simp only [statementsOf_eq_textsOf]
  rw [cut_append_closing, textsOf_append]

theorem textsOf_singleton (piece : List Glyph) :
    textsOf [piece] = if Text.trim (piece.map Glyph.char) = [] then []
      else [Text.trim (piece.map Glyph.char)] := by
  rw [textsOf, List.map_singleton]
  split <;> simp [*]

theorem CutInto.statements_eq {line : List Char} {texts : List (List Char)}
    (cut_into : CutInto (codeOf line) texts) :
    statements line = (texts.map Text.trim).filter (!·.isEmpty) := by
  rw [EventWiki.Script.statements_eq, ← glyphs_codeOf, statementsOf_eq_textsOf, cut_into.cut_eq,
    textsOf, List.map_map]
  congr 1
  refine List.map_congr_left fun text _ => ?_
  rw [Function.comp_apply, map_char_glyphs]

theorem CutInto.exists_of_mem_statements {line statement : List Char} {texts : List (List Char)}
    (cut_into : CutInto (codeOf line) texts) (member : statement ∈ statements line) :
    ∃ text ∈ texts, Text.trim text = statement ∧ statement ≠ [] := by
  rw [cut_into.statements_eq, List.mem_filter, List.mem_map] at member
  obtain ⟨⟨text, text_member, same⟩, filled⟩ := member
  exact ⟨text, text_member, same, by simpa using filled⟩

theorem trim_of_mem_statements {line statement : List Char}
    (member : statement ∈ statements line) : Text.trim statement = statement := by
  obtain ⟨texts, cut_into⟩ := exists_cutInto (codeOf line)
  obtain ⟨text, _, rfl, _⟩ := cut_into.exists_of_mem_statements member
  exact Text.trim_trim text

theorem exists_text_of_mem_cut {code : List Char} {piece : List Glyph} (closed : Closed code)
    (member : piece ∈ cut (glyphs false code)) :
    ∃ text, glyphs false text = piece ∧ Closed text ∧ Whole piece := by
  obtain ⟨texts, cut_into⟩ := exists_cutInto code
  rw [cut_into.cut_eq] at member
  obtain ⟨text, text_member, rfl⟩ := List.mem_map.mp member
  exact ⟨text, rfl, cut_into.closed closed text text_member, cut_into.whole text text_member⟩

theorem mem_glyphs_of_last {text : List Char} (closed : Closed text) {c : Char}
    (last : c ∈ (Text.trim text).getLast?) : ⟨c, false⟩ ∈ glyphs false text := by
  obtain ⟨lead, tail, parts, _, tail_blank⟩ := Text.trim_parts text
  obtain ⟨front, trimmed⟩ := List.getLast?_eq_some_iff.mp last
  have tail_closed : Closed tail := closed_of_blank tail_blank
  rw [trimmed, ← List.append_assoc, ← List.append_assoc] at parts
  rw [parts, closed_append_iff_left tail_closed] at closed
  rw [parts, glyphs_append_of_closed closed, glyphs_append, glyphs_singleton]
  suffices unquoted : (quotedAfter false (lead ++ front) && c != '"') = false by simp [unquoted]
  by_cases quote : c = '"'
  · simp [quote]
  · rw [closed_append_iff_left (closed_of_not_mem (by simpa using Ne.symm quote))] at closed
    rw [quotedAfter_of_closed closed, Bool.false_and]

theorem takesBrace_of_plain {text : List Char} (closed : Closed text)
    (plain : ∀ glyph ∈ glyphs false text, glyph.isBrace = false) :
    takesBrace (Text.trim text) = true := by
  have no_brace : ∀ mark, Glyph.isBrace ⟨mark, false⟩ = true →
      (Text.trim text).getLast? ≠ some mark := by
    intro mark brace last
    rw [plain _ (mem_glyphs_of_last closed last)] at brace
    contradiction
  simp only [takesBrace, Bool.and_eq_true, bne_iff_ne]
  refine ⟨no_brace '{' rfl, fun alone => no_brace '}' rfl ?_⟩
  rw [alone]
  rfl

theorem withoutComment_cons_brace {brace : Char}
    (is_brace : Glyph.isBrace ⟨brace, false⟩ = true) (rest : List Char) :
    withoutComment (brace :: rest) = ⟨brace, false⟩ :: withoutComment rest := by
  rcases Glyph.isBrace_iff.mp is_brace with same | same <;> cases same <;> rfl

section

variable {code : List Char} (uncommented : Uncommented code) (closed : Closed code)
include uncommented closed

theorem statements_append_brace {brace : Char} (is_brace : Glyph.isBrace ⟨brace, false⟩ = true)
    (rest : List Char) :
    statements (code ++ brace :: rest) = statements (code ++ [brace]) ++ statements rest := by
  simp only [statements_eq]
  rw [withoutComment_append uncommented closed, withoutComment_append uncommented closed,
    withoutComment_cons_brace is_brace, withoutComment_cons_brace is_brace,
    statementsOf_append_brace _ is_brace]
  rfl

theorem statements_append_closing (rest : List Char) :
    statements (code ++ '}' :: rest) = statements code ++ statements ('}' :: rest) := by
  simp only [statements_eq]
  rw [withoutComment_append uncommented closed, withoutComment_eq_self uncommented,
    withoutComment_cons_brace rfl]
  exact statementsOf_append_closing _ _

theorem statements_append_opening :
    statements (code ++ ['{']) = statements code ++ [['{']] ∨
      ∃ front text, Text.trim text ≠ [] ∧ takesBrace (Text.trim text) = true ∧
        statements code = front ++ [Text.trim text] ∧
        statements (code ++ ['{']) = front ++ [text ++ ['{']] := by
  have ended : withoutComment (code ++ ['{']) = glyphs false code ++ [opening] := by
    rw [withoutComment_append uncommented closed, withoutComment_cons_brace rfl]
    rfl
  have joins : Joins (glyphs false code) opening := joins_of_stops _ (stops_brace rfl []) rfl
  rw [statements_eq, statements_eq, ended, withoutComment_eq_self uncommented,
    statementsOf_eq_textsOf, statementsOf_eq_textsOf]
  cases joins with
  | apart cut_eq =>
      left
      rw [cut_eq, textsOf_append]
      rfl
  | joined pieces front last no_brace cut_line cut_eq =>
      have member : front ++ [last] ∈ cut (glyphs false code) := by simp [cut_line]
      obtain ⟨text, read, text_closed, whole⟩ := exists_text_of_mem_cut closed member
      have plain := whole.plain_of_last no_brace
      rw [← read] at plain
      have takes := takesBrace_of_plain text_closed plain
      have ends : Text.trim ((front ++ [last, opening]).map Glyph.char) =
          text.dropWhile Text.isBlank ++ ['{'] := by
        rw [List.append_cons, List.map_append, ← read, map_char_glyphs]
        exact Text.trim_concat_of_not_blank (by decide) text
      rw [cut_eq, cut_line, textsOf_append, textsOf_append, textsOf_singleton, textsOf_singleton,
        ends, ← read, map_char_glyphs, if_neg (by simp)]
      by_cases empty : Text.trim text = []
      · left
        rw [if_pos empty, List.dropWhile_eq_nil_iff.mpr (Text.trim_eq_nil_iff.mp empty)]
        simp
      · right
        refine ⟨textsOf pieces, text.dropWhile Text.isBlank, ?_, ?_, ?_, rfl⟩
        · rwa [Text.trim_dropWhile]
        · rwa [Text.trim_dropWhile]
        · rw [if_neg empty, Text.trim_dropWhile]

end

theorem statementsOf_concat_of_blank (line : List Glyph) {gap : Glyph}
    (blank : Text.isBlank gap.char = true) : statementsOf (line ++ [gap]) = statementsOf line := by
  have quiet : gap.isKey = false ∧ gap.isComparison = false := by
    constructor
    all_goals
      rw [← Bool.not_eq_true]
      intro sign
    · simp [Glyph.isBlank_of_isKey sign] at blank
    · simp [Glyph.isBlank_of_isComparison sign] at blank
  have stops : Stops [gap] := stops_of_forall (by simpa using quiet)
  have no_closing : gap.isMark '}' = false := by
    rw [← Bool.not_eq_true, Glyph.isMark_iff]
    rintro rfl
    exact absurd blank (by decide)
  have joins := joins_of_stops line stops no_closing
  rw [statementsOf_eq_textsOf, statementsOf_eq_textsOf]
  cases joins with
  | apart cut_eq =>
      have empty : Text.trim [gap.char] = [] := Text.trim_cons_of_blank blank []
      rw [cut_eq, textsOf_append, textsOf_singleton, List.map_singleton, if_pos empty,
        List.append_nil]
  | joined pieces front last no_brace cut_line cut_eq =>
      rw [cut_eq, cut_line, textsOf_append, textsOf_append, textsOf_singleton, textsOf_singleton,
        List.append_cons, List.map_append, List.map_singleton, Text.trim_concat_of_blank blank]

theorem statements_concat_of_blank (line : List Char) {c : Char}
    (blank : Text.isBlank c = true) : statements (line ++ [c]) = statements line := by
  rw [statements_eq, statements_eq, withoutComment, withoutComment, glyphs_append,
    glyphs_singleton, List.takeWhile_append]
  split
  · next passed =>
      rw [(List.takeWhile_prefix _).eq_of_length passed, List.takeWhile_cons_of_pos,
        List.takeWhile_nil]
      · exact statementsOf_concat_of_blank _ blank
      · rw [Bool.not_eq_true', ← Bool.not_eq_true, Glyph.isMark_iff]
        intro same
        obtain rfl := congrArg Glyph.char same
        exact absurd blank (by decide)
  · rfl

end EventWiki.Script
