import EventWiki.Proofs.LineVerdict
import EventWiki.Script.Span

namespace EventWiki.Script

variable {lines : List String} {error : ScriptError} {span : Span} {text : String}

/-- Both ends of a span stand between characters of a text. -/
structure Span.LiesIn (span : Span) (text : String) : Prop where
  inside : span.offset + span.length ≤ text.utf8ByteSize
  starts : (String.Pos.Raw.mk span.offset).IsValid text
  ends : (String.Pos.Raw.mk (span.offset + span.length)).IsValid text

structure Span.Covers (span : Span) (text before covered : String) : Prop where
  offset_eq : span.offset = before.utf8ByteSize
  length_eq : span.length = covered.utf8ByteSize
  text_eq : ∃ behind, text = before ++ covered ++ behind

theorem Span.Covers.liesIn {before covered : String} (covers : span.Covers text before covered) :
    span.LiesIn text := by
  obtain ⟨offset_eq, length_eq, behind, text_eq⟩ := covers
  have stop_eq : span.offset + span.length = (before ++ covered).utf8ByteSize := by
    rw [offset_eq, length_eq, String.utf8ByteSize_append]
  refine ⟨?_, ?_, ?_⟩
  · rw [stop_eq, text_eq, String.utf8ByteSize_append (t := behind)]
    exact Nat.le_add_right ..
  · rw [offset_eq, String.Pos.Raw.isValid_iff_exists_append]
    exact ⟨before, covered ++ behind, text_eq.trans (String.append_assoc ..), rfl⟩
  · rw [stop_eq, String.Pos.Raw.isValid_iff_exists_append]
    exact ⟨before ++ covered, behind, text_eq, rfl⟩

def endedLines (lines : List String) : String :=
  String.join (lines.map (· ++ "\n"))

theorem endedLines_cons (line : String) (rest : List String) :
    endedLines (line :: rest) = line ++ "\n" ++ endedLines rest := by
  rw [endedLines, List.map_cons, String.join_cons, endedLines]

theorem intercalate_append_cons (front : List String) (line : String) (rest : List String) :
    "\n".intercalate (front ++ line :: rest) =
      endedLines front ++ "\n".intercalate (line :: rest) := by
  induction front with
  | nil => simp [endedLines]
  | cons first front ih =>
      rw [List.cons_append, String.intercalate_cons_of_ne_nil (by simp), ih, endedLines_cons]
      simp only [String.append_assoc]

theorem utf8ByteSize_endedLines (lines : List String) :
    (endedLines lines).utf8ByteSize =
      lines.foldr (fun text size => text.utf8ByteSize + 1 + size) 0 := by
  induction lines with
  | nil => rfl
  | cons line rest ih =>
      rw [endedLines_cons, String.utf8ByteSize_append, String.utf8ByteSize_append, ih,
        List.foldr_cons]
      rfl

theorem joinedSize_cons_cons (line next : String) (rest : List String) :
    joinedSize (line :: next :: rest) = line.utf8ByteSize + 1 + joinedSize (next :: rest) := by
  have shift (lines : List String) (count : Nat) :
      lines.foldr (fun text size => text.utf8ByteSize + size) (count + 1) =
        1 + lines.foldr (fun text size => text.utf8ByteSize + size) count := by
    induction lines with
    | nil => exact Nat.add_comm ..
    | cons line rest ih =>
        rw [List.foldr_cons, List.foldr_cons, ih]
        omega
  rw [joinedSize, List.foldr_cons, joinedSize, Nat.add_assoc, ← shift]
  rfl

theorem joinedSize_eq (lines : List String) :
    joinedSize lines = ("\n".intercalate lines).utf8ByteSize := by
  induction lines with
  | nil => rfl
  | cons line rest ih =>
      cases rest with
      | nil => simp [joinedSize]
      | cons next rest =>
          rw [String.intercalate_cons_cons, String.utf8ByteSize_append,
            String.utf8ByteSize_append, ← ih, joinedSize_cons_cons]
          rfl

theorem Span.ofLine_eq {position : Nat} {line : String} (found : lines[position]? = some line) :
    ∃ rest, "\n".intercalate lines =
        endedLines (lines.take position) ++ "\n".intercalate (line :: rest) ∧
      Span.ofLine lines (position + 1) = ⟨(endedLines (lines.take position)).utf8ByteSize,
        min (max line.utf8ByteSize 1) ("\n".intercalate (line :: rest)).utf8ByteSize⟩ := by
  obtain ⟨bound, line_eq⟩ := List.getElem?_eq_some_iff.mp found
  have parted : lines = lines.take position ++ line :: lines.drop (position + 1) := by
    rw [← line_eq, List.getElem_cons_drop, List.take_append_drop]
  have text_eq : "\n".intercalate lines = endedLines (lines.take position) ++
      "\n".intercalate (line :: lines.drop (position + 1)) := by
    conv_lhs => rw [parted, intercalate_append_cons]
  refine ⟨lines.drop (position + 1), text_eq, ?_⟩
  have number : max (position + 1) 1 - 1 = position := by omega
  simp only [Span.ofLine, number, found, Option.map_some, Option.getD_some, joinedSize_eq,
    text_eq, String.utf8ByteSize_append, ← utf8ByteSize_endedLines]
  congr 2 <;> omega

/-- The span of a line covers it, or the line feed behind it if nothing stands on it. -/
theorem Span.covers_ofLine {position : Nat} {line : String}
    (found : lines[position]? = some line) : ∃ covered,
      (Span.ofLine lines (position + 1)).Covers ("\n".intercalate lines)
        (endedLines (lines.take position)) covered ∧ (line ≠ "" → covered = line) := by
  obtain ⟨rest, text_eq, span_eq⟩ := ofLine_eq found
  rw [span_eq, text_eq]
  by_cases empty : line = ""
  · subst empty
    cases rest with
    | nil => exact ⟨"", ⟨rfl, rfl, "", by simp⟩, by simp⟩
    | cons next rest =>
        rw [String.intercalate_cons_cons, String.empty_append]
        refine ⟨"\n", ⟨rfl, ?_, "\n".intercalate (next :: rest), ?_⟩, by simp⟩
        · rw [String.utf8ByteSize_append]
          exact Nat.min_eq_left (Nat.le_add_right ..)
        · rw [String.append_assoc]
  · have filled : 1 ≤ line.utf8ByteSize := by
      rwa [Nat.one_le_iff_ne_zero, ne_eq, String.utf8ByteSize_eq_zero_iff]
    obtain ⟨behind, tail_eq⟩ : ∃ behind, "\n".intercalate (line :: rest) = line ++ behind := by
      cases rest with
      | nil => exact ⟨"", by simp⟩
      | cons next rest => exact ⟨_, (String.intercalate_cons_cons ..).trans (String.append_assoc ..)⟩
    refine ⟨line, ⟨rfl, ?_, behind, ?_⟩, fun _ => rfl⟩
    · rw [tail_eq, String.utf8ByteSize_append, Nat.max_eq_left filled,
        Nat.min_eq_left (Nat.le_add_right ..)]
    · rw [tail_eq, String.append_assoc]

theorem exists_line_of_error (failed : outline lines = .error error) :
    ∃ position line, lines[position]? = some line ∧ error.line = position + 1 := by
  rcases balanced_or_faulty lines with balanced | ⟨other, first | unclosed⟩
  · obtain ⟨result, accepted⟩ := outline_of_balanced balanced
    rw [accepted] at failed
    contradiction
  · rw [outline_of_firstFault first] at failed
    obtain rfl := Except.error.inj failed
    obtain ⟨position, fault, _⟩ := first
    obtain ⟨line, found, fault⟩ := Option.bind_eq_some_iff.mp fault
    have bound := (List.getElem?_eq_some_iff.mp found).1
    refine ⟨position, line, found, ?_⟩
    rcases lineFault?_cases fault with ⟨_, _, rfl⟩ | rfl | ⟨text, rfl⟩ <;>
      simp only [ScriptError.line, List.length_take] <;> omega
  · rw [outline_of_unclosed unclosed] at failed
    obtain rfl := Except.error.inj failed
    obtain ⟨_, position, line, _, _, _, found, _, _, rfl⟩ := unclosed
    exact ⟨position, line, found, rfl⟩

/-- An error names a line, its span lies in the joined lines, and on a line that is not empty the
span covers the line. -/
theorem span_of_error (failed : outline lines = .error error) :
    (1 ≤ error.line ∧ error.line ≤ lines.length) ∧
      (Report.ofError lines error).span.LiesIn ("\n".intercalate lines) ∧
      ∃ line, lines[error.line - 1]? = some line ∧
        (line ≠ "" → (Report.ofError lines error).span.Covers ("\n".intercalate lines)
          (endedLines (lines.take (error.line - 1))) line) := by
  obtain ⟨position, line, found, line_eq⟩ := exists_line_of_error failed
  have bound := (List.getElem?_eq_some_iff.mp found).1
  obtain ⟨covered, covers, whole⟩ := Span.covers_ofLine found
  rw [Report.ofError, line_eq, Nat.add_sub_cancel]
  refine ⟨by omega, covers.liesIn, line, found, fun filled => ?_⟩
  rw [← whole filled]
  exact covers

def brokenLines : List String :=
  ["größe = \x7b", "= größer", "\x7d"]

theorem span_of_brokenLines :
    outline brokenLines = .error (.malformedStatement 2 "= größer") ∧
      (Report.ofError brokenLines (.malformedStatement 2 "= größer")).span = ⟨12, 10⟩ ∧
      (Span.mk 12 10).Covers ("\n".intercalate brokenLines) "größe = \x7b\n" "= größer" := by
  have failed : outline brokenLines = .error (.malformedStatement 2 "= größer") := by
    decide +kernel
  have span_eq : (Report.ofError brokenLines (.malformedStatement 2 "= größer")).span =
      ⟨12, 10⟩ := by
    decide +kernel
  have before_eq : endedLines (brokenLines.take 1) = "größe = \x7b\n" := by decide +kernel
  obtain ⟨_, _, line, found, covers⟩ := span_of_error failed
  obtain rfl : "= größer" = line := Option.some.inj found
  have covers := covers (by decide)
  rw [span_eq] at covers
  exact ⟨failed, span_eq, before_eq ▸ covers⟩

end EventWiki.Script
