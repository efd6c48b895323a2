import EventWiki.Proofs.PlainText

namespace EventWiki.Text

variable {separator : Char}

theorem splitAt_cons_of_ne {c : Char} (other : c ≠ separator) {cs piece : List Char}
    {rest : List (List Char)} (pieces : splitAt separator cs = piece :: rest) :
    splitAt separator (c :: cs) = (c :: piece) :: rest := by
  simp only [splitAt] at pieces
  simp [splitAt, other, pieces]

theorem splitAt_append_cons (left right : List Char) :
    splitAt separator (left ++ separator :: right) =
      splitAt separator left ++ splitAt separator right := by
  induction left with
  | nil => simp
  | cons c left ih =>
      rw [List.cons_append]
      by_cases same : c = separator
      · subst same
        simp [ih]
      · obtain ⟨piece, rest, pieces⟩ := List.exists_cons_of_ne_nil (splitAt_ne_nil separator left)
        rw [pieces, List.cons_append] at ih
        rw [splitAt_cons_of_ne same ih, splitAt_cons_of_ne same pieces, List.cons_append]

theorem not_mem_of_mem_splitAt {cs line : List Char} (member : line ∈ splitAt separator cs) :
    separator ∉ line := by
  induction cs generalizing line with
  | nil =>
      obtain rfl : line = [] := by simpa using member
      exact List.not_mem_nil
  | cons c cs ih =>
      by_cases same : c = separator
      · subst same
        rw [splitAt_cons_self] at member
        rcases List.mem_cons.mp member with rfl | member
        · exact List.not_mem_nil
        · exact ih member
      · obtain ⟨piece, rest, pieces⟩ := List.exists_cons_of_ne_nil (splitAt_ne_nil separator cs)
        rw [splitAt_cons_of_ne same pieces] at member
        rw [pieces] at ih
        rcases List.mem_cons.mp member with rfl | member
        · rw [List.mem_cons, not_or]
          exact ⟨Ne.symm same, ih List.mem_cons_self⟩
        · exact ih (List.mem_cons_of_mem piece member)

theorem mem_of_mem_dropReturn {line : List Char} {c : Char} (member : c ∈ dropReturn line) :
    c ∈ line := by
  unfold dropReturn at member
  split at member
  · exact List.mem_of_mem_dropLast member
  · exact member

theorem exists_of_mem_endLines {pieces : List (List Char)} {line : List Char}
    (member : line ∈ endLines pieces) : ∃ piece ∈ pieces, ∀ c ∈ line, c ∈ piece := by
  induction pieces using endLines.induct with
  | case1 => simp [endLines] at member
  | case2 last empty => simp [endLines, empty] at member
  | case3 last filled =>
      obtain rfl : line = last := by simpa [endLines, filled] using member
      exact ⟨line, by simp, fun _ => id⟩
  | case4 piece rest more ih =>
      rw [endLines] at member
      · rcases List.mem_cons.mp member with rfl | member
        · exact ⟨piece, by simp, fun _ => mem_of_mem_dropReturn⟩
        · obtain ⟨other, otherMember, inside⟩ := ih member
          exact ⟨other, List.mem_cons_of_mem piece otherMember, inside⟩
      · exact more

theorem not_mem_of_mem_lines {cs line : List Char} (member : line ∈ lines cs) : '\n' ∉ line := by
  obtain ⟨piece, pieceMember, inside⟩ := exists_of_mem_endLines member
  exact fun line_break => not_mem_of_mem_splitAt pieceMember (inside _ line_break)

theorem splitAt_intercalate {line : List Char} {rest : List (List Char)}
    (single : ∀ other ∈ line :: rest, separator ∉ other) :
    splitAt separator ([separator].intercalate (line :: rest)) = line :: rest := by
  induction rest generalizing line with
  | nil => simpa [List.intercalate] using splitAt_of_not_mem (single line List.mem_cons_self)
  | cons next rest ih =>
      rw [List.forall_mem_cons] at single
      rw [List.intercalate_cons_cons, List.append_assoc, List.singleton_append,
        splitAt_append_cons, splitAt_of_not_mem single.1, ih single.2, List.singleton_append]

theorem endLines_eq_self {pieces : List (List Char)}
    (complete : ∀ line ∈ pieces, line ≠ [] ∧ line.getLast? ≠ some '\r') :
    endLines pieces = pieces := by
  induction pieces using endLines.induct with
  | case1 => rfl
  | case2 last empty =>
      exact absurd (List.isEmpty_iff.mp empty) (complete last List.mem_cons_self).1
  | case3 last filled => simp [endLines, filled]
  | case4 piece rest more ih =>
      rw [List.forall_mem_cons] at complete
      have kept : dropReturn piece = piece := by
        unfold dropReturn
        split
        · next ends => exact absurd ends complete.1.2
        · rfl
      rw [endLines, kept, ih complete.2]
      exact more

theorem lines_intercalate {texts : List (List Char)}
    (complete : ∀ line ∈ texts, line ≠ [] ∧ line.getLast? ≠ some '\r')
    (single : ∀ line ∈ texts, '\n' ∉ line) : lines (['\n'].intercalate texts) = texts := by
  cases texts with
  | nil => rfl
  | cons line rest => rw [lines, splitAt_intercalate single, endLines_eq_self complete]

theorem lines_append_feed {line : List Char} (single : '\n' ∉ line) (rest : List Char) :
    lines (line ++ '\n' :: rest) = dropReturn line :: lines rest := by
  rw [lines, splitAt_append_cons, splitAt_of_not_mem single, List.singleton_append, endLines,
    ← lines]
  exact splitAt_ne_nil _ _

theorem flatMap_lines {β : Type} {f : List Char → List β} (empty : f [] = [])
    (unreturned : ∀ line, f (dropReturn line) = f line) (cs : List Char) :
    (lines cs).flatMap f = (splitAt '\n' cs).flatMap f := by
  rw [lines]
  induction splitAt '\n' cs using endLines.induct with
  | case1 => rfl
  | case2 last none =>
      obtain rfl := List.isEmpty_iff.mp none
      simp [endLines, empty]
  | case3 last filled => simp [endLines, filled]
  | case4 piece rest more ih =>
      rw [endLines, List.flatMap_cons, unreturned, ih, List.flatMap_cons]
      exact more

def lastLine (cs : List Char) : List Char :=
  cs.rtakeWhile (· != '\n')

theorem not_mem_lastLine (cs : List Char) : '\n' ∉ lastLine cs := by
  intro line_break
  simpa using List.mem_rtakeWhile_imp line_break

theorem splitAt_lastLine (cs : List Char) : ∃ earlier, ∀ rest,
    splitAt '\n' (cs ++ rest) = earlier ++ splitAt '\n' (lastLine cs ++ rest) := by
  induction cs using List.reverseRecOn with
  | nil => exact ⟨[], fun _ => rfl⟩
  | append_singleton cs c ih =>
      by_cases line_break : c = '\n'
      · subst line_break
        refine ⟨splitAt '\n' cs, fun rest => ?_⟩
        rw [List.append_assoc, List.singleton_append, splitAt_append_cons, lastLine,
          List.rtakeWhile_concat_neg _ _ _ (by simp), List.nil_append]
      · obtain ⟨earlier, split⟩ := ih
        refine ⟨earlier, fun rest => ?_⟩
        rw [List.append_assoc, split, lastLine, lastLine,
          List.rtakeWhile_concat_pos _ _ _ (by simpa using line_break), List.append_assoc]

theorem splitAt_append (rest : List Char) : ∃ line later, ∀ cs, '\n' ∉ cs →
    splitAt '\n' (cs ++ rest) = (cs ++ line) :: later := by
  obtain ⟨line, later, pieces⟩ := List.exists_cons_of_ne_nil (splitAt_ne_nil '\n' rest)
  refine ⟨line, later, fun cs single => ?_⟩
  induction cs with
  | nil => exact pieces
  | cons c cs ih =>
      rw [List.mem_cons, not_or] at single
      exact splitAt_cons_of_ne (Ne.symm single.1) (ih single.2)

end EventWiki.Text
