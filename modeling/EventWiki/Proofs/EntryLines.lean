import EventWiki.Proofs.PhysicalLines
import EventWiki.Proofs.TemplateViews
import EventWiki.RuleFile

namespace EventWiki

namespace Text

inductive LineEnding where
  | lineFeed
  | returnAndLineFeed
  deriving DecidableEq, Repr

namespace LineEnding

/-- What stands on the line itself and not in its text. -/
def mark : LineEnding → List Char
  | lineFeed => []
  | returnAndLineFeed => ['\r']

def chars (ending : LineEnding) : List Char :=
  ending.mark ++ ['\n']

theorem not_mem_mark (ending : LineEnding) : '\n' ∉ ending.mark := by
  cases ending <;> decide

theorem isBlank_of_mem_mark {ending : LineEnding} {c : Char} (member : c ∈ ending.mark) :
    isBlank c = true := by
  cases ending with
  | lineFeed => contradiction
  | returnAndLineFeed =>
      obtain rfl := List.mem_singleton.mp member
      decide

end LineEnding

/-- A text of lines that are each ended, but for the last one if that is given apart. -/
def endedText (ended : List (List Char × LineEnding)) (last : Option (List Char)) : List Char :=
  (ended.flatMap fun (line, ending) => line ++ ending.chars) ++ last.getD []

theorem lines_endedText {ended : List (List Char × LineEnding)}
    (single : ∀ line ∈ ended, '\n' ∉ line.1) (last : Option (List Char)) :
    lines (endedText ended last) =
      (ended.map fun (line, ending) => dropReturn (line ++ ending.mark)) ++
        lines (last.getD []) := by
  induction ended with
  | nil => rfl
  | cons head rest ih =>
      obtain ⟨line, ending⟩ := head
      rw [List.forall_mem_cons] at single
      have marked : '\n' ∉ line ++ ending.mark :=
        List.not_mem_append single.1 ending.not_mem_mark
      have parts : endedText ((line, ending) :: rest) last =
          line ++ ending.mark ++ '\n' :: endedText rest last := by
        simp [endedText, LineEnding.chars]
      rw [parts, lines_append_feed marked, ih single.2]
      rfl

@[simp] theorem trim_dropReturn (line : List Char) : trim (dropReturn line) = trim line := by
  unfold dropReturn
  split
  · next last =>
      obtain ⟨front, rfl⟩ := List.getLast?_eq_some_iff.mp last
      rw [List.dropLast_concat, trim_concat_of_blank (by decide)]
  · rfl

theorem trim_around {lead tail cs : List Char} (lead_blank : ∀ c ∈ lead, isBlank c = true)
    (tail_blank : ∀ c ∈ tail, isBlank c = true) : trim (lead ++ cs ++ tail) = trim cs := by
  rw [trim_append_of_blank tail_blank, trim_blank_append lead_blank]

theorem cutAtFirst?_cons_self (separator : Char) (cs : List Char) :
    cutAtFirst? [separator] (separator :: cs) = some ([], cs) := by
  simp [cutAtFirst?, isPrefixOf?_cons_cons]

theorem cutAtFirst?_of_not_mem {separator : Char} {before : List Char} (absent : separator ∉ before)
    (behind : List Char) :
    cutAtFirst? [separator] (before ++ separator :: behind) = some (before, behind) := by
  induction before with
  | nil => exact cutAtFirst?_cons_self separator behind
  | cons c before ih =>
      rw [List.mem_cons, not_or] at absent
      simp [cutAtFirst?, isPrefixOf?_cons_cons, absent.1, ih absent.2]

/-- A separator of two different characters is found behind a text that does not hold it, even if
the text ends in the first of them. -/
theorem cutAtFirst?_of_not_infix {first second : Char} (different : first ≠ second)
    {before : List Char} (absent : ¬[first, second] <:+: before) (behind : List Char) :
    cutAtFirst? [first, second] (before ++ first :: second :: behind) = some (before, behind) := by
  induction before with
  | nil => simp [cutAtFirst?, isPrefixOf?_cons_cons]
  | cons c before ih =>
      rw [List.infix_cons_iff, not_or] at absent
      have no_start : [first, second].isPrefixOf? (c :: (before ++ first :: second :: behind)) =
          none := by
        rw [isPrefixOf?_cons_cons]
        split
        · next starts =>
            obtain rfl := eq_of_beq starts
            cases before with
            | nil => simp [isPrefixOf?_cons_cons, Ne.symm different]
            | cons d before =>
                have apart : d ≠ second := by
                  rintro rfl
                  exact absent.1 ⟨before, rfl⟩
                simp [isPrefixOf?_cons_cons, Ne.symm apart]
        · rfl
      rw [List.cons_append, cutAtFirst?, no_start, ih absent.2]
      rfl

end Text

namespace RuleEntry

variable {read? : List Char → Option (String × String)}

def onLine? (read? : List Char → Option (String × String)) (line : List Char) :
    Option (String × String) :=
  let trimmed := Text.trim line
  if trimmed.isEmpty || trimmed.head? == some '#' then none else read? trimmed

theorem ofLines_eq (read? : List Char → Option (String × String)) (cs : List Char) :
    ofLines read? cs = ((Text.lines cs).zipIdx 1).filterMap fun (line, number) =>
      (onLine? read? line).map fun (key, value) => ⟨number, key, value⟩ := by
  unfold ofLines
  congr 1
  funext ⟨line, number⟩
  simp only [onLine?]
  split <;> rfl

theorem onLine?_congr {line other : List Char} (same : Text.trim line = Text.trim other) :
    onLine? read? line = onLine? read? other := by
  unfold onLine?
  rw [same]

theorem onLine?_of_entry {line text : List Char} (trimmed : Text.trim line = text)
    (filled : text ≠ []) (open_text : text.head? ≠ some '#') : onLine? read? line = read? text := by
  simp [onLine?, trimmed, filled, open_text]

theorem ofLines_endedText {ended : List (List Char × Text.LineEnding)} {last : Option (List Char)}
    (single : ∀ line ∈ ended, '\n' ∉ line.1) (last_single : ∀ line ∈ last, '\n' ∉ line) :
    ofLines read? (Text.endedText ended last) =
      ((ended.map Prod.fst ++ last.toList).zipIdx 1).filterMap fun (line, number) =>
        (onLine? read? line).map fun (key, value) => ⟨number, key, value⟩ := by
  rw [ofLines_eq, Text.lines_endedText single, List.zipIdx_append, List.zipIdx_append,
    List.filterMap_append, List.filterMap_append, List.zipIdx_map, List.zipIdx_map,
    List.filterMap_map, List.filterMap_map, List.length_map, List.length_map]
  congr 1
  · congr 1
    funext ⟨⟨line, ending⟩, number⟩
    have same : Text.trim (Text.dropReturn (line ++ ending.mark)) = Text.trim line := by
      rw [Text.trim_dropReturn,
        Text.trim_append_of_blank fun _ => Text.LineEnding.isBlank_of_mem_mark]
    exact congrArg (Option.map _) (onLine?_congr same)
  · cases last with
    | none => rfl
    | some line =>
        -- An empty line that nothing ends is no line at all.
        by_cases empty : line = []
        · subst empty
          simp [onLine?]
        · rw [Option.getD_some, Text.lines_of_single empty (last_single line rfl)]
          rfl

end RuleEntry

end EventWiki
