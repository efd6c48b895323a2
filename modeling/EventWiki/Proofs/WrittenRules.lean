import EventWiki.Proofs.EntryLines

namespace EventWiki

namespace Text

/-- A text that stands on one line without blanks at its ends. -/
structure IsEntryText (cs : List Char) : Prop where
  filled : cs ≠ []
  single : '\n' ∉ cs
  trimmed : trim cs = cs

instance (cs : List Char) : Decidable (IsEntryText cs) :=
  decidable_of_iff (cs ≠ [] ∧ '\n' ∉ cs ∧ trim cs = cs)
    ⟨fun ⟨filled, single, trimmed⟩ => ⟨filled, single, trimmed⟩,
      fun ⟨filled, single, trimmed⟩ => ⟨filled, single, trimmed⟩⟩

def IsMargin (cs : List Char) : Prop :=
  ∀ c ∈ cs, isBlank c = true ∧ c ≠ '\n'

instance (cs : List Char) : Decidable (IsMargin cs) :=
  List.decidableBAll (fun c => isBlank c = true ∧ c ≠ '\n') cs

variable {cs : List Char}

theorem IsMargin.isBlank (margin : IsMargin cs) : ∀ c ∈ cs, isBlank c = true :=
  fun c member => (margin c member).1

theorem IsMargin.single (margin : IsMargin cs) : '\n' ∉ cs :=
  fun line_break => (margin '\n' line_break).2 rfl

theorem IsEntryText.head_visible (entry : IsEntryText cs) :
    ∀ c ∈ cs.head?, isBlank c = false := by
  rw [← entry.trimmed]
  exact isBlank_of_mem_head?_trim

theorem IsEntryText.last_visible (entry : IsEntryText cs) :
    ∀ c ∈ cs.getLast?, isBlank c = false := by
  rw [← entry.trimmed]
  exact isBlank_of_mem_getLast?_trim

theorem trim_between {front back : List Char} (first : IsEntryText front) (last : IsEntryText back)
    (middle : List Char) : trim (front ++ middle ++ back) = front ++ middle ++ back := by
  apply trim_eq_self
  · rw [List.append_assoc, List.head?_append_of_ne_nil _ first.filled]
    exact first.head_visible
  · rw [List.getLast?_append_of_ne_nil _ last.filled]
    exact last.last_visible

end Text

namespace RuleFile

structure WrittenPair where
  key : String
  value : String
  lead : List Char
  tail : List Char
  key_text : Text.IsEntryText key.toList
  value_text : Text.IsEntryText value.toList
  no_comment : key.toList.head? ≠ some '#'
  no_separator : ¬[':', ' '] <:+: key.toList
  lead_margin : Text.IsMargin lead
  tail_margin : Text.IsMargin tail

/-- A line without an entry: a blank one, a comment, or one without a separator. -/
structure Filler where
  line : List Char
  single : '\n' ∉ line
  idle : Text.trim line = [] ∨ (Text.trim line).head? = some '#' ∨
    ¬[':', ' '] <:+: Text.trim line

inductive WrittenLine where
  | entry (pair : WrittenPair)
  | skipped (filler : Filler)

def WrittenPair.line (pair : WrittenPair) : List Char :=
  pair.lead ++ (pair.key.toList ++ [':', ' '] ++ pair.value.toList) ++ pair.tail

def WrittenLine.chars : WrittenLine → List Char
  | .entry pair => pair.line
  | .skipped filler => filler.line

def WrittenLine.pair? : WrittenLine → Option WrittenPair
  | .entry pair => some pair
  | .skipped _ => none

/-- A file of lines that are each ended, but for the last one if that is given apart. -/
def written (lines : List (WrittenLine × Text.LineEnding)) (last : Option WrittenLine) : String :=
  String.ofList (Text.endedText (lines.map fun (line, ending) => (line.chars, ending))
    (last.map WrittenLine.chars))

def writtenEntries (lines : List WrittenLine) : List RuleEntry :=
  (lines.zipIdx 1).filterMap fun (line, number) =>
    line.pair?.map fun pair => ⟨number, pair.key, pair.value⟩

theorem WrittenPair.single (pair : WrittenPair) : '\n' ∉ pair.line := by
  have separator : '\n' ∉ [':', ' '] := by decide
  exact List.not_mem_append (List.not_mem_append pair.lead_margin.single
    (List.not_mem_append (List.not_mem_append pair.key_text.single separator)
      pair.value_text.single)) pair.tail_margin.single

theorem WrittenPair.trim_line (pair : WrittenPair) :
    Text.trim pair.line = pair.key.toList ++ [':', ' '] ++ pair.value.toList := by
  rw [line, Text.trim_around pair.lead_margin.isBlank pair.tail_margin.isBlank,
    Text.trim_between pair.key_text pair.value_text]

theorem WrittenPair.pair?_eq (pair : WrittenPair) :
    pair? (pair.key.toList ++ [':', ' '] ++ pair.value.toList) = some (pair.key, pair.value) := by
  have cut : Text.cutAtFirst? [':', ' '] (pair.key.toList ++ [':', ' '] ++ pair.value.toList) =
      some (pair.key.toList, pair.value.toList) := by
    simpa using Text.cutAtFirst?_of_not_infix (by decide) pair.no_separator pair.value.toList
  have filled : pair.key.toList.isEmpty = false := by simpa using pair.key_text.filled
  rw [pair?, cut]
  simp [filled, pair.key_text.trimmed, pair.value_text.trimmed]

theorem WrittenLine.single (line : WrittenLine) : '\n' ∉ line.chars := by
  cases line with
  | entry pair => exact pair.single
  | skipped filler => exact filler.single

theorem pair?_of_not_infix {line : List Char} (absent : ¬[':', ' '] <:+: line) :
    pair? line = none := by
  have uncut : Text.cutAtFirst? [':', ' '] line = none := by
    rw [← Option.not_isSome_iff_eq_none]
    exact fun found => absent (Text.contains_iff_infix.mp found)
  rw [pair?, uncut]

theorem WrittenLine.onLine?_eq (line : WrittenLine) :
    RuleEntry.onLine? RuleFile.pair? line.chars =
      line.pair?.map fun pair => (pair.key, pair.value) := by
  cases line with
  | entry pair =>
      have filled := pair.key_text.filled
      rw [chars, RuleEntry.onLine?_of_entry pair.trim_line, pair.pair?_eq]
      · rfl
      · simp [filled]
      · rw [List.append_assoc, List.head?_append_of_ne_nil _ filled]
        exact pair.no_comment
  | skipped filler =>
      rcases filler.idle with blank | comment | plain
      · simp [chars, RuleEntry.onLine?, blank, WrittenLine.pair?]
      · simp [chars, RuleEntry.onLine?, comment, WrittenLine.pair?]
      · simp [chars, RuleEntry.onLine?, pair?_of_not_infix plain, WrittenLine.pair?]

/-- A rule file is read back as the entries it was written from. -/
theorem entries_written (lines : List (WrittenLine × Text.LineEnding))
    (last : Option WrittenLine) :
    entries (written lines last) = writtenEntries (lines.map Prod.fst ++ last.toList) := by
  have single : ∀ line ∈ lines.map fun (line, ending) => (line.chars, ending), '\n' ∉ line.1 := by
    rw [List.forall_mem_map]
    exact fun (line, _) _ => line.single
  have last_single : ∀ line ∈ last.map WrittenLine.chars, '\n' ∉ line := by
    simp only [Option.mem_map, forall_exists_index, and_imp]
    rintro _ line _ rfl
    exact line.single
  have texts : (lines.map fun (line, ending) => (line.chars, ending)).map Prod.fst ++
      (last.map WrittenLine.chars).toList =
        (lines.map Prod.fst ++ last.toList).map WrittenLine.chars := by
    simp [Option.toList_map]
  rw [entries, written, String.toList_ofList, RuleEntry.ofLines_endedText single last_single,
    texts, List.zipIdx_map, List.filterMap_map, writtenEntries]
  congr 1
  funext ⟨line, number⟩
  simp only [Function.comp_apply, Prod.map_apply, line.onLine?_eq, Option.map_map]
  rfl

example : entries "# a: b\r\n  a:: b: c \nkey:value" = [⟨2, "a:", "b: c"⟩] := by decide +kernel

end RuleFile

end EventWiki
