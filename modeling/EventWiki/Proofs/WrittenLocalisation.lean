import EventWiki.Proofs.WrittenRules

namespace EventWiki.LocalisationFile

/-! A text stands in one pair of quotes, but reading removes every quote at its ends. -/

/-- A key, a version number that may be empty, and a text in quotes. -/
structure WrittenPair where
  key : String
  version : List Char
  text : String
  lead : List Char
  tail : List Char
  key_text : Text.IsEntryText key.toList
  no_colon : ':' ∉ key.toList
  no_comment : key.toList.head? ≠ some '#'
  no_mark : key.toList.head? ≠ some byteOrderMark
  version_digits : ∀ c ∈ version, c.isDigit = true
  text_filled : text ≠ ""
  text_single : '\n' ∉ text.toList
  lead_margin : Text.IsMargin lead
  tail_margin : Text.IsMargin tail

namespace WrittenPair

def quoted (pair : WrittenPair) : List Char :=
  '"' :: pair.text.toList ++ ['"']

def line (pair : WrittenPair) : List Char :=
  pair.lead ++ (pair.key.toList ++ (':' :: pair.version ++ [' ']) ++ pair.quoted) ++ pair.tail

/-- No quote at an end of the text could be taken for one of those around it. -/
def IsPlain (pair : WrittenPair) : Prop :=
  pair.text.toList.head? ≠ some '"' ∧ pair.text.toList.getLast? ≠ some '"'

def entry (pair : WrittenPair) (number : Nat) : RuleEntry :=
  ⟨number, Text.lowerCase pair.key, pair.text⟩

def unquotedEntry (pair : WrittenPair) (number : Nat) : RuleEntry :=
  ⟨number, Text.lowerCase pair.key, String.ofList (Text.unquoted pair.text.toList)⟩

end WrittenPair

/-- A file of pairs that are each on a line of their own. A byte-order mark and a header that names
the language may stand in front of them, and the last line may lack its ending. -/
structure Written where
  marked : Bool
  header : Option Text.LineEnding
  pairs : List (WrittenPair × Text.LineEnding)
  last : Option WrittenPair

namespace Written

def headerLine : List Char :=
  "l_english:".toList

def endedLines (file : Written) : List (List Char × Text.LineEnding) :=
  file.header.toList.map (headerLine, ·) ++
    file.pairs.map fun (pair, ending) => (pair.line, ending)

def text (file : Written) : String :=
  String.ofList ((if file.marked then [byteOrderMark] else []) ++
    Text.endedText file.endedLines (file.last.map WrittenPair.line))

def numbered (file : Written) : List (WrittenPair × Nat) :=
  (file.pairs.map Prod.fst ++ file.last.toList).zipIdx (file.header.toList.length + 1)

def entries (file : Written) : List RuleEntry :=
  file.numbered.map fun (pair, number) => pair.entry number

def unquotedEntries (file : Written) : List RuleEntry :=
  file.numbered.map fun (pair, number) => pair.unquotedEntry number

end Written

namespace WrittenPair

theorem single (pair : WrittenPair) : '\n' ∉ pair.line := by
  have no_break : '\n' ∉ pair.version := fun line_break =>
    absurd (pair.version_digits '\n' line_break) (by decide)
  simp [line, quoted, pair.lead_margin.single, pair.tail_margin.single, pair.key_text.single,
    pair.text_single, no_break]

theorem quoted_text (pair : WrittenPair) : Text.IsEntryText pair.quoted where
  filled := by simp [quoted]
  single := by simp [quoted, pair.text_single]
  trimmed := by
    apply Text.trim_eq_self
    · simp [quoted]
      decide
    · intro c last
      rw [quoted, List.getLast?_concat] at last
      obtain rfl := Option.some.inj last
      decide

theorem trim_line (pair : WrittenPair) : Text.trim pair.line =
    pair.key.toList ++ (':' :: pair.version ++ [' ']) ++ pair.quoted := by
  rw [line, Text.trim_around pair.lead_margin.isBlank pair.tail_margin.isBlank,
    Text.trim_between pair.key_text pair.quoted_text]

theorem unquoted_quoted (pair : WrittenPair) :
    Text.unquoted pair.quoted = Text.unquoted pair.text.toList := by
  rw [quoted, Text.unquoted_concat_quote, Text.unquoted_cons_quote]

theorem drop_version (pair : WrittenPair) :
    ((pair.version ++ [' '] ++ pair.quoted).dropWhile Char.isDigit).dropWhile isSpaceOrTab =
      pair.quoted := by
  rw [List.append_assoc, List.dropWhile_append_of_pos pair.version_digits]
  simp [quoted, isSpaceOrTab, Char.isDigit]

theorem pair?_eq (pair : WrittenPair) :
    pair? (pair.key.toList ++ (':' :: pair.version ++ [' ']) ++ pair.quoted) =
      some (Text.lowerCase pair.key, String.ofList (Text.unquoted pair.text.toList)) := by
  have cut : Text.cutAtFirst? [':']
      (pair.key.toList ++ (':' :: pair.version ++ [' ']) ++ pair.quoted) =
        some (pair.key.toList, pair.version ++ [' '] ++ pair.quoted) := by
    simpa using Text.cutAtFirst?_of_not_mem pair.no_colon (pair.version ++ [' '] ++ pair.quoted)
  have filled : pair.key.toList.isEmpty = false := by simpa using pair.key_text.filled
  rw [pair?, cut]
  simp only [filled, Bool.false_eq_true, if_false, drop_version, pair.key_text.trimmed,
    pair.quoted_text.trimmed, unquoted_quoted, String.ofList_toList]

theorem onLine?_eq (pair : WrittenPair) : RuleEntry.onLine? LocalisationFile.pair? pair.line =
    some (Text.lowerCase pair.key, String.ofList (Text.unquoted pair.text.toList)) := by
  rw [RuleEntry.onLine?_of_entry pair.trim_line, pair.pair?_eq]
  · simp [pair.key_text.filled]
  · rw [List.append_assoc, List.head?_append_of_ne_nil _ pair.key_text.filled]
    exact pair.no_comment

theorem unquotedEntry_eq_entry_iff (pair : WrittenPair) (number : Nat) :
    pair.unquotedEntry number = pair.entry number ↔ pair.IsPlain := by
  have kept : String.ofList (Text.unquoted pair.text.toList) = pair.text ↔
      Text.unquoted pair.text.toList = pair.text.toList := by
    rw [← String.toList_inj, String.toList_ofList]
  have no_quote (last : Option Char) : (∀ c ∈ last, (c == '"') = false) ↔ last ≠ some '"' := by
    cases last <;> simp
  rw [unquotedEntry, entry, RuleEntry.mk.injEq, eq_self, eq_self, true_and, true_and, kept,
    Text.unquoted, Text.dropAround_eq_self_iff, no_quote, no_quote, IsPlain]

theorem head?_line_ne (pair : WrittenPair) (rest : List Char) :
    (pair.line ++ rest).head? ≠ some byteOrderMark := by
  cases lead : pair.lead with
  | nil =>
      rw [line, lead, List.nil_append, List.append_assoc, List.append_assoc, List.append_assoc,
        List.head?_append_of_ne_nil _ pair.key_text.filled]
      exact pair.no_mark
  | cons c blanks =>
      have blank := pair.lead_margin.isBlank c (by rw [lead]; exact List.mem_cons_self)
      simp only [line, lead, List.cons_append, List.head?_cons, ne_eq, Option.some.injEq]
      rintro rfl
      exact absurd blank (by decide)

end WrittenPair

namespace Written

theorem onLine?_headerLine :
    RuleEntry.onLine? pair? headerLine = some ("l_english", "") := by
  decide +kernel

theorem single (file : Written) : ∀ line ∈ file.endedLines, '\n' ∉ line.1 := by
  have header_single : '\n' ∉ headerLine := by decide +kernel
  rw [endedLines, List.forall_mem_append, List.forall_mem_map, List.forall_mem_map]
  exact ⟨fun _ _ => header_single, fun (pair, _) _ => pair.single⟩

theorem last_single (file : Written) : ∀ line ∈ file.last.map WrittenPair.line, '\n' ∉ line := by
  simp only [Option.mem_map, forall_exists_index, and_imp]
  rintro _ pair _ rfl
  exact pair.single

theorem head?_endedText_ne (file : Written) :
    (Text.endedText file.endedLines (file.last.map WrittenPair.line)).head? ≠
      some byteOrderMark := by
  cases header : file.header with
  | some ending =>
      have filled : headerLine ≠ [] := by decide +kernel
      have first : headerLine.head? ≠ some byteOrderMark := by decide +kernel
      simp only [endedLines, header, Option.toList_some, List.map_cons, List.cons_append,
        Text.endedText, List.flatMap_cons, List.append_assoc]
      rwa [List.head?_append_of_ne_nil _ filled]
  | none =>
      cases pairs : file.pairs with
      | cons head rest =>
          simp only [endedLines, header, pairs, Option.toList_none, List.map_nil, List.nil_append,
            List.map_cons, Text.endedText, List.flatMap_cons, List.append_assoc]
          exact head.1.head?_line_ne _
      | nil =>
          cases last : file.last with
          | none => simp [endedLines, header, pairs, Text.endedText]
          | some pair =>
              simpa [endedLines, header, pairs, Text.endedText] using pair.head?_line_ne []

theorem dropWhile_mark (file : Written) :
    file.text.toList.dropWhile (· == byteOrderMark) =
      Text.endedText file.endedLines (file.last.map WrittenPair.line) := by
  have outside : ∀ c ∈ (Text.endedText file.endedLines
      (file.last.map WrittenPair.line)).head?, (c == byteOrderMark) = false := by
    intro c first
    rw [beq_eq_false_iff_ne]
    rintro rfl
    exact file.head?_endedText_ne first
  rw [text, String.toList_ofList, Text.dropWhile_append_of_head outside]
  cases file.marked <;> rfl

theorem filterMap_pairs (pairs : List WrittenPair) (first : Nat) :
    ((pairs.map WrittenPair.line).zipIdx first).filterMap (fun (line, number) =>
        (RuleEntry.onLine? pair? line).map fun (key, value) =>
          (⟨number, key, value⟩ : RuleEntry)) =
      (pairs.zipIdx first).map fun (pair, number) => pair.unquotedEntry number := by
  rw [List.zipIdx_map, List.filterMap_map, ← List.filterMap_eq_map]
  congr 1
  funext ⟨pair, number⟩
  simp only [Function.comp_apply, Prod.map_apply, pair.onLine?_eq, Option.map_some]
  rfl

theorem filter_header (header : Option Text.LineEnding) :
    (((header.toList.map fun _ => headerLine).zipIdx 1).filterMap (fun (line, number) =>
        (RuleEntry.onLine? pair? line).map fun (key, value) =>
          (⟨number, key, value⟩ : RuleEntry))).filter (!·.value.isEmpty) = [] := by
  cases header with
  | none => rfl
  | some ending => simp [onLine?_headerLine]

/-- The pairs are read in order, each without the quotes at the ends of its text; where nothing is
left of the text, the pair is no entry. -/
theorem entries_text (file : Written) :
    LocalisationFile.entries file.text = file.unquotedEntries.filter (!·.value.isEmpty) := by
  have texts : file.endedLines.map Prod.fst ++ (file.last.map WrittenPair.line).toList =
      file.header.toList.map (fun _ => headerLine) ++
        (file.pairs.map Prod.fst ++ file.last.toList).map WrittenPair.line := by
    simp [endedLines, Option.toList_map]
  rw [LocalisationFile.entries, file.dropWhile_mark,
    RuleEntry.ofLines_endedText file.single file.last_single, texts, List.zipIdx_append,
    List.filterMap_append, List.filter_append, filterMap_pairs, filter_header, List.nil_append,
    List.length_map, Nat.add_comm 1]
  rfl

/-- A file is read back as it was written if no text begins or ends with a quote, and only then. -/
theorem entries_text_eq_iff (file : Written) : LocalisationFile.entries file.text = file.entries ↔
    ∀ pair ∈ file.pairs.map Prod.fst ++ file.last.toList, pair.IsPlain := by
  have filled : ∀ entry ∈ file.entries, (!entry.value.isEmpty) = true := by
    rw [entries, List.forall_mem_map]
    exact fun (pair, number) _ => by simpa [WrittenPair.entry] using pair.text_filled
  have plain_iff : (∀ pair ∈ file.pairs.map Prod.fst ++ file.last.toList, pair.IsPlain) ↔
      file.unquotedEntries = file.entries := by
    rw [unquotedEntries, entries, List.map_inj_left,
      ← List.zipIdx_map_fst (file.header.toList.length + 1)
        (file.pairs.map Prod.fst ++ file.last.toList), List.forall_mem_map]
    exact forall₂_congr fun (pair, number) _ => (pair.unquotedEntry_eq_entry_iff number).symm
  rw [entries_text, plain_iff]
  constructor
  · intro same
    -- Nothing has been left out, for as many entries are read as were written.
    have lengths : (file.unquotedEntries.filter (!·.value.isEmpty)).length =
        file.unquotedEntries.length := by
      rw [same, entries, unquotedEntries, List.length_map, List.length_map]
    rw [List.length_filter_eq_length_iff, ← List.filter_eq_self] at lengths
    rwa [lengths] at same
  · intro same
    rw [same, List.filter_eq_self.mpr filled]

def spoken : WrittenPair where
  key := "Event_Desc"
  version := ['0']
  text := "He said \"yes\""
  lead := []
  tail := []
  key_text := by decide +kernel
  no_colon := by decide +kernel
  no_comment := by decide +kernel
  no_mark := by decide +kernel
  version_digits := by simp [Char.isDigit]
  text_filled := by decide +kernel
  text_single := by decide +kernel
  lead_margin := by decide +kernel
  tail_margin := by decide +kernel

def inches : WrittenPair where
  key := "inches"
  version := []
  text := "\""
  lead := []
  tail := []
  key_text := by decide +kernel
  no_colon := by decide +kernel
  no_comment := by decide +kernel
  no_mark := by decide +kernel
  version_digits := by simp
  text_filled := by decide +kernel
  text_single := by decide +kernel
  lead_margin := by decide +kernel
  tail_margin := by decide +kernel

def speech : Written where
  marked := true
  header := some .lineFeed
  pairs := [(spoken, .lineFeed), (inches, .lineFeed)]
  last := none

/-- The quote that ends a text is lost, and a text that is a quote is lost altogether. -/
theorem not_entries_text_speech :
    speech.text =
      "\ufeffl_english:\nEvent_Desc:0 \"He said \"yes\"\"\ninches: \"\"\"\n" ∧
    speech.entries = [⟨2, "event_desc", "He said \"yes\""⟩, ⟨3, "inches", "\""⟩] ∧
    LocalisationFile.entries speech.text = [⟨2, "event_desc", "He said \"yes"⟩] ∧
    LocalisationFile.entries speech.text ≠ speech.entries := by
  decide +kernel

end Written

end EventWiki.LocalisationFile
