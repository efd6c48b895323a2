import EventWiki.CommandLine.Commands
import EventWiki.Proofs.LineTree
import EventWiki.Proofs.LoadedParts
import EventWiki.Proofs.SettledLines
import EventWiki.Proofs.SoundFindings
import EventWiki.Proofs.TokenCut

namespace EventWiki

/-! No key that can be missing holds a line break, so the findings are read back as they were
written. -/

namespace Text

/-- A text that is read back as one line, whatever ends it. -/
structure IsLine (cs : List Char) : Prop where
  single : '\n' ∉ cs
  unreturned : cs.getLast? ≠ some '\r'

instance (cs : List Char) : Decidable (IsLine cs) :=
  decidable_of_iff ('\n' ∉ cs ∧ cs.getLast? ≠ some '\r')
    ⟨fun both => ⟨both.1, both.2⟩, fun line => ⟨line.1, line.2⟩⟩

theorem IsLine.append {left right : List Char} (first : IsLine left) (second : IsLine right) :
    IsLine (left ++ right) where
  single := List.not_mem_append first.single second.single
  unreturned := by
    by_cases empty : right = []
    · rw [empty, List.append_nil]
      exact first.unreturned
    · rw [List.getLast?_append_of_ne_nil _ empty]
      exact second.unreturned

theorem isLine_of_trimmed {cs : List Char} (single : '\n' ∉ cs) (trimmed : trim cs = cs) :
    IsLine cs where
  single := single
  unreturned := by
    rw [← trimmed]
    intro last
    exact absurd (isBlank_of_mem_getLast?_trim '\r' last) (by decide)

theorem isLine_trim {cs : List Char} (single : '\n' ∉ cs) : IsLine (trim cs) :=
  isLine_of_trimmed (fun line_break => single (mem_of_mem_trim line_break)) (trim_trim cs)

theorem isLine_lowerCase {text : String} (line : IsLine text.toList) :
    IsLine (lowerCase text).toList := by
  rw [lowerCase, String.toList_ofList]
  exact ⟨fun line_break => line.single (mem_of_mem_lowerAfter (by decide) line_break),
    fun last => line.unreturned (getLast?_of_lowerAfter (by decide) last)⟩

theorem dropReturn_eq_self {cs : List Char} (line : IsLine cs) : dropReturn cs = cs := by
  unfold dropReturn
  split
  · next last => exact absurd last line.unreturned
  · rfl

/-- Lines that are each ended by a line feed are read back as they are. -/
theorem lines_flatMap_ended {texts : List (List Char)} (are_lines : ∀ text ∈ texts, IsLine text) :
    lines (texts.flatMap (· ++ ['\n'])) = texts := by
  induction texts with
  | nil => rfl
  | cons text rest ih =>
      rw [List.forall_mem_cons] at are_lines
      rw [List.flatMap_cons, List.append_assoc, List.singleton_append,
        lines_append_feed are_lines.1.single, dropReturn_eq_self are_lines.1, ih are_lines.2]

end Text

namespace Script

theorem settled_of_mem_normalize {source line : String} (member : line ∈ normalize source) :
    Settled line.toList := by
  obtain ⟨cs, cs_member, rfl⟩ := List.mem_map.mp member
  rw [String.toList_ofList]
  refine forall_mem_joinBraces (fun statement inside => ?_) (fun _ => Settled.join) cs cs_member
  obtain ⟨physical, physical_member, inside⟩ := List.mem_flatMap.mp inside
  exact settled_of_mem_statements (Text.not_mem_of_mem_lines physical_member) inside

theorem subset_of_text? {line text : String} (role : (LineRole.ofLine line).text? = some text) :
    text.toList ⊆ line.toList := by
  have trimmed : Text.trim line.toList ⊆ line.toList := fun _ => Text.mem_of_mem_trim
  simp only [LineRole.ofLine] at role
  split at role
  · simp [LineRole.text?] at role
  · split at role
    · rw [← Option.some.inj role, String.toList_ofList]
      exact List.Subset.trans (List.dropLast_subset _) trimmed
    · rw [← Option.some.inj role, String.toList_ofList]
      exact trimmed

theorem isLine_kind_of_tokenOf? {text : String} {token : Token} (read : tokenOf? text = some token)
    (single : '\n' ∉ text.toList) : Text.IsLine token.kind.toList := by
  have reads := Token.ofStatement?_eq_some_iff.mp read
  refine Text.isLine_of_trimmed (fun line_break => single ?_) reads.isKind.trimmed
  exact Text.mem_of_mem_trim (reads.mem_of_mem_kind (by decide) line_break)

theorem isLine_kind_of_parse {source : String} {outline : Outline}
    (parsed : parse source = .ok outline) :
    outline.Built ∧ ∀ index, Text.IsLine (outline.tokenAt index).kind.toList := by
  obtain ⟨reading, nests, rfl⟩ := outline_nests parsed
  refine ⟨nests.built, fun index => ?_⟩
  refine tokenAt_induction (motive := fun token => Text.IsLine token.kind.toList) parsed
    (by decide +kernel) (fun line member text token role read => ?_) index
  exact isLine_kind_of_tokenOf? read fun line_break =>
    (settled_of_mem_normalize member).single (subset_of_text? role line_break)

end Script

namespace RuleFile

theorem isLine_key_of_mem_entries {text : String} {entry : RuleEntry}
    (member : entry ∈ entries text) : Text.IsLine entry.key.toList := by
  obtain ⟨⟨line, number⟩, placed, read⟩ := List.mem_filterMap.mp member
  have single : '\n' ∉ Text.trim line := fun line_break =>
    Text.not_mem_of_mem_lines (List.fst_mem_of_mem_zipIdx placed) (Text.mem_of_mem_trim line_break)
  simp only at read
  split at read
  · simp at read
  · obtain ⟨⟨key, value⟩, paired, rfl⟩ := Option.map_eq_some_iff.mp read
    rw [pair?] at paired
    split at paired
    · next front back cut =>
      split at paired
      · simp at paired
      · rw [← (Prod.mk.inj (Option.some.inj paired)).1, String.toList_ofList]
        refine Text.isLine_trim fun line_break => single ?_
        rw [Text.eq_append_of_cutAtFirst? cut]
        simp [line_break]
    · simp at paired

end RuleFile

namespace Rulebook

variable {book : Rulebook} {disk : Disk} {sources : Sources}

def HasLineVariations (book : Rulebook) : Prop :=
  ∀ kind canonical, book.variation? kind = some canonical → Text.IsLine canonical.toList

theorem isLine_of_loadVariations {path gameRoot : String} {variations : List (String × String)}
    (loaded : loadVariations disk path gameRoot = .ok variations) :
    ∀ variation ∈ variations, Text.IsLine variation.2.toList := by
  rw [loadVariations] at loaded
  obtain ⟨entries, read, loaded⟩ := bind_eq_ok loaded
  obtain ⟨groups, grouped, loaded⟩ := bind_eq_ok loaded
  obtain rfl := Except.ok.inj loaded
  obtain ⟨text, _, rfl⟩ := map_eq_ok read
  intro variation member
  obtain ⟨group, inside, member⟩ := List.mem_flatten.mp member
  obtain ⟨entry, entry_member, made⟩ := exists_of_mem_mapM grouped inside
  -- All kinds that an entry finds in the game are worded as the key of the entry.
  have canonical : variation.2 = entry.key := by
    split at made
    · simp at made
    · simp only at made
      split at made
      · obtain ⟨kinds, _, rfl⟩ := map_eq_ok made
        obtain ⟨kind, _, rfl⟩ := List.mem_map.mp member
        rfl
      · obtain rfl := Except.ok.inj made
        simp at member
  rw [canonical]
  exact RuleFile.isLine_key_of_mem_entries entry_member

theorem hasLineVariations_of_load (loaded : load disk sources = .ok book) :
    book.HasLineVariations := by
  obtain ⟨parts, modifiers, rfl⟩ := exists_parts_of_load loaded
  intro kind canonical found
  have stored : (Draft.enter ∅ (parts.variations.map (Prod.map id Text.lowerCase)))[kind]? =
      some canonical := found
  obtain ⟨own, member⟩ := (Draft.mem_or_getElem?_of_enter stored).resolve_right (by simp)
  obtain ⟨variation, inside, same⟩ := List.mem_map.mp member
  rw [← (Prod.mk.inj same).2]
  exact Text.isLine_lowerCase (isLine_of_loadVariations parts.variations_read variation inside)

variable {key missing : String} {parent : Option String} {token : Token}

theorem isLine_append {left right : String} (first : Text.IsLine left.toList)
    (second : Text.IsLine right.toList) : Text.IsLine (left ++ right).toList := by
  rw [String.toList_append]
  exact first.append second

theorem isLine_of_misses (line : Text.IsLine key.toList) (misses : book.Misses key missing) :
    Text.IsLine missing.toList := by
  have lower := Text.isLine_lowerCase line
  rcases misses.form with rfl | rfl
  · exact lower
  · exact isLine_append lower (by decide)

theorem isLine_templateKey (line : Text.IsLine token.kind.toList)
    (parent_line : ∀ kind ∈ parent, Text.IsLine kind.toList) :
    Text.IsLine (book.templateKey parent token).toList := by
  have key_line : Text.IsLine
      (if book.classify token.kind token.value = .country &&
          book.hasTemplate (token.kind ++ "_country") then token.kind ++ "_country"
        else token.kind).toList := by
    split
    · exact isLine_append line (by decide)
    · exact line
  cases parent with
  | none => exact key_line
  | some parent =>
      simp only [templateKey]
      split
      · exact isLine_append (isLine_append (parent_line parent rfl) (by decide)) key_line
      · exact key_line

theorem isLine_wordedKey (variations : book.HasLineVariations)
    (line : Text.IsLine token.kind.toList)
    (parent_line : ∀ kind ∈ parent, Text.IsLine kind.toList) :
    Text.IsLine (book.wordedKey parent token).toList := by
  rw [wordedKey]
  cases varied : book.variation? token.kind with
  | some canonical => exact variations token.kind canonical varied
  | none => exact isLine_templateKey line parent_line

theorem isLine_of_mem_findings {outline : Outline} {source kind : String}
    (variations : book.HasLineVariations) (parsed : Script.parse source = .ok outline)
    (member : kind ∈ (book.render outline .empty).2) : Text.IsLine kind.toList := by
  obtain ⟨built, lines⟩ := Script.isLine_kind_of_parse parsed
  cases reported_of_mem_render built member with
  | key worded misses =>
      refine isLine_of_misses ?_ misses
      cases worded with
      | own link =>
          refine isLine_wordedKey variations (lines _) fun kind from_parent => ?_
          rw [← Option.some.inj from_parent]
          exact lines _
      | merged link => exact lines _
  | name nameless kind_eq =>
      rw [← kind_eq]
      exact lines _

end Rulebook

namespace CommandLine

/-- The written findings are read back line by line. -/
theorem lines_findingsText {findings : Findings}
    (are_lines : ∀ kind ∈ findings.kinds, Text.IsLine kind.toList) :
    (Text.lines (findingsText findings).toList).map String.ofList = findings.kinds := by
  have text_eq : (findingsText findings).toList =
      (findings.kinds.map String.toList).flatMap (· ++ ['\n']) := by
    rw [findingsText, List.flatMap_map]
    induction findings.kinds with
    | nil => rfl
    | cons kind rest ih => simp [String.join_cons, ih]
  rw [text_eq, Text.lines_flatMap_ended, List.map_map]
  · simp [Function.comp_def]
  · simpa using are_lines

theorem findingsText_eq_empty_iff {findings : Findings} :
    findingsText findings = "" ↔ findings.kinds = [] := by
  rw [findingsText]
  cases findings.kinds with
  | nil => simp [String.join]
  | cons kind rest => simp [String.join_cons, String.append_assoc]

end CommandLine

end EventWiki
