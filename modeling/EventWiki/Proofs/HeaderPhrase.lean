import EventWiki.Proofs.DraftEntries
import EventWiki.Proofs.StatementWording
import EventWiki.Proofs.TemplateViews

namespace EventWiki

namespace Text

theorem exists_append_of_getLast?_trimEnd {cs : List Char} {c : Char}
    (last : (trimEnd cs).getLast? = some c) :
    ∃ front blanks, cs = front ++ c :: blanks ∧ ∀ blank ∈ blanks, isBlank blank = true := by
  obtain ⟨blanks, parts, are_blank⟩ := dropEndWhile_append_tail isBlank cs
  refine ⟨(trimEnd cs).dropLast, blanks, ?_, are_blank⟩
  rw [List.append_cons, List.dropLast_append_getLast? c last]
  exact parts

theorem trimEnd_append_cons_of_blank {c : Char} (visible : isBlank c = false) {blanks : List Char}
    (are_blank : ∀ blank ∈ blanks, isBlank blank = true) (front : List Char) :
    trimEnd (front ++ c :: blanks) = front ++ [c] := by
  rw [List.append_cons, trimEnd, dropEndWhile_append_of_all _ are_blank]
  simp [dropEndWhile, visible]

end Text

namespace Template

variable {segments : List Segment} {text : String}

theorem exists_renderFrom_cons (values : List String) (operator : Option String) (next : Nat)
    (segment : Segment) : ∃ shown later, ∀ rest,
      renderFrom values operator next (segment :: rest) =
        shown ++ renderFrom values operator later rest := by
  cases segment with
  | literal text => exact ⟨text, next, fun _ => rfl⟩
  | operator => exact ⟨operator.getD operatorMarker, next, fun _ => rfl⟩
  | value index =>
      cases index with
      | none => exact ⟨values.getD next "", next + 1, fun _ => rfl⟩
      | some index => exact ⟨values.getD index "", next, fun _ => rfl⟩

theorem exists_renderFrom_eq_append (ends : segments.getLast? = some (.literal text))
    (values : List String) (operator : Option String) (next : Nat) :
    ∃ front, renderFrom values operator next segments = front ++ text := by
  induction segments generalizing next with
  | nil => contradiction
  | cons segment rest ih =>
      cases rest with
      | nil =>
          obtain rfl := Option.some.inj ends
          exact ⟨"", by simp [renderFrom]⟩
      | cons other rest =>
          rw [List.getLast?_cons_cons] at ends
          obtain ⟨shown, later, cons_eq⟩ := exists_renderFrom_cons values operator next segment
          obtain ⟨front, rendered⟩ := ih ends later
          exact ⟨shown ++ front, by rw [cons_eq, rendered, String.append_assoc]⟩

/-- A header ends in a colon, but for blanks. -/
theorem exists_render_eq {source : String} {template : Template}
    (read : Template.read source = .ok template) (header : template.isSectionHeader = true)
    (values : List String) (operator : Option String) :
    ∃ head blanks, (∀ c ∈ blanks.toList, Text.isBlank c = true) ∧
      template.render values operator = head ++ ":" ++ blanks := by
  obtain ⟨text, ends, last⟩ := (isSectionHeader_iff read).mp header
  obtain ⟨front, rendered⟩ := exists_renderFrom_eq_append ends values operator 0
  obtain ⟨body, blanks, parts, are_blank⟩ := Text.exists_append_of_getLast?_trimEnd last
  refine ⟨front ++ String.ofList body, String.ofList blanks, by simpa using are_blank, ?_⟩
  rw [render, rendered]
  apply String.toList_injective
  simp [parts]

end Template

namespace Rulebook

variable {book : Rulebook} {key : String} {template : Template}

theorem trimEnd_header (head : String) {blanks : String}
    (are_blank : ∀ c ∈ blanks.toList, Text.isBlank c = true) :
    Text.trimEnd (head ++ ":" ++ blanks).toList = head.toList ++ [':'] := by
  simpa using Text.trimEnd_append_cons_of_blank (c := ':') (by decide) are_blank head.toList

theorem noneOfTheFollowing_header (head : String) {blanks : String}
    (are_blank : ∀ c ∈ blanks.toList, Text.isBlank c = true) :
    noneOfTheFollowing (head ++ ":" ++ blanks) = head ++ Phrase.noneOfTheFollowing ++ ":" := by
  simp only [noneOfTheFollowing, trimEnd_header head are_blank]
  simp

def HasReadTemplates (book : Rulebook) : Prop :=
  ∀ key template, book.template? key = some template →
    ∃ source, Template.read source = .ok template

theorem wording?_header (found : book.template? key = some template)
    (header : template.isSectionHeader = true) (unaware : book.isOperatorAware key = false)
    (no_contrary : book.hasTemplate (Text.lowerCase key ++ Phrase.falseSuffix) = false) :
    book.wording? key true = some (.header template) := by
  have missing : book.template? (Text.lowerCase key ++ Phrase.falseSuffix) = none := by
    simpa [hasTemplate] using no_contrary
  simp [wording?, unaware, missing, found, header]

/-- A header that is not inverted by a template of its own has the phrase before its colon. The
text that the phrase goes into ends in a colon. -/
theorem phrase_before_colon (read : book.HasReadTemplates)
    (header : book.isSectionHeader key = true) (unaware : book.isOperatorAware key = false)
    (no_contrary : book.hasTemplate (Text.lowerCase key ++ Phrase.falseSuffix) = false)
    (operator : Option Operator) (values : List String) :
    ∃ template head blanks, book.template? key = some template ∧
      (∀ c ∈ blanks.toList, Text.isBlank c = true) ∧
      book.formatStatement key operator false values = .ok (head ++ ":" ++ blanks) ∧
      book.formatStatement key operator true values =
        .ok (head ++ Phrase.noneOfTheFollowing ++ ":") ∧
      (Text.trimEnd (book.substitute template operator true values).toList).getLast? =
        some ':' := by
  rw [isSectionHeader_eq] at header
  obtain ⟨template, found, is_header⟩ := (Option.any_eq_true ..).mp header
  obtain ⟨source, template_read⟩ := read key template found
  have plain_operator : template.hasOperator = false := by
    simpa [isOperatorAware_eq, found] using unaware
  have text_eq (inverted : Bool) : book.substitute template operator inverted values =
      template.render values none := by
    rw [substitute, if_neg (by simp [plain_operator])]
  obtain ⟨head, blanks, are_blank, rendered⟩ :=
    Template.exists_render_eq template_read is_header values none
  refine ⟨template, head, blanks, found, are_blank, ?_, ?_, ?_⟩
  · rw [formatStatement_eq_ok_iff]
    exact ⟨.plain template, by simp [wording?, found], (text_eq false).trans rendered⟩
  · rw [formatStatement_eq_ok_iff]
    refine ⟨.header template, wording?_header found is_header unaware no_contrary, ?_⟩
    rw [wordingText, text_eq, rendered, noneOfTheFollowing_header head are_blank]
  · rw [text_eq, rendered, trimEnd_header head are_blank, List.getLast?_concat]

namespace Draft

theorem hasReadTemplates_of_build {draft : Draft}
    (added : ∀ (key : String) (template : Template), draft.templates[key]? = some template →
      ∃ source, Template.read source = .ok template)
    (built : draft.build = .ok book) : book.HasReadTemplates := by
  obtain ⟨templates, read, rfl⟩ := build_ok_iff.mp built
  intro key template found
  rcases mem_or_getElem?_of_enter found with ⟨own, member⟩ | known
  · exact exists_read_of_readAll read _ member
  · exact added _ template known

end Draft

def headerTemplate : Template where
  source := "Any neighbor with %s%%:  "
  segments := [.literal "Any neighbor with ", .value none, .literal "%:  "]

def headerDraft : Draft :=
  Draft.empty.addTemplates [("Any_Neighbor", headerTemplate.source)]

def headerBook : Rulebook :=
  empty.withTemplates (Draft.enter ∅ [("Any_Neighbor", headerTemplate)])

theorem build_headerDraft : headerDraft.build = .ok headerBook := by
  have read : Draft.readTemplate "Any_Neighbor" headerTemplate.source = .ok headerTemplate := by
    decide +kernel
  have all_read : Draft.readAll headerDraft.unread = .ok [("Any_Neighbor", headerTemplate)] := by
    simp only [headerDraft, Draft.addTemplates, Draft.empty, List.nil_append, Draft.readAll, read]
    rfl
  rw [Draft.build, all_read]
  rfl

theorem phrase_before_colon_of_anyNeighbor :
    headerBook.HasReadTemplates ∧
      ∃ head blanks, head ++ ":" ++ blanks = "Any neighbor with : %:  " ∧
        headerBook.formatStatement "any_neighbor" none true [": "] =
          .ok (head ++ " - none of the following" ++ ":") := by
  have read : headerBook.HasReadTemplates := by
    refine Draft.hasReadTemplates_of_build (fun key template found => ?_) build_headerDraft
    simp [headerDraft, Draft.addTemplates, Draft.empty] at found
  obtain ⟨template, head, blanks, _, _, plain, inverted, _⟩ :=
    @phrase_before_colon headerBook "any_neighbor" read (by decide +kernel) (by decide +kernel)
      (by decide +kernel) none [": "]
  have text_eq : headerBook.formatStatement "any_neighbor" none false [": "] =
      .ok "Any neighbor with : %:  " := by
    decide +kernel
  exact ⟨read, head, blanks, Except.ok.inj (plain.symm.trans text_eq), inverted⟩

end Rulebook

end EventWiki
