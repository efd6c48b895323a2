import EventWiki.Modifiers
import EventWiki.Proofs.FlatPage
import EventWiki.Proofs.OutlineOrder
import EventWiki.Proofs.StatementWording

namespace EventWiki

theorem Outline.exists_parent_of_standsUnder {outline : Outline} {lower upper block : Nat}
    (link : outline.parent? upper = some block) (under : outline.StandsUnder lower upper) :
    ∃ parent, outline.parent? lower = some parent := by
  rcases Relation.ReflTransGen.cases_head under with rfl | ⟨parent, lower_link, _⟩
  · exact ⟨block, link⟩
  · exact ⟨parent, lower_link⟩

namespace Rulebook

variable {book : Rulebook} {key entry : String} {operator : Option Operator} {inverted : Bool}
  {values : List String} {parent : Option String} {token : Token}

/-- An entry reports that a key has no wording: it is the key or the key of the inverted case, and
there is no template under it. The template of an operator-aware key words both cases, so such a
key is not reported in either form. -/
structure Misses (book : Rulebook) (key entry : String) : Prop where
  form : entry = Text.lowerCase key ∨ entry = Text.lowerCase key ++ Phrase.falseSuffix
  missing : book.hasTemplate entry = false
  unaware : book.isOperatorAware key = false

theorem misses_of_unworded (unworded : book.wording? key inverted = none) :
    book.Misses key (book.missingKey key inverted) := by
  rw [wording?] at unworded
  rw [missingKey]
  split at unworded
  · next usual =>
    rw [if_pos usual]
    simp only [Bool.and_eq_true, Bool.not_eq_true'] at usual
    have no_contrary := ((Option.orElse_eq_none ..).mp unworded).1
    exact ⟨.inr rfl, by simpa [hasTemplate] using no_contrary, usual.2⟩
  · next aware =>
    rw [if_neg aware]
    have missing : book.template? key = none := by simpa using unworded
    exact ⟨.inl rfl, by simp [hasTemplate, missing], by simp [isOperatorAware_eq, missing]⟩

theorem misses_of_formatStatement
    (failed : book.formatStatement key operator inverted values = .error entry) :
    book.Misses key entry := by
  rw [formatStatement_eq] at failed
  split at failed
  · contradiction
  · next unworded =>
    rw [← Except.error.inj failed]
    exact misses_of_unworded unworded

theorem misses_of_localize (reported : entry ∈ (book.localize parent token inverted).missing) :
    book.Misses (book.wordedKey parent token) entry := by
  cases worded : book.wording? (book.wordedKey parent token) inverted with
  | some wording =>
      rw [localize_of_wording worded] at reported
      contradiction
  | none =>
      by_cases no_header : book.variation? token.kind = none →
          book.scopeHeader? token.kind inverted = none
      · rw [localize_of_nothing worded no_header] at reported
        rw [← Option.some.inj reported]
        exact misses_of_unworded worded
      · obtain ⟨own, has_header⟩ := Classical.not_imp.mp no_header
        obtain ⟨header, found⟩ := Option.ne_none_iff_exists'.mp has_header
        rw [localize_of_scopeHeader worded own found] at reported
        contradiction

theorem misses_of_merge {tokens : List Token}
    (reported : entry ∈ (book.merge token tokens inverted).fragment.missing) :
    book.Misses token.kind entry := by
  rw [merge] at reported
  split at reported
  · contradiction
  · next failed =>
    rw [← Option.some.inj reported]
    exact misses_of_formatStatement failed

theorem size_recordAll_le_one (missing : Option String) :
    (Findings.empty.recordAll missing.toList).size ≤ 1 := by
  cases missing with
  | none => exact Nat.zero_le 1
  | some entry => exact Nat.le_refl 1

variable {outline : Outline}

/-- A key that a statement of the outline is worded by, by itself or as a merged block. -/
inductive WordedIn (book : Rulebook) (outline : Outline) : String → Prop where
  | own {index parent : Nat} (link : outline.parent? index = some parent) :
      WordedIn book outline
        (book.wordedKey (some (outline.tokenAt parent).kind) (outline.tokenAt index))
  | merged {index parent : Nat} (link : outline.parent? index = some parent) :
      WordedIn book outline (outline.tokenAt index).kind

/-- A block that is to be named by a statement in it, and that no statement names. -/
structure IsNameless (book : Rulebook) (outline : Outline) (index : Nat) : Prop where
  inside : ∃ parent, outline.parent? index = some parent
  block : outline.children index ≠ []
  unnamed : ∃ candidates, book.namingKinds? (outline.tokenAt index).kind = some candidates ∧
    ∀ child ∈ outline.children index,
      (outline.tokenAt child).kind ∈ candidates → (outline.tokenAt child).value = none

theorem isNameless_of_title (wellFormed : outline.WellFormed) {index block : Nat}
    (link : outline.parent? index = some block) (titled : book.isTitled wellFormed index = true)
    (nameless : book.namingChild? outline index = none) : book.IsNameless outline index := by
  simp only [isTitled, Outline.isBlock, Bool.and_eq_true, Bool.not_eq_true'] at titled
  obtain ⟨⟨⟨_, filled⟩, _⟩, listed⟩ := titled
  obtain ⟨candidates, known⟩ := Option.isSome_iff_exists.mp listed
  refine ⟨⟨block, link⟩, by simpa using filled, candidates, known, fun child member candidate => ?_⟩
  rw [namingChild?, known, Option.getD_some, List.findSome?_eq_none_iff] at nameless
  have unnamed := List.find?_eq_none.mp (nameless _ candidate) child member
  simpa using unnamed

inductive Reported (book : Rulebook) (outline : Outline) (entry : String) : Prop where
  | key {key : String} (worded : book.WordedIn outline key) (misses : book.Misses key entry) :
      Reported book outline entry
  | name {index : Nat} (nameless : book.IsNameless outline index)
      (kind_eq : (outline.tokenAt index).kind = entry) : Reported book outline entry

theorem reported_of_ownPassage (wellFormed : outline.WellFormed) {index block : Nat}
    (link : outline.parent? index = some block)
    (member : entry ∈ (book.ownPassage wellFormed index).missing) :
    book.Reported outline entry := by
  simp only [ownPassage] at member
  split at member
  · simp [Passage.empty] at member
  · split at member
    · simp only [Passage.missing_append, Passage.ofFragment, List.append_nil,
        Option.mem_toList] at member
      exact .key (.merged link) (misses_of_merge member)
    · split at member
      · next titled =>
        simp only [Passage.ofFragment, Option.mem_toList, titleAt] at member
        split at member
        · simp at member
        · next nameless =>
          exact .name (isNameless_of_title wellFormed link titled nameless) (Option.some.inj member)
      · simp only [Passage.ofFragment, Option.mem_toList, wordingAt, link, Option.map_some] at member
        exact .key (.own link) (misses_of_localize member)

theorem reported_of_mem_render (built : outline.Built)
    (member : entry ∈ (book.render outline .empty).2) : book.Reported outline entry := by
  have flat := book.passage_eq_flatPassage built.wellFormed
  rw [render, Findings.mem_recordAll_empty, flat, flatPassage, passageOf, Passage.concat] at member
  obtain ⟨passage, inside, member⟩ := List.mem_flatMap.mp member
  obtain ⟨index, visible, rfl⟩ := List.mem_map.mp inside
  have below := List.mem_of_mem_filter visible
  rw [built.wellFormed.preorder_eq, List.tail_cons, List.mem_flatMap] at below
  obtain ⟨child, top, under⟩ := below
  obtain ⟨block, link⟩ := Outline.exists_parent_of_standsUnder
    (Outline.mem_children.mp top) (built.wellFormed.mem_preorder.mp under)
  exact reported_of_ownPassage built.wellFormed link member

theorem exists_misses_of_mem_expandModifiers (built : outline.Built)
    (member : entry ∈ (book.expandModifiers outline .empty).2) :
    ∃ key, book.WordedIn outline key ∧ book.Misses key entry := by
  have wellFormed := built.wellFormed
  rw [expandModifiers, Findings.mem_recordAll_empty] at member
  obtain ⟨⟨name, effects⟩, inside, member⟩ := List.mem_flatMap.mp member
  obtain ⟨effect, effect_member, reported⟩ := List.mem_filterMap.mp member
  rw [Outline.toStatement_eq_statementAt wellFormed, wellFormed.statementAt_eq 0,
    Statement.children_mk, List.map_map, List.mem_map] at inside
  obtain ⟨index, _, same⟩ := inside
  obtain ⟨-, rfl⟩ := Prod.mk.inj same
  rw [effectsOf, wellFormed.statementAt_eq index, Statement.children_mk, List.map_map,
    List.mem_map] at effect_member
  obtain ⟨child, child_member, rfl⟩ := effect_member
  rw [Function.comp_apply, wellFormed.statementAt_eq child, Statement.token_mk,
    Statement.kind_mk] at reported
  exact ⟨_, .own (Outline.mem_children.mp child_member), misses_of_localize reported⟩

/-- Whatever is found in a script, in definitions of modifiers or in a single statement is missing:
a template, or a statement that names a block. -/
theorem findings_are_missing (built : outline.Built) (book : Rulebook) :
    (∀ entry ∈ (book.render outline .empty).2,
      (book.hasTemplate entry = false ∧ ∃ key, book.WordedIn outline key ∧ book.Misses key entry) ∨
        ∃ index, book.IsNameless outline index ∧ (outline.tokenAt index).kind = entry) ∧
    (∀ entry ∈ (book.expandModifiers outline .empty).2,
      book.hasTemplate entry = false ∧ ∃ key, book.WordedIn outline key ∧ book.Misses key entry) ∧
    ∀ parent token inverted,
      let found := Findings.empty.recordAll (book.localize parent token inverted).missing.toList
      found.size ≤ 1 ∧
        (∀ entry ∈ found, book.hasTemplate entry = false ∧
          book.Misses (book.wordedKey parent token) entry) ∧
        (book.isOperatorAware (book.wordedKey parent token) = true → found = .empty) := by
  refine ⟨fun entry member => ?_, fun entry member => ?_, fun parent token inverted => ?_⟩
  · cases reported_of_mem_render built member with
    | key worded misses => exact .inl ⟨misses.missing, _, worded, misses⟩
    | name nameless kind_eq => exact .inr ⟨_, nameless, kind_eq⟩
  · obtain ⟨key, worded, misses⟩ := exists_misses_of_mem_expandModifiers built member
    exact ⟨misses.missing, key, worded, misses⟩
  · have misses (entry : String) (member : entry ∈
        Findings.empty.recordAll (book.localize parent token inverted).missing.toList) :
        book.Misses (book.wordedKey parent token) entry := by
      rw [Findings.mem_recordAll_empty, Option.mem_toList] at member
      exact misses_of_localize member
    refine ⟨size_recordAll_le_one _,
      fun entry member => ⟨(misses entry member).missing, misses entry member⟩, fun aware => ?_⟩
    refine Findings.ext fun entry => ⟨fun member => ?_, fun member => ?_⟩
    · simp [(misses entry member).unaware] at aware
    · exact absurd member (Findings.not_mem_empty entry)

def untitledOutline : Outline :=
  ((((((Outline.new (.bare rootKind)).push 0 (.make "country_event" (some .equal) none)).push 1
    (.make "option" (some .equal) none)).push 2
    (.make "NOT" (some .equal) none)).push 3
    (.make "is_year" (some .equal) (some "1500"))).push 3
    (.make "prestige" (some .equal) (some "5")))

def untitledBook : Rulebook :=
  { empty.withTemplates ((((∅ : Dictionary Template).insert "country_event"
        ⟨"Country event:", [.literal "Country event:"]⟩).insert
      "is_year" ⟨"Year is [OPERATOR] %s",
        [.literal "Year is ", .operator, .literal " ", .value none]⟩).insert
      "prestige" ⟨"Prestige is %s", [.literal "Prestige is ", .value none]⟩) with
    namedBlocks := (∅ : Dictionary (List String)).insert "country_event" ["title"] }

theorem findings_of_untitledOutline :
    untitledOutline.Built ∧
      (untitledBook.render untitledOutline .empty).2.kinds =
        ["country_event", "option", "prestige_false"] ∧
      untitledBook.hasTemplate "prestige_false" = false ∧
      ∃ index, untitledBook.IsNameless untitledOutline index ∧
        (untitledOutline.tokenAt index).kind = "country_event" := by
  have built : untitledOutline.Built := by
    repeat refine .push ?_ (by decide) _
    exact .new _
  have kinds_eq : (untitledBook.render untitledOutline .empty).2.kinds =
      ["country_event", "option", "prestige_false"] := by
    decide +kernel
  have found (entry : String) (listed : entry ∈ ["country_event", "option", "prestige_false"]) :=
    (findings_are_missing built untitledBook).1 entry (Findings.mem_def.mpr (kinds_eq ▸ listed))
  refine ⟨built, kinds_eq, ?_, ?_⟩
  · rcases found "prestige_false" (by simp) with ⟨missing, _⟩ | ⟨index, nameless, kind_eq⟩
    · exact missing
    · have unlisted : untitledBook.namingKinds? "prestige_false" = none := by decide +kernel
      obtain ⟨candidates, listed, _⟩ := nameless.unnamed
      rw [kind_eq, unlisted] at listed
      contradiction
  · rcases found "country_event" (by simp) with ⟨missing, _⟩ | nameless
    · have known : untitledBook.hasTemplate "country_event" = true := by decide +kernel
      simp [known] at missing
    · exact nameless

end Rulebook

end EventWiki
