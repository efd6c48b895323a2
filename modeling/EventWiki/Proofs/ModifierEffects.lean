import EventWiki.Modifiers
import EventWiki.Page
import EventWiki.Proofs.DraftEntries
import EventWiki.Proofs.LineTree
import EventWiki.Proofs.MergedSlots
import EventWiki.Proofs.TokenCut

namespace EventWiki

namespace Token

theorem Reads.lowerCase_kind {cs : List Char} {token : Token} (reads : Reads cs token) :
    Text.lowerCase token.kind = token.kind := by
  cases reads with
  | bare unsigned named => exact Text.lowerCase_lowerCase _
  | compared cut named => exact Text.lowerCase_lowerCase _

end Token

namespace Script

theorem lowerCase_kind_of_parse {source : String} {script : Outline}
    (parsed : parse source = .ok script) (index : Nat) :
    Text.lowerCase (script.tokenAt index).kind = (script.tokenAt index).kind := by
  apply tokenAt_induction (motive := fun token => Text.lowerCase token.kind = token.kind) parsed
    (Text.lowerCase_lowerCase _)
  intro line member text token role read
  exact (Token.ofStatement?_eq_some_iff.mp read).lowerCase_kind

theorem lowerCase_kind_of_mem_children {source : String} {script : Outline}
    (parsed : parse source = .ok script) {block : Statement}
    (member : block ∈ script.toStatement.children) : Text.lowerCase block.kind = block.kind := by
  obtain ⟨reading, nests, rfl⟩ := outline_nests parsed
  have wellFormed := nests.built.wellFormed
  rw [Outline.toStatement_eq_statementAt wellFormed, wellFormed.statementAt_eq,
    Statement.children_mk, List.mem_map] at member
  obtain ⟨index, _, rfl⟩ := member
  rw [wellFormed.statementAt_eq, Statement.kind_mk]
  exact lowerCase_kind_of_parse parsed index

end Script

namespace Rulebook

namespace Draft

variable {α : Type}

theorem lowerCase_of_mem_enter {entries : List (String × α)} {key : String} {value : α}
    (member : (key, value) ∈ (enter ∅ entries).toList) : Text.lowerCase key = key := by
  rw [Std.TreeMap.mem_toList_iff_getElem?_eq_some, getElem?_enter, latest?] at member
  simp only [Std.TreeMap.getElem?_emptyc, Option.or_none, Option.map_eq_some_iff] at member
  obtain ⟨entry, found, _⟩ := member
  have name_eq := List.find?_some found
  rw [← eq_of_beq name_eq, Text.lowerCase_lowerCase]

theorem getElem?_enter_toList (dictionary : Dictionary α) (entries : List (String × α))
    (key : String) :
    (enter dictionary (enter ∅ entries).toList)[key]? =
      (enter ∅ entries)[key]?.or dictionary[key]? := by
  rw [getElem?_enter dictionary, latest?]
  congr 1
  cases found : (enter ∅ entries).toList.reverse.find?
      fun entry => Text.lowerCase entry.1 == key with
  | none =>
      rw [List.find?_eq_none] at found
      cases known : (enter ∅ entries)[key]? with
      | none => rfl
      | some value =>
          have member := Std.TreeMap.mem_toList_iff_getElem?_eq_some.mpr known
          have other := found (key, value) (List.mem_reverse.mpr member)
          simp [lowerCase_of_mem_enter member] at other
  | some entry =>
      obtain ⟨name, value⟩ := entry
      have member := List.mem_reverse.mp (List.mem_of_find?_eq_some found)
      have name_eq := List.find?_some found
      rw [beq_iff_eq, lowerCase_of_mem_enter member] at name_eq
      rw [← name_eq, Std.TreeMap.mem_toList_iff_getElem?_eq_some.mp member]
      rfl

end Draft

variable {book : Rulebook} {script : Outline} {scripts : List Outline}

def attach (book : Rulebook) (script : Outline) : Rulebook :=
  book.withModifiers (book.expandModifiers script .empty).1.toList

/-- The rulebook with the modifiers of scripts, which are expanded and attached one by one. -/
def attachAll (book : Rulebook) (scripts : List Outline) : Rulebook :=
  scripts.foldl attach book

def effectTexts (book : Rulebook) (block : Statement) : List String :=
  ((block.children.map fun effect =>
    (book.localize (some block.kind) effect.token false).text).filter (!·.isEmpty)).map signed

/-- The last statement of a script outside all blocks whose kind is the name, in any letter case. -/
def definition? (name : String) (script : Outline) : Option Statement :=
  script.toStatement.children.reverse.find? fun block =>
    Text.lowerCase block.kind == Text.lowerCase name

def lastDefinition? (scripts : List Outline) (name : String) : Option Statement :=
  scripts.reverse.findSome? (definition? name)

def definedEffects (book : Rulebook) (scripts : List Outline) (name : String) : List String :=
  ((lastDefinition? scripts name).map book.effectTexts).getD []

theorem attachAll_concat (book : Rulebook) (scripts : List Outline) (script : Outline) :
    book.attachAll (scripts ++ [script]) = (book.attachAll scripts).attach script := by
  rw [attachAll, List.foldl_append]
  rfl

theorem attachAll_eq (book : Rulebook) (scripts : List Outline) :
    book.attachAll scripts = { book with modifiers := (book.attachAll scripts).modifiers } := by
  induction scripts using List.reverseRecOn with
  | nil => rfl
  | append_singleton scripts script ih =>
      rw [attachAll_concat, attach, withModifiers, ih]

theorem effectTexts_attachAll (book : Rulebook) (scripts : List Outline) :
    (book.attachAll scripts).effectTexts = book.effectTexts := by
  rw [attachAll_eq]
  rfl

theorem expandModifiers_eq
    (small : ∀ block ∈ script.toStatement.children, Text.lowerCase block.kind = block.kind)
    (findings : Findings) :
    (book.expandModifiers script findings).1 =
      Draft.enter ∅
        (script.toStatement.children.map fun block => (block.kind, book.effectTexts block)) := by
  simp only [expandModifiers, Draft.enter, List.foldl_map]
  apply List.foldl_ext
  intro known block member
  rw [small block member, effectTexts, effectsOf, List.map_map]
  rfl

theorem modifiers_attach
    (small : ∀ block ∈ script.toStatement.children, Text.lowerCase block.kind = block.kind)
    (name : String) :
    (book.attach script).modifiers[Text.lowerCase name]? =
      ((definition? name script).map book.effectTexts).or
        book.modifiers[Text.lowerCase name]? := by
  have entered : (book.attach script).modifiers =
      Draft.enter book.modifiers (book.expandModifiers script .empty).1.toList := rfl
  rw [entered, expandModifiers_eq small, Draft.getElem?_enter_toList, Draft.getElem?_enter,
    latest?, Std.TreeMap.getElem?_emptyc, Option.or_none, ← List.map_reverse, List.find?_map,
    Option.map_map]
  rfl

theorem modifiers_attachAll
    (small : ∀ script ∈ scripts, ∀ block ∈ script.toStatement.children,
      Text.lowerCase block.kind = block.kind) (name : String) :
    (book.attachAll scripts).modifiers[Text.lowerCase name]? =
      ((lastDefinition? scripts name).map book.effectTexts).or
        book.modifiers[Text.lowerCase name]? := by
  induction scripts using List.reverseRecOn with
  | nil => rfl
  | append_singleton scripts script ih =>
      rw [List.forall_mem_append, List.forall_mem_singleton] at small
      rw [attachAll_concat, modifiers_attach small.2, ih small.1, effectTexts_attachAll,
        lastDefinition?, lastDefinition?, List.reverse_concat, List.findSome?_cons]
      cases definition? name script <;> rfl

theorem modifierEffects_attachAll (bare : book.modifiers = ∅)
    (parsed : ∀ script ∈ scripts, ∃ source, Script.parse source = .ok script) (name : String) :
    (book.attachAll scripts).modifierEffects name = book.definedEffects scripts name := by
  have small : ∀ script ∈ scripts, ∀ block ∈ script.toStatement.children,
      Text.lowerCase block.kind = block.kind := by
    intro script member block inside
    obtain ⟨source, accepted⟩ := parsed script member
    exact Script.lowerCase_kind_of_mem_children accepted inside
  have found : (book.attachAll scripts).modifiers[Text.lowerCase name]? =
      ((lastDefinition? scripts name).map book.effectTexts).or
        book.modifiers[Text.lowerCase name]? :=
    modifiers_attachAll small name
  rw [bare, Std.TreeMap.getElem?_emptyc, Option.or_none] at found
  rw [modifierEffects, Std.TreeMap.getD_eq_getD_getElem?, found, definedEffects]

variable {block token name : Token} {tokens : List Token} {slots : List String} {value : String}

theorem findSome?_eq_direct (found : tokens.find? (book.fills modifierSlot) = some name)
    (direct : name.kind = modifierSlot) :
    tokens.findSome? (book.filling? modifierSlot) = some (.direct name) := by
  have first : book.filling? modifierSlot name = some (.direct name) := by
    rw [filling?, if_pos direct]
  induction tokens with
  | nil => contradiction
  | cons token rest ih =>
      rw [List.find?_cons] at found
      rw [List.findSome?_cons]
      cases filled : book.fills modifierSlot token with
      | true =>
          rw [filled] at found
          rw [Option.some.inj found, first]
      | false =>
          rw [filled] at found
          rw [← isSome_filling?, Option.isSome_eq_false_iff, Option.isNone_iff_eq_none] at filled
          rw [filled]
          exact ih found

theorem modifier_foldl_fillSlot
    (found : tokens.findSome? (book.filling? modifierSlot) = some (.direct name))
    (state : MergeState) :
    (slots.foldl (book.fillSlot tokens) state).modifier =
      if modifierSlot ∈ slots then name.value else state.modifier := by
  have filled (slot : String) (state : MergeState) : (book.fillSlot tokens state slot).modifier =
      if slot = modifierSlot then name.value else state.modifier := by
    by_cases names : slot = modifierSlot
    · rw [names, fillSlot, found]
    · rw [fillSlot, if_neg names]
      split
      · rw [if_neg names]
      · rfl
      · rfl
  induction slots generalizing state with
  | nil => simp
  | cons slot rest ih =>
      rw [List.foldl_cons, ih, filled]
      by_cases later : modifierSlot ∈ rest
      · simp [later]
      · simp [later, eq_comm]

theorem modifier_merge (listed : book.slots? block.kind = some slots)
    (naming : modifierSlot ∈ slots)
    (found : tokens.find? (book.fills modifierSlot) = some name)
    (direct : name.kind = modifierSlot) (inverted : Bool) :
    (book.merge block tokens inverted).modifier = name.value := by
  have merged : (book.merging block tokens inverted).modifier = name.value := by
    rw [merging, listed, Option.getD_some,
      modifier_foldl_fillSlot (findSome?_eq_direct found direct), if_pos naming]
  rw [merge_eq, mergedAs]
  split <;> exact merged

theorem visit_merged {depth : Nat} {children : List Statement} (inner : 1 ≤ depth)
    (plain : isInversion token.kind = false) (filled : children ≠ [])
    (listed : book.slots? token.kind = some slots) (parent : String) (inherited : Bool) :
    book.visit depth parent inherited (.mk token children) =
      book.mergedPassage depth token children (inherited != token.negated) := by
  have role_eq : book.role depth token.kind children.isEmpty = .merged := by
    rw [role, plain, listed]
    simp [filled, Nat.one_le_iff_ne_zero.mp inner]
  rw [visit, role_eq]

theorem signed_ne_empty {effect : String} (filled : effect.isEmpty = false) :
    (signed effect).isEmpty = false := by
  rw [signed]
  split
  · simp
  · exact filled

theorem head?_signed (effect : String) :
    ∀ c ∈ (signed effect).toList.head?, c.isDigit = false := by
  intro c first
  rw [signed] at first
  split at first
  · rw [String.toList_append] at first
    obtain rfl : '+' = c := by simpa using first
    rfl
  · next unsigned =>
    rw [Option.mem_def] at first
    simpa [first] using unsigned

theorem mem_definedEffects {effect : String}
    (member : effect ∈ book.definedEffects scripts value) :
    effect.isEmpty = false ∧ ∀ c ∈ effect.toList.head?, c.isDigit = false := by
  rw [definedEffects] at member
  cases defined : lastDefinition? scripts value with
  | none => simp [defined] at member
  | some block =>
      rw [defined, Option.map_some, Option.getD_some, effectTexts] at member
      obtain ⟨text, inside, rfl⟩ := List.mem_map.mp member
      have filled := (List.mem_filter.mp inside).2
      exact ⟨signed_ne_empty (by simpa using filled), head?_signed text⟩

theorem flatMap_atDepth {depth : Nat} {texts : List String}
    (filled : ∀ text ∈ texts, text.isEmpty = false) :
    texts.flatMap (Document.Line.atDepth depth) =
      texts.map fun text => ⟨.ofDepth depth, text⟩ := by
  induction texts with
  | nil => rfl
  | cons text rest ih =>
      rw [List.forall_mem_cons] at filled
      rw [List.flatMap_cons, ih filled.2, List.map_cons, Document.Line.atDepth, filled.1]
      rfl

/-- Below its own line a merged block shows the effects of the modifier that it names, as the last
definition in the last script with one has them. -/
theorem visit_named_modifier (bare : book.modifiers = ∅)
    (parsed : ∀ script ∈ scripts, ∃ source, Script.parse source = .ok script)
    {depth : Nat} {children : List Statement} (inner : 1 ≤ depth)
    (plain : isInversion token.kind = false)
    (listed : book.slots? token.kind = some slots) (naming : modifierSlot ∈ slots)
    (found : (children.map Statement.token).find? (book.fills modifierSlot) = some name)
    (direct : name.kind = modifierSlot) (valued : name.value = some value)
    (parent : String) (inherited : Bool) :
    ((book.attachAll scripts).visit depth parent inherited (.mk token children)).lines =
        Document.Line.atDepth depth
          (book.merge token (children.map Statement.token)
            (inherited != token.negated)).fragment.text ++
        (book.definedEffects scripts value).map (fun effect => ⟨.ofDepth (depth + 1), effect⟩) ∧
      ∀ effect ∈ book.definedEffects scripts value,
        ∀ c ∈ effect.toList.head?, c.isDigit = false := by
  have same_merge : (book.attachAll scripts).merge = book.merge := by
    rw [attachAll_eq]
    rfl
  have listed_after : (book.attachAll scripts).slots? token.kind = some slots := by
    rw [attachAll_eq]
    exact listed
  have effects := modifierEffects_attachAll bare parsed value
  have filled : children ≠ [] := by
    rintro rfl
    contradiction
  refine ⟨?_, fun effect member => (mem_definedEffects member).2⟩
  rw [visit_merged inner plain filled listed_after, mergedPassage, same_merge,
    modifier_merge listed naming found direct, valued, Passage.lines_append]
  simp only [Option.map_some, Option.getD_some, effects, Passage.ofFragment]
  rw [flatMap_atDepth fun effect member => (mem_definedEffects member).1]

def prideBook : Rulebook :=
  modifierBook.withTemplates (((∅ : Dictionary Template).insert "prestige"
    ⟨"Prestige: %s", [.literal "Prestige: ", .value none]⟩).insert "tax"
      ⟨"%s tax", [.value none, .literal " tax"]⟩)

def prideScript : Outline :=
  (((((Outline.new (.bare rootKind)).push 0 (.make "pride" (some .equal) none)).push 1
    (.make "prestige" (some .equal) (some "1"))).push 0
    (.make "Pride" (some .equal) none)).push 3
    (.make "prestige" (some .equal) (some "2"))).push 3
    (.make "tax" (some .equal) (some "0"))

def shameScript : Outline :=
  ((Outline.new (.bare rootKind)).push 0 (.make "shame" (some .equal) none)).push 1
    (.make "prestige" (some .equal) (some "3"))

def namePride : Token :=
  ⟨"name", some .equal, some "PRIDE"⟩

theorem visit_named_modifier_of_pride :
    Script.parse "pride = \x7b prestige = 1 \x7d Pride = \x7b prestige = 2 tax = 0 \x7d" =
        .ok prideScript ∧
      Script.parse "shame = \x7b prestige = 3 \x7d" = .ok shameScript ∧
      ((prideBook.attachAll [prideScript, shameScript]).visit 2 "option" false
        (.mk modifierBlock [.mk namePride []])).lines =
          [⟨.bullet 1, "add_country_modifier: PRIDE, the rest of the campaign"⟩,
            ⟨.bullet 2, "Prestige: 2"⟩, ⟨.bullet 2, "+0 tax"⟩] := by
  have pride : Script.parse
      "pride = \x7b prestige = 1 \x7d Pride = \x7b prestige = 2 tax = 0 \x7d" =
        .ok prideScript := by
    decide +kernel
  have shame : Script.parse "shame = \x7b prestige = 3 \x7d" = .ok shameScript := by
    decide +kernel
  have parsed : ∀ script ∈ [prideScript, shameScript], ∃ source,
      Script.parse source = .ok script := by
    simp only [List.forall_mem_cons, List.not_mem_nil, false_implies, implies_true, and_true]
    exact ⟨⟨_, pride⟩, ⟨_, shame⟩⟩
  refine ⟨pride, shame, ?_⟩
  rw [(@visit_named_modifier prideBook _ modifierBlock namePride ["name", "duration"] "PRIDE" rfl
    parsed 2 [.mk namePride []] (by decide) (by decide +kernel)
    (by decide +kernel) (by decide) (by decide +kernel) rfl rfl "option" false).1]
  decide +kernel

end Rulebook

end EventWiki
