import EventWiki.Page
import EventWiki.Proofs.NestedEntries

namespace EventWiki

/-! Nothing that is rendered looks at the findings there are, so they end up the same in whatever
order they are brought together. -/

namespace Rulebook

def Fragment.recordIn (fragment : Fragment) (findings : Findings) : Findings :=
  fragment.missing.elim findings findings.record

def localizeOn (book : Rulebook) (parent : Option String) (token : Token) (inverted : Bool)
    (findings : Findings) : String × Findings :=
  match book.variation? token.kind with
  | some canonical =>
      let label := book.nameOf token.kind
      let value := book.formatValue token .other (book.template? canonical)
      match book.formatStatement canonical token.operator inverted [label, value] with
      | .ok text => (text, findings)
      | .error missing => (rawText token, findings.record missing)
  | none =>
      let key := book.templateKey parent token
      let kind := book.classify token.kind token.value
      let values :=
        if token.value.isSome then [book.formatValue token kind (book.template? key)] else []
      match book.formatStatement key token.operator inverted values with
      | .ok text => (text, findings)
      | .error missing =>
          match book.scopeHeader? token.kind inverted with
          | some text => (text, findings)
          | none => (rawText token, findings.record missing)

theorem localizeOn_eq (book : Rulebook) (parent : Option String) (token : Token)
    (inverted : Bool) (findings : Findings) :
    book.localizeOn parent token inverted findings =
      let fragment := book.localize parent token inverted
      (fragment.text, fragment.recordIn findings) := by
  simp only [localizeOn, localize]
  cases book.variation? token.kind with
  | some canonical =>
      dsimp only
      cases book.formatStatement canonical token.operator inverted _ <;> rfl
  | none =>
      dsimp only
      cases book.formatStatement (book.templateKey parent token) token.operator inverted _ with
      | ok text => rfl
      | error missing => cases book.scopeHeader? token.kind inverted <;> rfl

def titleOn (book : Rulebook) (kind : String) (candidates : List String)
    (children : List Statement) (findings : Findings) : (String × Option Nat) × Findings :=
  match namingIndex? candidates children with
  | some index =>
      match children[index]? with
      | some child => ((book.localizeValue child.token, some index), findings)
      | none => ((kind, none), findings.record kind)
  | none => ((kind, none), findings.record kind)

theorem titleOn_eq (book : Rulebook) (kind : String) (candidates : List String)
    (children : List Statement) (findings : Findings) :
    book.titleOn kind candidates children findings =
      let (name, skipped) := book.title kind candidates children
      ((name.text, skipped), name.recordIn findings) := by
  simp only [titleOn, title]
  cases namingIndex? candidates children with
  | none => rfl
  | some index =>
      dsimp only
      cases children[index]? <;> rfl

def mergeOn (book : Rulebook) (block : Token) (tokens : List Token) (inverted : Bool)
    (findings : Findings) : (String × Option String) × Findings :=
  let slots := (book.slots? block.kind).getD []
  let state := slots.foldl (book.fillSlot tokens) ⟨[], block.operator, inverted, none⟩
  match book.formatStatement block.kind state.operator state.inverted state.values with
  | .ok text => ((text, state.modifier), findings)
  | .error missing =>
      let present := state.values.filter (!·.isEmpty)
      ((block.kind ++ ": " ++ String.intercalate ", " present, state.modifier),
        findings.record missing)

theorem mergeOn_eq (book : Rulebook) (block : Token) (tokens : List Token) (inverted : Bool)
    (findings : Findings) :
    book.mergeOn block tokens inverted findings =
      let merged := book.merge block tokens inverted
      ((merged.fragment.text, merged.modifier), merged.fragment.recordIn findings) := by
  simp only [mergeOn, merge]
  cases book.formatStatement block.kind _ _ _ <;> rfl

end Rulebook

/-- A document to which lines are added, and the findings that are at hand meanwhile. -/
structure Sheet where
  document : Document
  findings : Findings

namespace Sheet

def emit (sheet : Sheet) (depth : Nat) (text : String) : Sheet :=
  { sheet with document := sheet.document.emit depth text }

def emitAll (sheet : Sheet) (depth : Nat) (texts : List String) : Sheet :=
  texts.foldl (·.emit depth) sheet

def write (sheet : Sheet) (depth : Nat) (text : String) (left : Findings) : Sheet :=
  { sheet.emit depth text with findings := left }

def add (sheet : Sheet) (passage : Rulebook.Passage) : Sheet :=
  ⟨⟨sheet.document.entries ++ passage.lines⟩, sheet.findings.recordAll passage.missing⟩

@[simp] theorem add_empty (sheet : Sheet) : sheet.add .empty = sheet := by
  simp [add, Rulebook.Passage.empty, Findings.recordAll]

theorem add_append (sheet : Sheet) (left right : Rulebook.Passage) :
    sheet.add (left ++ right) = (sheet.add left).add right := by
  simp [add, Findings.recordAll]

theorem write_eq (sheet : Sheet) (depth : Nat) (fragment : Rulebook.Fragment) :
    sheet.write depth fragment.text (fragment.recordIn sheet.findings) =
      sheet.add (.ofFragment depth fragment) := by
  obtain ⟨text, missing⟩ := fragment
  cases missing <;> rfl

theorem emitAll_eq (sheet : Sheet) (depth : Nat) (texts : List String) :
    sheet.emitAll depth texts = sheet.add ⟨texts.flatMap (Document.Line.atDepth depth), []⟩ := by
  induction texts generalizing sheet with
  | nil => exact sheet.add_empty.symm
  | cons text rest ih =>
      have first : sheet.emit depth text = sheet.add ⟨Document.Line.atDepth depth text, []⟩ := rfl
      rw [emitAll, List.foldl_cons, ← emitAll, ih, first, ← add_append]
      rfl

end Sheet

namespace Rulebook

def writeMerged (book : Rulebook) (sheet : Sheet) (depth : Nat) (block : Token)
    (children : List Statement) (inverted : Bool) : Sheet :=
  let ((text, modifier), left) :=
    book.mergeOn block (children.map Statement.token) inverted sheet.findings
  (sheet.write depth text left).emitAll (depth + 1) ((modifier.map book.modifierEffects).getD [])

mutual

/-- Every line is added to the document, and every missing key recorded, where it is met. -/
def visitOn (book : Rulebook) (sheet : Sheet) (depth : Nat) (parent : String) (inherited : Bool) :
    Statement → Sheet
  | .mk token children =>
      let inverted := inherited != token.negated
      match book.role depth token.kind children.isEmpty with
      | .inversion => book.visitAllOn sheet depth token.kind (!inherited) none children
      | .hidden => sheet
      | .merged => book.writeMerged sheet depth token children inverted
      | .named candidates =>
          let ((name, index), left) := book.titleOn token.kind candidates children sheet.findings
          book.visitAllOn (sheet.write depth name left) (depth + 1) token.kind false index children
      | .plain =>
          let (text, left) := book.localizeOn (some parent) token inverted sheet.findings
          book.visitAllOn (sheet.write depth text left) (depth + 1) token.kind false none children

def visitAllOn (book : Rulebook) (sheet : Sheet) (depth : Nat) (parent : String)
    (inherited : Bool) (skipped : Option Nat) : List Statement → Sheet
  | [] => sheet
  | statement :: rest =>
      match skipped with
      | some 0 => book.visitAllOn sheet depth parent inherited none rest
      | some (index + 1) =>
          book.visitAllOn (book.visitOn sheet depth parent inherited statement) depth parent
            inherited (some index) rest
      | none =>
          book.visitAllOn (book.visitOn sheet depth parent inherited statement) depth parent
            inherited none rest

end

def renderOn (book : Rulebook) (script : Outline) (findings : Findings) : Document × Findings :=
  let root := script.toStatement
  let sheet := book.visitAllOn ⟨.empty, findings⟩ 0 root.kind false none root.children
  (sheet.document, sheet.findings)

theorem writeMerged_eq (book : Rulebook) (sheet : Sheet) (depth : Nat) (block : Token)
    (children : List Statement) (inverted : Bool) :
    book.writeMerged sheet depth block children inverted =
      sheet.add (book.mergedPassage depth block children inverted) := by
  rw [writeMerged, mergeOn_eq]
  simp only [mergedPassage, Sheet.emitAll_eq, Sheet.write_eq, Sheet.add_append]

mutual

theorem visitOn_eq (book : Rulebook) (sheet : Sheet) (depth : Nat) (parent : String)
    (inherited : Bool) (statement : Statement) :
    book.visitOn sheet depth parent inherited statement =
      sheet.add (book.visit depth parent inherited statement) := by
  cases statement with
  | mk token children =>
      rw [visitOn, visit]
      cases book.role depth token.kind children.isEmpty with
      | inversion => exact book.visitAllOn_eq sheet depth token.kind (!inherited) none children
      | hidden => exact sheet.add_empty.symm
      | merged => exact book.writeMerged_eq sheet depth token children (inherited != token.negated)
      | named candidates =>
          simp only [titleOn_eq, Sheet.write_eq, Sheet.add_append]
          exact book.visitAllOn_eq _ (depth + 1) token.kind false _ children
      | plain =>
          simp only [localizeOn_eq, Sheet.write_eq, Sheet.add_append]
          exact book.visitAllOn_eq _ (depth + 1) token.kind false none children

theorem visitAllOn_eq (book : Rulebook) (sheet : Sheet) (depth : Nat) (parent : String)
    (inherited : Bool) (skipped : Option Nat) (statements : List Statement) :
    book.visitAllOn sheet depth parent inherited skipped statements =
      sheet.add (book.visitAll depth parent inherited skipped statements) := by
  cases statements with
  | nil => exact sheet.add_empty.symm
  | cons statement rest =>
      have one := book.visitOn_eq sheet depth parent inherited statement
      cases skipped with
      | none =>
          rw [visitAllOn, visitAll, one, Sheet.add_append]
          exact book.visitAllOn_eq _ depth parent inherited none rest
      | some index =>
          cases index with
          | zero =>
              rw [visitAllOn, visitAll]
              exact book.visitAllOn_eq sheet depth parent inherited none rest
          | succ index =>
              rw [visitAllOn, visitAll, one, Sheet.add_append]
              exact book.visitAllOn_eq _ depth parent inherited (some index) rest

end

/-- It makes no difference whether findings are recorded where they are met or all at the end. -/
theorem renderOn_eq_render (book : Rulebook) (script : Outline) (findings : Findings) :
    book.renderOn script findings = book.render script findings := by
  rw [renderOn, visitAllOn_eq]
  rfl

/-- What a script adds to findings does not depend on them, and neither does its document. -/
theorem render_eq_union (book : Rulebook) (script : Outline) (findings : Findings) :
    book.render script findings =
      ((book.render script .empty).1, findings.union (book.render script .empty).2) := by
  refine Prod.ext rfl (Findings.ext fun kind => ?_)
  simp only [render, Findings.mem_recordAll, Findings.mem_union, Findings.not_mem_empty, or_false]
  exact or_comm

/-- Renders scripts one after another, each with the findings that those before it have left. -/
def renderEach (book : Rulebook) (findings : Findings) : List Outline → List Document × Findings
  | [] => ([], findings)
  | script :: rest =>
      let (document, left) := book.renderOn script findings
      let (documents, all) := book.renderEach left rest
      (document :: documents, all)

theorem renderEach_documents (book : Rulebook) (findings : Findings) (scripts : List Outline) :
    (book.renderEach findings scripts).1 =
      scripts.map fun script => (book.render script .empty).1 := by
  induction scripts generalizing findings with
  | nil => rfl
  | cons script rest ih =>
      rw [renderEach, renderOn_eq_render, render_eq_union, List.map_cons, ← ih]

theorem mem_renderEach {book : Rulebook} {findings : Findings} {scripts : List Outline}
    {kind : String} :
    kind ∈ (book.renderEach findings scripts).2 ↔
      kind ∈ findings ∨ ∃ script ∈ scripts, kind ∈ (book.render script .empty).2 := by
  induction scripts generalizing findings with
  | nil => simp [renderEach]
  | cons script rest ih =>
      rw [renderEach, renderOn_eq_render, render_eq_union]
      simp [ih, or_assoc]

end Rulebook

/-- Sets of findings that are merged into one, two at a time. -/
inductive Merging where
  | single (findings : Findings)
  | extend (left right : Merging)

namespace Merging

def parts : Merging → List Findings
  | single findings => [findings]
  | extend left right => left.parts ++ right.parts

def total : Merging → Findings
  | single findings => findings
  | extend left right => left.total.union right.total

theorem mem_total {merging : Merging} {kind : String} :
    kind ∈ merging.total ↔ ∃ part ∈ merging.parts, kind ∈ part := by
  induction merging with
  | single findings => simp [total, parts]
  | extend left right left_ih right_ih =>
      simp only [total, parts, Findings.mem_union, left_ih, right_ih, List.mem_append, or_and_right,
        exists_or]

end Merging

namespace Rulebook

/-- Every script has one document, and one set of findings that it adds to those there are. Scripts
that are rendered with shared findings leave the set that their own sets are merged into, in any
order and grouping. -/
theorem render_shared (book : Rulebook) :
    (∀ script : Outline, ∃ document own, ∀ findings,
      book.render script findings = (document, findings.union own) ∧
        book.renderOn script findings = (document, findings.union own)) ∧
    ∀ (scripts : List Outline) (findings : Findings),
      (book.renderEach findings scripts).1 =
          scripts.map (fun script => (book.render script .empty).1) ∧
        ∀ merging : Merging,
          merging.parts.Perm
              (findings :: scripts.map fun script => (book.render script .empty).2) →
            merging.total = (book.renderEach findings scripts).2 := by
  refine ⟨fun script => ⟨(book.render script .empty).1, (book.render script .empty).2,
    fun findings => ?_⟩, fun scripts findings => ?_⟩
  · have rendered := book.render_eq_union script findings
    exact ⟨rendered, (book.renderOn_eq_render script findings).trans rendered⟩
  · refine ⟨book.renderEach_documents findings scripts, fun merging perm => ?_⟩
    apply Findings.ext
    intro kind
    rw [Merging.mem_total, mem_renderEach]
    simp [perm.mem_iff]

def unworded (kind : String) : Outline :=
  .ofStatement (.mk (.bare rootKind) [.mk (.make kind (some .equal) none)
    [.mk (.make "limit" (some .equal) none) [.mk (.make "is_year" (some .equal) (some "1500")) []]]])

theorem renderEach_unworded :
    (empty.renderEach (.ofList ["war"]) [unworded "option", unworded "trigger"]).2.kinds =
        ["is_year", "limit", "option", "trigger", "war"] ∧
      (Merging.extend (.single (empty.render (unworded "trigger") .empty).2)
        (.extend (.single (.ofList ["war"]))
          (.single (empty.render (unworded "option") .empty).2))).total =
        (empty.renderEach (.ofList ["war"]) [unworded "option", unworded "trigger"]).2 := by
  refine ⟨by decide +kernel, ((render_shared empty).2 _ _).2 _ ?_⟩
  exact (List.Perm.swap ..).trans (.cons _ (.swap ..))

end Rulebook

end EventWiki
