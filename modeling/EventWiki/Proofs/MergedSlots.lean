import EventWiki.Merge
import Mathlib

namespace EventWiki.Rulebook

variable {book : Rulebook} {slot : String} {slots : List String} {block token : Token}
  {tokens others : List Token} {state : MergeState}

/-- The kind of the statement is the slot, or a variation of it. -/
def fills (book : Rulebook) (slot : String) (token : Token) : Bool :=
  token.kind == slot || book.variation? token.kind == some slot

theorem isSome_filling? (book : Rulebook) (slot : String) (token : Token) :
    (book.filling? slot token).isSome = book.fills slot token := by
  rw [filling?, fills]
  by_cases direct : token.kind = slot
  · simp [direct]
  · by_cases variation : book.variation? token.kind = some slot <;> simp [direct, variation]

/-- The statements of a block in another order, with other statements that fill no slot. -/
inductive Rearranged (book : Rulebook) (slots : List String) : List Token → List Token → Prop where
  | reordered {left right : List Token} (same : left.Perm right) : Rearranged book slots left right
  | inserted {before behind : List Token} (token : Token)
      (surplus : ∀ slot ∈ slots, book.fills slot token = false) :
      Rearranged book slots (before ++ behind) (before ++ token :: behind)
  | removed {before behind : List Token} (token : Token)
      (surplus : ∀ slot ∈ slots, book.fills slot token = false) :
      Rearranged book slots (before ++ token :: behind) (before ++ behind)
  | trans {left middle right : List Token} (first : Rearranged book slots left middle)
      (second : Rearranged book slots middle right) : Rearranged book slots left right

def fillings (book : Rulebook) (slot : String) (tokens : List Token) : List SlotFilling :=
  tokens.filterMap (book.filling? slot)

theorem length_fillings (book : Rulebook) (slot : String) (tokens : List Token) :
    (book.fillings slot tokens).length = tokens.countP (book.fills slot) := by
  rw [fillings, List.length_filterMap_eq_countP]
  congr 1
  funext token
  exact book.isSome_filling? slot token

theorem findSome?_filling? (book : Rulebook) (slot : String) (tokens : List Token) :
    tokens.findSome? (book.filling? slot) = (book.fillings slot tokens).head? := by
  rw [fillings, List.head?_filterMap]

theorem fillings_insert {before behind : List Token} (surplus : book.fills slot token = false) :
    book.fillings slot (before ++ token :: behind) = book.fillings slot (before ++ behind) := by
  rw [← isSome_filling?, Option.isSome_eq_false_iff, Option.isNone_iff_eq_none] at surplus
  simp only [fillings, List.filterMap_append, List.filterMap_cons, surplus]

theorem Rearranged.perm_fillings (rearranged : book.Rearranged slots tokens others)
    (listed : slot ∈ slots) : (book.fillings slot tokens).Perm (book.fillings slot others) := by
  induction rearranged with
  | reordered same => exact same.filterMap _
  | inserted token surplus => rw [fillings_insert (surplus slot listed)]
  | removed token surplus => rw [fillings_insert (surplus slot listed)]
  | trans _ _ first second => exact first.trans second

theorem Rearranged.findSome?_eq (rearranged : book.Rearranged slots tokens others)
    (listed : slot ∈ slots) (single : tokens.countP (book.fills slot) ≤ 1) :
    others.findSome? (book.filling? slot) = tokens.findSome? (book.filling? slot) := by
  have same := rearranged.perm_fillings listed
  rw [← length_fillings] at single
  rw [findSome?_filling?, findSome?_filling?]
  cases found : book.fillings slot tokens with
  | nil =>
      rw [found] at same
      rw [same.nil_eq]
  | cons filling rest =>
      obtain rfl : rest = [] := by
        rw [found, List.length_cons] at single
        exact List.eq_nil_of_length_eq_zero (by omega)
      rw [found] at same
      rw [List.singleton_perm.mp same]

def merging (book : Rulebook) (block : Token) (tokens : List Token) (inverted : Bool) :
    MergeState :=
  ((book.slots? block.kind).getD []).foldl (book.fillSlot tokens)
    ⟨[], block.operator, inverted, none⟩

def mergedAs (book : Rulebook) (kind : String) (state : MergeState) : Merged :=
  match book.formatStatement kind state.operator state.inverted state.values with
  | .ok text => ⟨⟨text, none⟩, state.modifier⟩
  | .error missing =>
      let present := state.values.filter (!·.isEmpty)
      ⟨⟨kind ++ ": " ++ String.intercalate ", " present, some missing⟩, state.modifier⟩

theorem merge_eq (book : Rulebook) (block : Token) (tokens : List Token) (inverted : Bool) :
    book.merge block tokens inverted =
      book.mergedAs block.kind (book.merging block tokens inverted) := rfl

/-- The value for a slot that no variation fills. -/
def slotValue (book : Rulebook) (tokens : List Token) (slot : String) : String :=
  match tokens.find? (·.kind == slot) with
  | some token => book.localizeValue token
  | none => emptySlot slot

theorem values_fillSlot
    (own : ∀ token ∈ tokens, book.variation? token.kind = some slot → token.kind = slot) :
    (book.fillSlot tokens state slot).values = state.values ++ [book.slotValue tokens slot] := by
  have direct : tokens.findSome? (book.filling? slot) =
      (tokens.find? (·.kind == slot)).map .direct := by
    induction tokens with
    | nil => rfl
    | cons token rest ih =>
        rw [List.forall_mem_cons] at own
        rw [List.findSome?_cons, List.find?_cons, ih own.2, filling?]
        by_cases here : token.kind = slot
        · simp [here]
        · have other : book.variation? token.kind ≠ some slot := fun same => here (own.1 same)
          rw [if_neg here, if_neg other, beq_eq_false_iff_ne.mpr here]
  rw [fillSlot, slotValue, direct]
  cases tokens.find? (·.kind == slot) with
  | none => rfl
  | some token => rfl

theorem values_foldl_fillSlot
    (own : ∀ slot ∈ slots, ∀ token ∈ tokens,
      book.variation? token.kind = some slot → token.kind = slot) (state : MergeState) :
    (slots.foldl (book.fillSlot tokens) state).values =
      state.values ++ slots.map (book.slotValue tokens) := by
  induction slots generalizing state with
  | nil => simp
  | cons slot rest ih =>
      rw [List.forall_mem_cons] at own
      rw [List.foldl_cons, ih own.2, values_fillSlot own.1, List.map_cons, List.append_assoc,
        List.singleton_append]

/-- A block whose slots are filled by one statement each merges into the same statement in whatever
order its statements stand, and whatever stands among them. Without variations its template is
offered one value for each slot. -/
theorem merge_rearranged (listed : book.slots? block.kind = some slots)
    (single : ∀ slot ∈ slots, tokens.countP (book.fills slot) ≤ 1) (inverted : Bool) :
    (∀ others, book.Rearranged slots tokens others →
      book.merge block others inverted = book.merge block tokens inverted) ∧
    book.merge block tokens inverted =
      book.mergedAs block.kind (book.merging block tokens inverted) ∧
    ((∀ slot ∈ slots, ∀ token ∈ tokens,
        book.variation? token.kind = some slot → token.kind = slot) →
      (book.merging block tokens inverted).values = slots.map (book.slotValue tokens)) := by
  refine ⟨fun others rearranged => ?_, rfl, fun own => ?_⟩
  · have same : book.merging block others inverted = book.merging block tokens inverted := by
      rw [merging, merging, listed, Option.getD_some]
      apply List.foldl_ext
      intro state slot member
      rw [fillSlot, fillSlot, rearranged.findSome?_eq member (single slot member)]
    rw [merge_eq, merge_eq, same]
  · rw [merging, listed, Option.getD_some, values_foldl_fillSlot own]
    rfl

def modifierBook : Rulebook :=
  { empty with
    mergedBlocks := (∅ : Dictionary (List String)).insert "add_country_modifier" ["name", "duration"]
    valueKinds := (∅ : Dictionary ValueKind).insert "duration" .days }

def modifierBlock : Token :=
  ⟨"add_country_modifier", some .equal, none⟩

def prideName : Token :=
  ⟨"name", some .equal, some "pride"⟩

def tenYears : Token :=
  ⟨"duration", some .equal, some "3650"⟩

def hiddenNote : Token :=
  ⟨"hidden", some .equal, some "yes"⟩

theorem merge_rearranged_pride :
    modifierBook.merge modifierBlock [tenYears, hiddenNote, prideName] false =
        modifierBook.merge modifierBlock [prideName, tenYears] false ∧
      (modifierBook.merging modifierBlock [prideName, tenYears] false).values =
        ["pride", "10 years"] := by
  have hidden_fills_nothing :
      ∀ slot ∈ ["name", "duration"], modifierBook.fills slot hiddenNote = false := by
    decide +kernel
  obtain ⟨same, _, values⟩ := @merge_rearranged modifierBook ["name", "duration"] modifierBlock
    [prideName, tenYears] (by decide +kernel) (by decide +kernel) false
  constructor
  · have inserted := @Rearranged.inserted modifierBook ["name", "duration"] [tenYears] [prideName]
      hiddenNote hidden_fills_nothing
    apply same
    exact .trans (.reordered (List.Perm.swap tenYears prideName [])) inserted
  · rw [values (by decide +kernel)]
    decide +kernel

end EventWiki.Rulebook
