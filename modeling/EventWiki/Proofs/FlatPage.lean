import EventWiki.Page
import EventWiki.Proofs.OutlineTree

namespace EventWiki

/-! The document of a script, read off its tokens one by one: where a token stands in the outline
decides its level, its inversion and whether it has lines. -/

namespace Outline

variable {outline : Outline} {index parent child : Nat}

def inverts (outline : Outline) (index : Nat) : Bool :=
  isInversion (outline.tokenAt index).kind

def isBlock (outline : Outline) (index : Nat) : Bool :=
  !(outline.children index).isEmpty

namespace WellFormed

/-- The number of blocks around a token, but for the inversion blocks. -/
def level (wellFormed : outline.WellFormed) (index : Nat) : Nat :=
  (wellFormed.ancestors index).countP fun block => !outline.inverts block

/-- Whether the run of inversion blocks directly around a token is of odd length. -/
def inverted (wellFormed : outline.WellFormed) (index : Nat) : Bool :=
  ((wellFormed.ancestors index).takeWhile outline.inverts).length % 2 == 1

theorem level_of_top (wellFormed : outline.WellFormed)
    (link : outline.parent? index = some 0) : wellFormed.level index = 0 := by
  simp [level, wellFormed.ancestors_of_top link]

theorem level_of_child (wellFormed : outline.WellFormed)
    (link : outline.parent? child = some index) (inner : index ≠ 0) :
    wellFormed.level child =
      if outline.inverts index then wellFormed.level index else wellFormed.level index + 1 := by
  cases inverting : outline.inverts index <;>
    simp [level, wellFormed.ancestors_of_child link inner, inverting]

theorem inverted_of_top (wellFormed : outline.WellFormed)
    (link : outline.parent? index = some 0) : wellFormed.inverted index = false := by
  simp [inverted, wellFormed.ancestors_of_top link]

theorem inverted_of_child (wellFormed : outline.WellFormed)
    (link : outline.parent? child = some index) (inner : index ≠ 0) :
    wellFormed.inverted child = (outline.inverts index && !wellFormed.inverted index) := by
  cases inverting : outline.inverts index with
  | false => simp [inverted, wellFormed.ancestors_of_child link inner, inverting]
  | true =>
      simp only [inverted, wellFormed.ancestors_of_child link inner, inverting,
        List.takeWhile_cons_of_pos, List.length_cons, Bool.true_and]
      rw [Bool.eq_iff_iff, Bool.not_eq_true']
      simp only [beq_iff_eq, beq_eq_false_iff_ne]
      omega

end WellFormed

end Outline

namespace Rulebook

variable {outline : Outline} {index child : Nat}

/-- A block below the outermost level that reads as one statement. -/
def merges (book : Rulebook) (wellFormed : outline.WellFormed) (index : Nat) : Bool :=
  !outline.inverts index && outline.isBlock index &&
    (book.slots? (outline.tokenAt index).kind).isSome && decide (1 ≤ wellFormed.level index)

def isTitled (book : Rulebook) (wellFormed : outline.WellFormed) (index : Nat) : Bool :=
  !outline.inverts index && outline.isBlock index && !book.merges wellFormed index &&
    (book.namingKinds? (outline.tokenAt index).kind).isSome

/-- The first statement with a value of the first naming kind that has any in the block. -/
def namingChild? (book : Rulebook) (outline : Outline) (index : Nat) : Option Nat :=
  ((book.namingKinds? (outline.tokenAt index).kind).getD []).findSome? fun candidate =>
    (outline.children index).find? fun child =>
      (outline.tokenAt child).kind == candidate && (outline.tokenAt child).value.isSome

def isName (book : Rulebook) (wellFormed : outline.WellFormed) (index : Nat) : Bool :=
  (outline.parent? index).any fun block =>
    block != 0 && book.isTitled wellFormed block &&
      book.namingChild? outline block == some index

/-- A token that stands in a title or in a merged block, or below one that stands in a title. -/
def isHidden (book : Rulebook) (wellFormed : outline.WellFormed) (index : Nat) : Bool :=
  (index :: wellFormed.ancestors index).any (book.isName wellFormed) ||
    (wellFormed.ancestors index).any (book.merges wellFormed)

def titleAt (book : Rulebook) (outline : Outline) (index : Nat) : Fragment :=
  match book.namingChild? outline index with
  | some child => ⟨book.localizeValue (outline.tokenAt child), none⟩
  | none => ⟨(outline.tokenAt index).kind, some (outline.tokenAt index).kind⟩

def wordingAt (book : Rulebook) (wellFormed : outline.WellFormed) (index : Nat) : Fragment :=
  book.localize ((outline.parent? index).map fun parent => (outline.tokenAt parent).kind)
    (outline.tokenAt index)
    (wellFormed.inverted index != (outline.tokenAt index).negated)

def mergedAt (book : Rulebook) (wellFormed : outline.WellFormed) (index : Nat) : Merged :=
  book.merge (outline.tokenAt index) ((outline.children index).map outline.tokenAt)
    (wellFormed.inverted index != (outline.tokenAt index).negated)

/-- The lines of a token itself. Outside a block, and directly inside a block of the outermost
level, a statement without a block has none. -/
def ownPassage (book : Rulebook) (wellFormed : outline.WellFormed) (index : Nat) : Passage :=
  let depth := wellFormed.level index
  if !outline.isBlock index && decide (depth ≤ 1) then .empty
  else if book.merges wellFormed index then
    let merged := book.mergedAt wellFormed index
    let effects := (merged.modifier.map book.modifierEffects).getD []
    .ofFragment depth merged.fragment ++
      ⟨effects.flatMap (Document.Line.atDepth (depth + 1)), []⟩
  else if book.isTitled wellFormed index then .ofFragment depth (book.titleAt outline index)
  else .ofFragment depth (book.wordingAt wellFormed index)

def Passage.concat (passages : List Passage) : Passage :=
  ⟨passages.flatMap Passage.lines, passages.flatMap Passage.missing⟩

def passageOf (book : Rulebook) (wellFormed : outline.WellFormed) (indices : List Nat) :
    Passage :=
  .concat ((indices.filter fun index =>
    !outline.inverts index && !book.isHidden wellFormed index).map
      (book.ownPassage wellFormed))

/-- The lines of all tokens below the root in depth-first order. -/
def flatPassage (book : Rulebook) (wellFormed : outline.WellFormed) : Passage :=
  book.passageOf wellFormed (wellFormed.preorder 0).tail

@[simp] theorem Passage.concat_nil : Passage.concat [] = .empty := rfl

@[simp] theorem Passage.concat_cons (passage : Passage) (rest : List Passage) :
    Passage.concat (passage :: rest) = passage ++ Passage.concat rest := rfl

@[simp] theorem Passage.empty_append (passage : Passage) : Passage.empty ++ passage = passage :=
  rfl

@[simp] theorem Passage.append_empty (passage : Passage) : passage ++ Passage.empty = passage := by
  obtain ⟨lines, missing⟩ := passage
  change (⟨lines ++ [], missing ++ []⟩ : Passage) = ⟨lines, missing⟩
  simp

theorem Passage.append_assoc (first second third : Passage) :
    first ++ second ++ third = first ++ (second ++ third) := by
  change Passage.mk _ _ = Passage.mk _ _
  simp

@[simp] theorem Passage.concat_append (left right : List Passage) :
    Passage.concat (left ++ right) = Passage.concat left ++ Passage.concat right := by
  simp only [concat, List.flatMap_append]
  rfl

theorem visitAll_none (book : Rulebook) (depth : Nat) (parent : String) (inherited : Bool)
    (statements : List Statement) :
    book.visitAll depth parent inherited none statements =
      .concat (statements.map (book.visit depth parent inherited)) := by
  induction statements with
  | nil => simp [visitAll]
  | cons statement rest ih => simp [visitAll, ih]

theorem visitAll_some (book : Rulebook) (depth : Nat) (parent : String) (inherited : Bool)
    (skipped : Nat) (statements : List Statement) :
    book.visitAll depth parent inherited (some skipped) statements =
      .concat ((statements.eraseIdx skipped).map (book.visit depth parent inherited)) := by
  induction statements generalizing skipped with
  | nil => simp [visitAll]
  | cons statement rest ih =>
      cases skipped with
      | zero => simp [visitAll, visitAll_none]
      | succ skipped => simp [visitAll, ih]

theorem passageOf_append (book : Rulebook) (wellFormed : outline.WellFormed)
    (left right : List Nat) :
    book.passageOf wellFormed (left ++ right) =
      book.passageOf wellFormed left ++ book.passageOf wellFormed right := by
  simp [passageOf]

theorem passageOf_flatMap (book : Rulebook) (wellFormed : outline.WellFormed)
    (indices : List Nat) (below : Nat → List Nat) :
    book.passageOf wellFormed (indices.flatMap below) =
      .concat (indices.map fun index => book.passageOf wellFormed (below index)) := by
  induction indices with
  | nil => rfl
  | cons index rest ih =>
      rw [List.flatMap_cons, passageOf_append, ih, List.map_cons, Passage.concat_cons]

theorem isHidden_of_child (book : Rulebook) (wellFormed : outline.WellFormed)
    (link : outline.parent? child = some index) (inner : index ≠ 0) :
    book.isHidden wellFormed child =
      (book.isName wellFormed child || book.isHidden wellFormed index ||
        book.merges wellFormed index) := by
  simp only [isHidden, wellFormed.ancestors_of_child link inner, List.any_cons]
  ac_rfl

theorem isHidden_of_top (book : Rulebook) (wellFormed : outline.WellFormed)
    (link : outline.parent? index = some 0) : book.isHidden wellFormed index = false := by
  simp [isHidden, isName, link, wellFormed.ancestors_of_top link]

theorem Passage.concat_eq_empty {passages : List Passage}
    (all_empty : ∀ passage ∈ passages, passage = .empty) :
    Passage.concat passages = .empty := by
  induction passages with
  | nil => rfl
  | cons passage rest ih =>
      rw [concat_cons, all_empty passage (by simp), empty_append]
      exact ih fun other member => all_empty other (List.mem_cons_of_mem _ member)

theorem passageOf_preorder (book : Rulebook) (wellFormed : outline.WellFormed) (index : Nat) :
    book.passageOf wellFormed (wellFormed.preorder index) =
      (if !outline.inverts index && !book.isHidden wellFormed index then
        book.ownPassage wellFormed index
      else .empty) ++
        .concat ((outline.children index).map fun child =>
          book.passageOf wellFormed (wellFormed.preorder child)) := by
  rw [wellFormed.preorder_eq, ← List.singleton_append, passageOf_append, passageOf_flatMap]
  congr 1
  simp only [passageOf, List.filter_cons, List.filter_nil]
  split <;> simp

theorem passageOf_of_isHidden (book : Rulebook) (wellFormed : outline.WellFormed)
    (index : Nat) (inner : index ≠ 0) (hidden : book.isHidden wellFormed index = true) :
    book.passageOf wellFormed (wellFormed.preorder index) = .empty := by
  induction index using wellFormed.block_induction with
  | step index ih =>
      rw [passageOf_preorder, hidden, Bool.not_true, Bool.and_false, if_neg (by simp),
        Passage.empty_append]
      apply Passage.concat_eq_empty
      simp only [List.mem_map, forall_exists_index, and_imp]
      rintro _ child member rfl
      have link := Outline.mem_children.mp member
      apply ih child link
      · rintro rfl
        simp at link
      · simp [book.isHidden_of_child wellFormed link inner, hidden]

private theorem find?_eq_findIdx? {α : Type} (accepts : α → Bool) (values : List α) :
    values.find? accepts = (values.findIdx? accepts).bind (values[·]?) := by
  induction values with
  | nil => rfl
  | cons value rest ih =>
      rw [List.find?_cons, List.findIdx?_cons, ih]
      cases accepts value with
      | true => rfl
      | false => cases rest.findIdx? accepts <;> simp

theorem namingChild?_eq (book : Rulebook) (wellFormed : outline.WellFormed) (index : Nat) :
    book.namingChild? outline index =
      (namingIndex? ((book.namingKinds? (outline.tokenAt index).kind).getD [])
        ((outline.children index).map wellFormed.statementAt)).bind
          ((outline.children index)[·]?) := by
  simp only [namingChild?, namingIndex?]
  induction (book.namingKinds? (outline.tokenAt index).kind).getD [] with
  | nil => rfl
  | cons candidate rest ih =>
      rw [List.findSome?_cons, List.findSome?_cons, find?_eq_findIdx?, List.findIdx?_map]
      have same : (fun child => (outline.tokenAt child).kind == candidate &&
            (outline.tokenAt child).value.isSome) =
          (fun child : Statement => child.kind == candidate && child.token.value.isSome) ∘
            wellFormed.statementAt := by
        funext child
        rw [Function.comp_apply, wellFormed.statementAt_eq]
        rfl
      rw [← same]
      cases found : (outline.children index).findIdx? fun child =>
          (outline.tokenAt child).kind == candidate && (outline.tokenAt child).value.isSome with
      | none => simpa using ih
      | some position =>
          obtain ⟨bound, _⟩ := List.findIdx?_eq_some_iff_getElem.mp found
          simp [bound]

theorem role_of_token (book : Rulebook) (wellFormed : outline.WellFormed) (index : Nat) :
    book.role (wellFormed.level index) (outline.tokenAt index).kind
        ((outline.children index).map wellFormed.statementAt).isEmpty =
      if outline.inverts index then .inversion
      else if !outline.isBlock index && decide (wellFormed.level index ≤ 1) then .hidden
      else if book.merges wellFormed index then .merged
      else if book.isTitled wellFormed index then
        .named ((book.namingKinds? (outline.tokenAt index).kind).getD [])
      else .plain := by
  rw [List.isEmpty_map, role]
  cases inverting : outline.inverts index with
  | true => simp [show isInversion (outline.tokenAt index).kind = true from inverting]
  | false =>
      rw [show isInversion (outline.tokenAt index).kind = false from inverting]
      cases leaf : (outline.children index).isEmpty with
      | true => simp [Outline.isBlock, isTitled, merges, leaf]
      | false =>
          cases kinds : book.namingKinds? (outline.tokenAt index).kind <;>
            cases slots : book.slots? (outline.tokenAt index).kind <;>
            by_cases outer : wellFormed.level index = 0 <;>
            simp [Outline.isBlock, isTitled, merges, leaf, inverting, kinds, slots,
              outer, Nat.one_le_iff_ne_zero]

/-- The statements of a block are visited one level further in, unless the block is an inversion
block, and then they are inverted. -/
private theorem concat_visits (book : Rulebook) (wellFormed : outline.WellFormed)
    (inner : index ≠ 0) (members : List Nat)
    (linked : ∀ child ∈ members, outline.parent? child = some index)
    (visits : ∀ child ∈ members,
      book.visit (wellFormed.level child) (outline.tokenAt index).kind
          (wellFormed.inverted child) (wellFormed.statementAt child) =
        book.passageOf wellFormed (wellFormed.preorder child)) :
    Passage.concat ((members.map wellFormed.statementAt).map
        (book.visit
          (if outline.inverts index then wellFormed.level index else wellFormed.level index + 1)
          (outline.tokenAt index).kind
          (outline.inverts index && !wellFormed.inverted index))) =
      .concat (members.map fun child =>
        book.passageOf wellFormed (wellFormed.preorder child)) := by
  rw [List.map_map]
  congr 1
  apply List.map_congr_left
  intro child member
  rw [Function.comp_apply, ← visits child member,
    wellFormed.level_of_child (linked child member) inner,
    wellFormed.inverted_of_child (linked child member) inner]

private theorem visitAll_of_visible (book : Rulebook) (wellFormed : outline.WellFormed)
    (inner : index ≠ 0)
    (all_visible : ∀ child, outline.parent? child = some index →
      book.isHidden wellFormed child = false)
    (visits : ∀ child, outline.parent? child = some index →
      book.isHidden wellFormed child = false →
      book.visit (wellFormed.level child) (outline.tokenAt index).kind
          (wellFormed.inverted child) (wellFormed.statementAt child) =
        book.passageOf wellFormed (wellFormed.preorder child)) :
    book.visitAll
        (if outline.inverts index then wellFormed.level index else wellFormed.level index + 1)
        (outline.tokenAt index).kind (outline.inverts index && !wellFormed.inverted index) none
        ((outline.children index).map wellFormed.statementAt) =
      .concat ((outline.children index).map fun child =>
        book.passageOf wellFormed (wellFormed.preorder child)) := by
  rw [visitAll_none]
  have linked : ∀ child ∈ outline.children index, outline.parent? child = some index :=
    fun child member => Outline.mem_children.mp member
  exact book.concat_visits wellFormed inner (outline.children index) linked
    fun child member => visits child (linked child member) (all_visible child (linked child member))

private theorem below_of_merges (book : Rulebook) (wellFormed : outline.WellFormed)
    (inner : index ≠ 0) (merging : book.merges wellFormed index = true) :
    Passage.concat ((outline.children index).map fun child =>
      book.passageOf wellFormed (wellFormed.preorder child)) = .empty := by
  apply Passage.concat_eq_empty
  simp only [List.mem_map, forall_exists_index, and_imp]
  rintro _ child member rfl
  have link := Outline.mem_children.mp member
  apply book.passageOf_of_isHidden wellFormed child
  · rintro rfl
    simp at link
  · simp [book.isHidden_of_child wellFormed link inner, merging]

theorem tokens_of_children (wellFormed : outline.WellFormed) (index : Nat) :
    ((outline.children index).map wellFormed.statementAt).map Statement.token =
      (outline.children index).map outline.tokenAt := by
  rw [List.map_map]
  apply List.map_congr_left
  intro child _
  rw [Function.comp_apply, wellFormed.statementAt_eq, Statement.token_mk]

private theorem concat_eraseIdx {passageAt : Nat → Passage} {members : List Nat}
    {position skipped : Nat} (found : members[position]? = some skipped)
    (without : passageAt skipped = .empty) :
    Passage.concat ((members.eraseIdx position).map passageAt) =
      .concat (members.map passageAt) := by
  obtain ⟨bound, rfl⟩ := List.getElem?_eq_some_iff.mp found
  calc
    Passage.concat ((members.eraseIdx position).map passageAt) =
        .concat ((members.take position).map passageAt) ++
          .concat ((members.drop (position + 1)).map passageAt) := by
      rw [List.eraseIdx_eq_take_drop_succ, List.map_append, Passage.concat_append]
    _ = .concat ((members.take position ++
          members[position] :: members.drop (position + 1)).map passageAt) := by
      rw [List.map_append, Passage.concat_append, List.map_cons, Passage.concat_cons, without,
        Passage.empty_append]
    _ = .concat (members.map passageAt) := by
      rw [← List.drop_eq_getElem_cons bound, List.take_append_drop]

private theorem isHidden_of_titled (book : Rulebook) (wellFormed : outline.WellFormed)
    (inner : index ≠ 0) (titled : book.isTitled wellFormed index = true)
    (visible : book.isHidden wellFormed index = false)
    (link : outline.parent? child = some index) :
    book.isHidden wellFormed child = (book.namingChild? outline index == some child) := by
  have separate : book.merges wellFormed index = false := by
    simp only [isTitled, Bool.and_eq_true, Bool.not_eq_true'] at titled
    exact titled.1.2
  simp [book.isHidden_of_child wellFormed link inner, visible, separate, isName, link, titled,
    inner]

private theorem title_cases (book : Rulebook) (wellFormed : outline.WellFormed) (index : Nat) :
    ∃ skipped, book.title (outline.tokenAt index).kind
        ((book.namingKinds? (outline.tokenAt index).kind).getD [])
        ((outline.children index).map wellFormed.statementAt) =
          (book.titleAt outline index, skipped) ∧
      (skipped = none ∧ book.namingChild? outline index = none ∨
        ∃ position child, skipped = some position ∧
          (outline.children index)[position]? = some child ∧
          book.namingChild? outline index = some child) := by
  have naming := book.namingChild?_eq wellFormed index
  unfold title
  cases found : namingIndex? ((book.namingKinds? (outline.tokenAt index).kind).getD [])
      ((outline.children index).map wellFormed.statementAt) with
  | none =>
      rw [found, Option.bind_none] at naming
      exact ⟨none, by simp [titleAt, naming], .inl ⟨rfl, naming⟩⟩
  | some position =>
      rw [found, Option.bind_some] at naming
      simp only [List.getElem?_map]
      cases member : (outline.children index)[position]? with
      | none =>
          rw [member] at naming
          exact ⟨none, by simp [titleAt, naming], .inl ⟨rfl, naming⟩⟩
      | some child =>
          rw [member] at naming
          exact ⟨some position, by simp [titleAt, naming, wellFormed.statementAt_eq child],
            .inr ⟨position, child, rfl, member, naming⟩⟩

private theorem ne_of_mem_eraseIdx {members : List Nat} (apart : members.Nodup)
    {position skipped other : Nat} (found : members[position]? = some skipped)
    (member : other ∈ members.eraseIdx position) : other ≠ skipped := by
  obtain ⟨at_other, bound, elsewhere, rfl⟩ := List.mem_eraseIdx_iff_getElem.mp member
  obtain ⟨_, rfl⟩ := List.getElem?_eq_some_iff.mp found
  exact fun same => elsewhere (apart.getElem_inj_iff.mp same)

private theorem visitAll_of_erased (book : Rulebook) (wellFormed : outline.WellFormed)
    (inner : index ≠ 0) {position : Nat}
    (member : (outline.children index)[position]? = some child)
    (hidden : book.isHidden wellFormed child = true)
    (others_visible : ∀ other ∈ (outline.children index).eraseIdx position,
      book.isHidden wellFormed other = false)
    (visits : ∀ child, outline.parent? child = some index →
      book.isHidden wellFormed child = false →
      book.visit (wellFormed.level child) (outline.tokenAt index).kind
          (wellFormed.inverted child) (wellFormed.statementAt child) =
        book.passageOf wellFormed (wellFormed.preorder child)) :
    book.visitAll
        (if outline.inverts index then wellFormed.level index else wellFormed.level index + 1)
        (outline.tokenAt index).kind (outline.inverts index && !wellFormed.inverted index)
        (some position) ((outline.children index).map wellFormed.statementAt) =
      .concat ((outline.children index).map fun child =>
        book.passageOf wellFormed (wellFormed.preorder child)) := by
  have linked : ∀ other ∈ (outline.children index).eraseIdx position,
      outline.parent? other = some index :=
    fun other remaining => Outline.mem_children.mp (List.mem_of_mem_eraseIdx remaining)
  rw [visitAll_some, List.eraseIdx_map, book.concat_visits wellFormed inner _ linked
    fun other remaining => visits other (linked other remaining) (others_visible other remaining)]
  apply concat_eraseIdx member
  apply book.passageOf_of_isHidden wellFormed child _ hidden
  rintro rfl
  simpa using Outline.mem_children.mp (List.mem_of_getElem? member)

/-- The naming statement is left out of the visit of a titled block, and no other one is. -/
private theorem visit_titled (book : Rulebook) (wellFormed : outline.WellFormed)
    (inner : index ≠ 0) (titled : book.isTitled wellFormed index = true)
    (visible : book.isHidden wellFormed index = false)
    (visits : ∀ child, outline.parent? child = some index →
      book.isHidden wellFormed child = false →
      book.visit (wellFormed.level child) (outline.tokenAt index).kind
          (wellFormed.inverted child) (wellFormed.statementAt child) =
        book.passageOf wellFormed (wellFormed.preorder child)) :
    (book.title (outline.tokenAt index).kind
        ((book.namingKinds? (outline.tokenAt index).kind).getD [])
        ((outline.children index).map wellFormed.statementAt)).1 =
      book.titleAt outline index ∧
    book.visitAll
        (if outline.inverts index then wellFormed.level index else wellFormed.level index + 1)
        (outline.tokenAt index).kind (outline.inverts index && !wellFormed.inverted index)
        (book.title (outline.tokenAt index).kind
          ((book.namingKinds? (outline.tokenAt index).kind).getD [])
          ((outline.children index).map wellFormed.statementAt)).2
        ((outline.children index).map wellFormed.statementAt) =
      .concat ((outline.children index).map fun child =>
        book.passageOf wellFormed (wellFormed.preorder child)) := by
  have hidden : ∀ child, outline.parent? child = some index →
      book.isHidden wellFormed child = (book.namingChild? outline index == some child) :=
    fun _ => book.isHidden_of_titled wellFormed inner titled visible
  obtain ⟨skipped, title_eq, skips⟩ := book.title_cases wellFormed index
  rw [title_eq]
  refine ⟨rfl, ?_⟩
  rcases skips with ⟨rfl, nameless⟩ | ⟨position, child, rfl, member, naming⟩
  · refine book.visitAll_of_visible wellFormed inner (fun child link => ?_) visits
    simp [hidden child link, nameless]
  · refine book.visitAll_of_erased wellFormed inner member ?_ (fun other remaining => ?_) visits
    · simp [hidden child (Outline.mem_children.mp (List.mem_of_getElem? member)), naming]
    · have link := Outline.mem_children.mp (List.mem_of_mem_eraseIdx remaining)
      have apart := ne_of_mem_eraseIdx (outline.children_nodup index) member remaining
      simp [hidden other link, naming, apart.symm]

theorem visit_statementAt (book : Rulebook) (wellFormed : outline.WellFormed)
    (index : Nat) {parent : Nat} (link : outline.parent? index = some parent)
    (visible : book.isHidden wellFormed index = false) :
    book.visit (wellFormed.level index) (outline.tokenAt parent).kind
        (wellFormed.inverted index) (wellFormed.statementAt index) =
      book.passageOf wellFormed (wellFormed.preorder index) := by
  induction index using wellFormed.block_induction generalizing parent with
  | step index ih =>
      have inner : index ≠ 0 := by
        rintro rfl
        simp at link
      have visits := fun child (childLink : outline.parent? child = some index) =>
        ih child childLink childLink
      rw [wellFormed.statementAt_eq, visit, role_of_token, passageOf_preorder, visible]
      by_cases inverting : outline.inverts index = true
      · have all_visible : ∀ child, outline.parent? child = some index →
            book.isHidden wellFormed child = false := by
          intro child childLink
          simp [book.isHidden_of_child wellFormed childLink inner, visible, isName, childLink,
            isTitled, merges, inverting]
        have below := book.visitAll_of_visible wellFormed inner all_visible visits
        simpa [inverting] using below
      · rw [Bool.not_eq_true] at inverting
        simp only [inverting, Bool.false_eq_true, if_false, Bool.not_false, Bool.and_true,
          if_true, ownPassage]
        by_cases silent : (!outline.isBlock index && decide (wellFormed.level index ≤ 1)) = true
        · have childless : outline.children index = [] := by
            simp only [Outline.isBlock, Bool.not_not, Bool.and_eq_true] at silent
            exact List.isEmpty_iff.mp silent.1
          simp [silent, childless]
        · rw [if_neg silent, if_neg silent]
          by_cases merging : book.merges wellFormed index = true
          · rw [if_pos merging, if_pos merging, book.below_of_merges wellFormed inner merging,
              Passage.append_empty]
            simp only [mergedPassage, tokens_of_children, mergedAt]
          · rw [if_neg merging, if_neg merging]
            by_cases titled : book.isTitled wellFormed index = true
            · obtain ⟨name_eq, below⟩ :=
                book.visit_titled wellFormed inner titled visible visits
              simp only [inverting, Bool.false_eq_true, if_false, Bool.false_and] at below
              simp only [if_pos titled, name_eq, below]
            · have all_visible : ∀ child, outline.parent? child = some index →
                  book.isHidden wellFormed child = false := by
                intro child childLink
                simp [book.isHidden_of_child wellFormed childLink inner, visible, isName,
                  childLink, titled, merging]
              have below := book.visitAll_of_visible wellFormed inner all_visible visits
              simp only [inverting, Bool.false_eq_true, if_false, Bool.false_and] at below
              simp only [if_neg titled, wordingAt, link, Option.map_some, below]

theorem passage_eq_flatPassage (book : Rulebook) (wellFormed : outline.WellFormed) :
    book.passage outline.toStatement = book.flatPassage wellFormed := by
  have top : ∀ child ∈ outline.children 0, outline.parent? child = some 0 :=
    fun child member => Outline.mem_children.mp member
  have visits : ∀ child ∈ outline.children 0,
      book.visit 0 outline.root.kind false (wellFormed.statementAt child) =
        book.passageOf wellFormed (wellFormed.preorder child) := by
    intro child member
    have link := top child member
    have visited := book.visit_statementAt wellFormed child link
      (book.isHidden_of_top wellFormed link)
    rwa [wellFormed.level_of_top link, wellFormed.inverted_of_top link,
      Outline.tokenAt_zero] at visited
  rw [Outline.toStatement_eq_statementAt wellFormed, wellFormed.statementAt_eq, passage,
    flatPassage, wellFormed.preorder_eq, List.tail_cons, passageOf_flatMap]
  simp only [Statement.children_mk, Statement.kind_mk, Outline.tokenAt_zero, visitAll_none]
  rw [List.map_map]
  congr 1
  exact List.map_congr_left visits

/-- The document of a script is its flat reading, whatever has been found before. -/
theorem render_eq_flatPassage (built : outline.Built) (book : Rulebook) (findings : Findings) :
    book.render outline findings =
      (⟨(book.flatPassage built.wellFormed).lines⟩,
        findings.recordAll (book.flatPassage built.wellFormed).missing) := by
  rw [render, book.passage_eq_flatPassage built.wellFormed]

def optionOutline : Outline :=
  ((((((Outline.new (.bare rootKind)).push 0 (.make "country_event" (some .equal) none)).push 1
    (.make "title" (some .equal) (some "EVT_NAME"))).push 1
    (.make "option" (some .equal) none)).push 3
    (.make "NOT" (some .equal) none)).push 4
    (.make "add_country_modifier" (some .equal) none)).push 5
    (.make "name" (some .equal) (some "pride"))

def optionBook : Rulebook :=
  { empty with
    namedBlocks := (∅ : Dictionary (List String)).insert "country_event" ["title"]
    mergedBlocks := (∅ : Dictionary (List String)).insert "add_country_modifier" ["name"]
    modifiers := (∅ : Dictionary (List String)).insert "pride" ["Prestige: +1"] }

theorem render_optionOutline :
    ∃ built : optionOutline.Built,
      optionBook.render optionOutline .empty =
        (⟨(optionBook.flatPassage built.wellFormed).lines⟩,
          Findings.empty.recordAll (optionBook.flatPassage built.wellFormed).missing) ∧
      (optionBook.flatPassage built.wellFormed).lines =
        [⟨.header, "EVT_NAME"⟩, ⟨.subtitle, "option"⟩,
          ⟨.bullet 1, "add_country_modifier: pride"⟩, ⟨.bullet 2, "Prestige: +1"⟩] := by
  have built : optionOutline.Built := by
    repeat refine .push ?_ (by decide) _
    exact .new _
  have flat := render_eq_flatPassage built optionBook .empty
  have rendered : (optionBook.render optionOutline .empty).1 =
      ⟨[⟨.header, "EVT_NAME"⟩, ⟨.subtitle, "option"⟩,
        ⟨.bullet 1, "add_country_modifier: pride"⟩, ⟨.bullet 2, "Prestige: +1"⟩]⟩ := by
    decide +kernel
  rw [flat] at rendered
  exact ⟨built, flat, congrArg Document.entries rendered⟩

end Rulebook

end EventWiki
