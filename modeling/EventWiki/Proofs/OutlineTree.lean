import EventWiki.Outline
import Mathlib

namespace EventWiki.Outline

variable {outline : Outline} {index parent child : Nat}

/-- The outlines that come about by entering tokens under tokens that are there. -/
inductive Built : Outline → Prop where
  | new (root : Token) : Built (.new root)
  | push {outline : Outline} (built : Built outline) {parent : Nat}
      (known : parent < outline.size) (token : Token) : Built (outline.push parent token)

theorem Built.wellFormed (built : outline.Built) : outline.WellFormed := by
  induction built with
  | new root => exact wellFormed_new root
  | push _ known token previous => exact previous.push known token

def tokenAt (outline : Outline) (index : Nat) : Token :=
  (outline.token? index).getD outline.root

@[simp] theorem tokenAt_zero (outline : Outline) : outline.tokenAt 0 = outline.root := rfl

@[simp] theorem parent?_zero (outline : Outline) : outline.parent? 0 = none := rfl

theorem lt_size_of_parent? (link : outline.parent? child = some parent) :
    child < outline.size := by
  cases child with
  | zero => simp at link
  | succ child =>
      simp only [parent?, Option.map_eq_some_iff] at link
      obtain ⟨entry, found, _⟩ := link
      obtain ⟨bound, _⟩ := Array.getElem?_eq_some_iff.mp found
      simp only [size]
      omega

theorem mem_children :
    child ∈ outline.children parent ↔ outline.parent? child = some parent := by
  simp only [children, List.mem_filterMap, Prod.exists]
  constructor
  · rintro ⟨entry, position, member, selected⟩
    obtain ⟨first, found⟩ := List.mem_zipIdx_iff_le_and_getElem?_sub.mp member
    split at selected
    · next linked =>
        obtain rfl := Option.some.inj selected
        obtain ⟨position, rfl⟩ := Nat.exists_eq_add_of_le' first
        simp only [Nat.add_sub_cancel, Array.getElem?_toList] at found
        simp [parent?, found, linked]
    · contradiction
  · intro link
    cases child with
    | zero => simp at link
    | succ child =>
        simp only [parent?, Option.map_eq_some_iff] at link
        obtain ⟨entry, found, linked⟩ := link
        refine ⟨entry, child + 1, ?_, by simp [linked]⟩
        rw [List.mem_zipIdx_iff_le_and_getElem?_sub]
        exact ⟨by omega, by simpa using found⟩

theorem children_sorted (outline : Outline) (parent : Nat) :
    (outline.children parent).Pairwise (· < ·) := by
  unfold children
  rw [List.pairwise_filterMap]
  have numbered : ((outline.entries.toList.zipIdx 1).map Prod.snd).Pairwise (· < ·) := by
    rw [List.zipIdx_map_snd]
    exact List.pairwise_lt_range'
  refine (List.pairwise_map.mp numbered).imp ?_
  rintro ⟨entry, index⟩ ⟨other, next⟩ before left hleft right hright
  simp only at before hleft hright
  split at hleft <;> split at hright <;> simp_all

theorem children_nodup (outline : Outline) (parent : Nat) : (outline.children parent).Nodup :=
  (outline.children_sorted parent).imp Nat.ne_of_lt

theorem WellFormed.parent_lt (wellFormed : outline.WellFormed)
    (link : outline.parent? child = some parent) : parent < child := by
  cases child with
  | zero => simp at link
  | succ child =>
      simp only [parent?, Option.map_eq_some_iff] at link
      obtain ⟨entry, found, rfl⟩ := link
      exact Nat.lt_succ_of_le (wellFormed child entry found)

namespace WellFormed

def statementAt (wellFormed : outline.WellFormed) (index : Nat) : Statement :=
  .mk (outline.tokenAt index)
    ((outline.children index).attach.map fun child => wellFormed.statementAt child.1)
termination_by outline.size - index
decreasing_by
  have link := mem_children.mp child.2
  have := wellFormed.parent_lt link
  have := lt_size_of_parent? link
  omega

theorem statementAt_eq (wellFormed : outline.WellFormed) (index : Nat) :
    wellFormed.statementAt index =
      .mk (outline.tokenAt index)
        ((outline.children index).map wellFormed.statementAt) := by
  rw [statementAt]
  congr 1
  exact List.attach_map_val

/-- A token and all tokens under it, each before its children. -/
def preorder (wellFormed : outline.WellFormed) (index : Nat) : List Nat :=
  index :: (outline.children index).attach.flatMap fun child => wellFormed.preorder child.1
termination_by outline.size - index
decreasing_by
  have link := mem_children.mp child.2
  have := wellFormed.parent_lt link
  have := lt_size_of_parent? link
  omega

theorem preorder_eq (wellFormed : outline.WellFormed) (index : Nat) :
    wellFormed.preorder index =
      index :: (outline.children index).flatMap wellFormed.preorder := by
  rw [preorder]
  congr 1
  rw [List.flatMap_subtype (g := wellFormed.preorder) (fun _ _ => rfl), List.unattach_attach]

theorem block_induction (wellFormed : outline.WellFormed) {motive : Nat → Prop}
    (step : ∀ index,
      (∀ child, outline.parent? child = some index → motive child) → motive index)
    (index : Nat) : motive index := by
  apply step
  intro child link
  have := wellFormed.parent_lt link
  have := lt_size_of_parent? link
  exact wellFormed.block_induction step child
termination_by outline.size - index

/-- The tokens that a token stands under, the nearest one first, without the root. -/
def ancestors (wellFormed : outline.WellFormed) (index : Nat) : List Nat :=
  match link : outline.parent? index with
  | none => []
  | some 0 => []
  | some (parent + 1) => (parent + 1) :: wellFormed.ancestors (parent + 1)
termination_by index
decreasing_by exact wellFormed.parent_lt link

theorem ancestors_of_top (wellFormed : outline.WellFormed)
    (link : outline.parent? index = some 0) : wellFormed.ancestors index = [] := by
  rw [ancestors]
  split <;> simp_all

theorem ancestors_of_child (wellFormed : outline.WellFormed)
    (link : outline.parent? child = some index) (inner : index ≠ 0) :
    wellFormed.ancestors child = index :: wellFormed.ancestors index := by
  rw [ancestors]
  split <;> simp_all

end WellFormed

private def numberedChildren (numbered : List (Entry × Nat)) (parent : Nat) : List Nat :=
  numbered.filterMap fun (entry, index) => if entry.parent = parent then some index else none

private theorem numberedChildren_append (left right : List (Entry × Nat)) (parent : Nat) :
    numberedChildren (left ++ right) parent =
      numberedChildren left parent ++ numberedChildren right parent :=
  List.filterMap_append

private theorem children_eq_numberedChildren (outline : Outline) (parent : Nat) :
    outline.children parent = numberedChildren (outline.entries.toList.zipIdx 1) parent := rfl

private theorem children_eq_of_split (wellFormed : outline.WellFormed)
    {done rest : List Entry} {entry : Entry}
    (split : outline.entries.toList = done ++ entry :: rest) :
    outline.children (done.length + 1) =
      numberedChildren (rest.zipIdx (done.length + 2)) (done.length + 1) := by
  have early : numberedChildren ((done ++ [entry]).zipIdx 1) (done.length + 1) = [] := by
    simp only [numberedChildren, List.filterMap_eq_nil_iff, Prod.forall]
    intro other position member
    obtain ⟨_, found⟩ := List.mem_zipIdx_iff_le_and_getElem?_sub.mp member
    obtain ⟨bound, _⟩ := List.getElem?_eq_some_iff.mp found
    have listed : outline.entries[position - 1]? = some other := by
      rw [← Array.getElem?_toList, split, List.append_cons, List.getElem?_append_left bound,
        found]
    have := wellFormed (position - 1) other listed
    simp only [List.length_append, List.length_singleton] at bound
    rw [if_neg (by omega)]
  rw [children_eq_numberedChildren, split, List.append_cons, List.zipIdx_append,
    numberedChildren_append, early, List.nil_append, List.length_append, List.length_singleton]
  congr 2
  omega

theorem getD_close (pending : Pending) (index : Nat) (entry : Entry)
    (bound : entry.parent < pending.size) (parent : Nat) :
    (pending.close index entry).getD parent [] =
      if entry.parent = parent then
        .mk entry.token (pending.getD index []) :: pending.getD parent []
      else pending.getD parent [] := by
  simp only [Pending.close, Array.getD_eq_getD_getElem?, Array.getElem?_modify]
  split
  · next linked =>
      subst linked
      simp [bound]
  · rfl

@[simp] theorem size_close (pending : Pending) (index : Nat) (entry : Entry) :
    (pending.close index entry).size = pending.size := by
  simp [Pending.close]

private theorem pending_of_split (wellFormed : outline.WellFormed)
    (done rest : List Entry) (split : outline.entries.toList = done ++ rest) :
    let pending := (rest.zipIdx (done.length + 1)).foldr
      (fun (entry, index) (pending : Pending) => pending.close index entry)
      (Array.replicate outline.size [])
    pending.size = outline.size ∧
      ∀ parent, pending.getD parent [] =
        (numberedChildren (rest.zipIdx (done.length + 1)) parent).map
          wellFormed.statementAt := by
  induction rest generalizing done with
  | nil =>
      simp only [List.zipIdx_nil, List.foldr_nil, Array.size_replicate, true_and,
        Array.getD_eq_getD_getElem?, Array.getElem?_replicate]
      intro parent
      split <;> rfl
  | cons entry rest ih =>
      have shifted : outline.entries.toList = (done ++ [entry]) ++ rest := by
        rw [split, List.append_cons]
      obtain ⟨size_eq, waiting⟩ := ih (done ++ [entry]) shifted
      rw [List.length_append, List.length_singleton] at size_eq waiting
      have found : outline.entries[done.length]? = some entry := by
        simp [← Array.getElem?_toList, split]
      have bound : entry.parent < outline.size := by
        obtain ⟨inside, _⟩ := Array.getElem?_eq_some_iff.mp found
        have := wellFormed done.length entry found
        simp only [size]
        omega
      have completed : wellFormed.statementAt (done.length + 1) = .mk entry.token
          ((numberedChildren (rest.zipIdx (done.length + 2)) (done.length + 1)).map
            wellFormed.statementAt) := by
        rw [wellFormed.statementAt_eq, children_eq_of_split wellFormed split]
        simp [tokenAt, token?, found]
      simp only [List.zipIdx_cons, List.foldr_cons]
      refine ⟨by rw [size_close, size_eq], fun parent => ?_⟩
      rw [getD_close _ _ _ (by rw [size_eq]; exact bound), waiting, waiting, ← completed]
      simp only [numberedChildren, List.filterMap_cons]
      split <;> rfl

theorem toStatement_eq_statementAt (wellFormed : outline.WellFormed) :
    outline.toStatement = wellFormed.statementAt 0 := by
  obtain ⟨_, waiting⟩ := pending_of_split wellFormed [] outline.entries.toList rfl
  rw [wellFormed.statementAt_eq, children_eq_numberedChildren, tokenAt_zero]
  exact congrArg (Statement.mk outline.root) (waiting 0)

end EventWiki.Outline
