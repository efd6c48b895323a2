import EventWiki.Proofs.OutlineTree
import Mathlib

namespace EventWiki.Outline

variable {outline : Outline} {index parent child : Nat}

/-- A token is another one or stands in its block, at any depth. -/
def StandsUnder (outline : Outline) : Nat → Nat → Prop :=
  Relation.ReflTransGen fun child parent => outline.parent? child = some parent

/-- Every token is entered under the one before it or under a block around that one. -/
def DepthFirst (outline : Outline) : Prop :=
  ∀ index parent, outline.parent? (index + 1) = some parent → outline.StandsUnder index parent

theorem StandsUnder.le {upper lower : Nat} (wellFormed : outline.WellFormed)
    (under : outline.StandsUnder lower upper) : upper ≤ lower := by
  induction under with
  | refl => exact Nat.le_refl _
  | tail _ link ih => exact Nat.le_trans (Nat.le_of_lt (wellFormed.parent_lt link)) ih

theorem StandsUnder.total {lower upper other : Nat} (first : outline.StandsUnder lower upper)
    (second : outline.StandsUnder lower other) :
    outline.StandsUnder upper other ∨ outline.StandsUnder other upper :=
  Relation.ReflTransGen.total_of_right_unique
    (fun _ _ _ left right => Option.some.inj (left.symm.trans right)) first second

theorem StandsUnder.between (ordered : outline.DepthFirst)
    {upper middle lower : Nat} (under : outline.StandsUnder lower upper)
    (above : upper ≤ middle) (below : middle ≤ lower) : outline.StandsUnder middle upper := by
  induction lower with
  | zero =>
      obtain rfl : middle = 0 := by omega
      exact under
  | succ lower ih =>
      by_cases last : middle = lower + 1
      · exact last ▸ under
      · rcases Relation.ReflTransGen.cases_head under with rfl | ⟨parent, link, higher⟩
        · omega
        · exact ih ((ordered lower parent link).trans higher) (by omega)

theorem exists_parent (bound : index + 1 < outline.size) :
    ∃ parent, outline.parent? (index + 1) = some parent := by
  have inside : index < outline.entries.size := by
    simp only [size] at bound
    omega
  exact ⟨outline.entries[index].parent, by simp [parent?, inside]⟩

namespace WellFormed

theorem standsUnder_root (wellFormed : outline.WellFormed) (bound : index < outline.size) :
    outline.StandsUnder index 0 := by
  induction index using Nat.strong_induction_on with
  | _ index ih =>
      cases index with
      | zero => exact .refl
      | succ index =>
          obtain ⟨parent, link⟩ := exists_parent bound
          have before := wellFormed.parent_lt link
          exact .head link (ih parent before (Nat.lt_trans before bound))

theorem mem_preorder (wellFormed : outline.WellFormed) {lower upper : Nat} :
    lower ∈ wellFormed.preorder upper ↔ outline.StandsUnder lower upper := by
  constructor
  · intro member
    induction upper using wellFormed.block_induction with
    | step upper ih =>
        rw [wellFormed.preorder_eq, List.mem_cons, List.mem_flatMap] at member
        rcases member with rfl | ⟨child, childMember, member⟩
        · exact .refl
        · have link := mem_children.mp childMember
          exact .tail (ih child link member) link
  · intro under
    induction under with
    | refl =>
        rw [wellFormed.preorder_eq]
        exact List.mem_cons_self
    | @tail middle upper _ link ih =>
        rw [wellFormed.preorder_eq, List.mem_cons, List.mem_flatMap]
        exact .inr ⟨middle, mem_children.mpr link, ih⟩

theorem preorder_disjoint (wellFormed : outline.WellFormed) {other : Nat}
    (link : outline.parent? child = some parent) (otherLink : outline.parent? other = some parent)
    (apart : child ≠ other) :
    (wellFormed.preorder child).Disjoint (wellFormed.preorder other) := by
  have outside : ∀ {upper lower : Nat}, outline.parent? upper = some parent →
      outline.parent? lower = some parent → upper ≠ lower → ¬outline.StandsUnder lower upper := by
    intro upper lower upperLink lowerLink differ under
    rcases Relation.ReflTransGen.cases_head under with rfl | ⟨between, step, higher⟩
    · exact differ rfl
    · obtain rfl := Option.some.inj (lowerLink.symm.trans step)
      have := StandsUnder.le wellFormed higher
      have := wellFormed.parent_lt upperLink
      omega
  intro lower member otherMember
  rw [wellFormed.mem_preorder] at member otherMember
  rcases member.total otherMember with under | under
  · exact outside otherLink link apart.symm under
  · exact outside link otherLink apart under

theorem preorder_nodup (wellFormed : outline.WellFormed) (index : Nat) :
    (wellFormed.preorder index).Nodup := by
  induction index using wellFormed.block_induction with
  | step index ih =>
      rw [wellFormed.preorder_eq, List.nodup_cons, List.nodup_flatMap]
      refine ⟨fun member => ?_, fun child member => ih child (mem_children.mp member), ?_⟩
      · obtain ⟨child, childMember, member⟩ := List.mem_flatMap.mp member
        have := wellFormed.parent_lt (mem_children.mp childMember)
        have := (wellFormed.mem_preorder.mp member).le wellFormed
        omega
      · refine (outline.children_nodup index).imp_of_mem fun childMember otherMember apart => ?_
        exact wellFormed.preorder_disjoint (mem_children.mp childMember)
          (mem_children.mp otherMember) apart

theorem lt_size_of_mem_preorder (wellFormed : outline.WellFormed) {lower : Nat}
    (link : outline.parent? child = some parent) (member : lower ∈ wellFormed.preorder child) :
    lower < outline.size := by
  rcases Relation.ReflTransGen.cases_head (wellFormed.mem_preorder.mp member) with
    rfl | ⟨above, step, -⟩
  · exact lt_size_of_parent? link
  · exact lt_size_of_parent? step

theorem lt_size_of_mem_tail (wellFormed : outline.WellFormed)
    (member : index ∈ (wellFormed.preorder 0).tail) : 0 < index ∧ index < outline.size := by
  rw [wellFormed.preorder_eq, List.tail_cons, List.mem_flatMap] at member
  obtain ⟨child, childMember, member⟩ := member
  have link := mem_children.mp childMember
  have after := wellFormed.parent_lt link
  have above := (wellFormed.mem_preorder.mp member).le wellFormed
  exact ⟨Nat.lt_of_lt_of_le after above, wellFormed.lt_size_of_mem_preorder link member⟩

theorem preorder_sorted (wellFormed : outline.WellFormed) (ordered : outline.DepthFirst)
    (index : Nat) : (wellFormed.preorder index).Pairwise (· < ·) := by
  induction index using wellFormed.block_induction with
  | step index ih =>
      rw [wellFormed.preorder_eq, List.pairwise_cons, List.pairwise_flatMap]
      refine ⟨fun lower member => ?_, fun child member => ih child (mem_children.mp member), ?_⟩
      · obtain ⟨child, childMember, member⟩ := List.mem_flatMap.mp member
        have after := wellFormed.parent_lt (mem_children.mp childMember)
        exact Nat.lt_of_lt_of_le after ((wellFormed.mem_preorder.mp member).le wellFormed)
      · refine (outline.children_sorted index).imp_of_mem ?_
        intro child next childMember nextMember before lower member other otherMember
        have childLink := mem_children.mp childMember
        have nextLink := mem_children.mp nextMember
        have lowerUnder := wellFormed.mem_preorder.mp member
        have otherUnder := wellFormed.mem_preorder.mp otherMember
        by_contra later
        have between := StandsUnder.between ordered lowerUnder
          (Nat.le_trans (Nat.le_of_lt before) (otherUnder.le wellFormed)) (Nat.not_lt.mp later)
        exact wellFormed.preorder_disjoint childLink nextLink (Nat.ne_of_lt before)
          (wellFormed.mem_preorder.mpr between) otherMember

theorem preorder_root (wellFormed : outline.WellFormed) (ordered : outline.DepthFirst) :
    wellFormed.preorder 0 = List.range outline.size := by
  apply (wellFormed.preorder_sorted ordered 0).eq_of_mem_iff List.pairwise_lt_range
  intro index
  rw [wellFormed.mem_preorder, List.mem_range]
  constructor
  · intro under
    rcases Relation.ReflTransGen.cases_head under with rfl | ⟨parent, link, _⟩
    · exact Nat.succ_pos _
    · exact lt_size_of_parent? link
  · exact wellFormed.standsUnder_root

end WellFormed

end EventWiki.Outline
