import EventWiki.Proofs.ByteOrder
import EventWiki.Proofs.EditDistance

namespace EventWiki.Suggestion

variable {key left right : String} {available found : List String}

/-- Few edits away, but not the key itself. -/
def IsNear (key candidate : String) : Prop :=
  0 < editDistance key candidate ∧
    editDistance key candidate ≤ if key.length ≤ 3 then 1 else 2

instance (key candidate : String) : Decidable (IsNear key candidate) :=
  inferInstanceAs (Decidable (_ ∧ _))

/-- The nearer key comes first, and of two at one distance the one with the lesser bytes. -/
def Before (key left right : String) : Prop :=
  editDistance key left < editDistance key right ∨
    editDistance key left = editDistance key right ∧ Text.bytes left ≤ Text.bytes right

/-- At most three of the available keys, each as often as it is available at most. Nothing that is
left over comes before them, and nothing near is left over if they are fewer than three. -/
structure AreNearest (key : String) (available found : List String) : Prop where
  length_le : found.length ≤ 3
  near : ∀ candidate ∈ found, IsNear key candidate
  ordered : found.Pairwise (Before key)
  left_over : ∃ rest, available.Perm (found ++ rest) ∧
    ∀ candidate ∈ rest, IsNear key candidate →
      found.length = 3 ∧ ∀ other ∈ found, Before key other candidate

def ranks (key left right : String) : Bool :=
  precedes (editDistance key left, left) (editDistance key right, right)

def ranked (key : String) (available : List String) : List String :=
  (available.filter fun candidate => decide (IsNear key candidate)).mergeSort (ranks key)

theorem nearest_eq (key : String) (available : List String) :
    nearest key available = (ranked key available).take 3 := by
  let score := fun candidate => (editDistance key candidate, candidate)
  have near_eq : (fun scored : Nat × String =>
      decide (0 < scored.1) && decide (scored.1 ≤ tolerance key)) ∘ score =
        fun candidate => decide (IsNear key candidate) := by
    funext candidate
    rw [Bool.eq_iff_iff]
    simp only [Function.comp_apply, Bool.and_eq_true, decide_eq_true_eq]
    rfl
  have sorted := List.map_mergeSort (r := ranks key) (s := precedes) (f := score)
    (l := available.filter fun candidate => decide (IsNear key candidate)) fun _ _ _ _ => rfl
  have unscored : Prod.snd ∘ score = id := rfl
  calc nearest key available
      = ((((available.map score).filter fun scored =>
          decide (0 < scored.1) && decide (scored.1 ≤ tolerance key)).mergeSort
            precedes).take 3).map Prod.snd := rfl
    _ = (((ranked key available).map score).take 3).map Prod.snd := by
        rw [List.filter_map, near_eq, ← sorted, ranked]
    _ = (ranked key available).take 3 := by
        rw [← List.map_take, List.map_map, unscored, List.map_id]

theorem ranks_iff : ranks key left right = true ↔
    editDistance key left < editDistance key right ∨
      editDistance key left = editDistance key right ∧ left ≤ right := by
  simp [ranks, precedes]

theorem ranks_trans (left middle right : String) (first : ranks key left middle = true)
    (second : ranks key middle right = true) : ranks key left right = true := by
  rw [ranks_iff] at first second ⊢
  rcases first with nearer | ⟨same, lesser⟩ <;> rcases second with nearer' | ⟨same', lesser'⟩
  · exact .inl (Nat.lt_trans nearer nearer')
  · exact .inl (same' ▸ nearer)
  · exact .inl (same ▸ nearer')
  · exact .inr ⟨same.trans same', String.le_trans lesser lesser'⟩

theorem ranks_total (left right : String) :
    (ranks key left right || ranks key right left) = true := by
  rw [Bool.or_eq_true, ranks_iff, ranks_iff]
  rcases Nat.lt_trichotomy (editDistance key left) (editDistance key right) with
    nearer | same | farther
  · exact .inl (.inl nearer)
  · rcases String.le_total left right with lesser | greater
    · exact .inl (.inr ⟨same, lesser⟩)
    · exact .inr (.inr ⟨same.symm, greater⟩)
  · exact .inr (.inl farther)

theorem ranks_antisymm (first : ranks key left right = true)
    (second : ranks key right left = true) : left = right := by
  rw [ranks_iff] at first second
  rcases first with nearer | ⟨same, lesser⟩ <;> rcases second with nearer' | ⟨_, greater⟩
  · omega
  · omega
  · omega
  · exact String.le_antisymm lesser greater

theorem before_of_ranks (ranked : ranks key left right = true) : Before key left right := by
  rcases ranks_iff.mp ranked with nearer | ⟨same, lesser⟩
  · exact .inl nearer
  · refine .inr ⟨same, ?_⟩
    rcases lt_or_eq_of_le lesser with less | rfl
    · exact List.le_of_lt (Text.bytes_lt_bytes less)
    · exact List.le_refl _

theorem ranked_perm (key : String) (available : List String) :
    (ranked key available).Perm (available.filter fun candidate => decide (IsNear key candidate)) :=
  List.mergeSort_perm _ _

theorem ranked_sorted (key : String) (available : List String) :
    (ranked key available).Pairwise fun left right => ranks key left right = true :=
  List.pairwise_mergeSort ranks_trans ranks_total _

theorem ranked_congr {other : List String} (rearranged : available.Perm other) :
    ranked key other = ranked key available := by
  refine List.Perm.eq_of_pairwise (fun _ _ _ _ => ranks_antisymm) (ranked_sorted key other)
    (ranked_sorted key available) ?_
  exact (ranked_perm key other).trans
    ((rearranged.symm.filter _).trans (ranked_perm key available).symm)

theorem areNearest_take (key : String) (available : List String) :
    AreNearest key available ((ranked key available).take 3) := by
  have split := List.take_append_drop 3 (ranked key available)
  have apart := List.pairwise_append.mp (split ▸ ranked_sorted key available)
  obtain ⟨taken, -, across⟩ := apart
  have near_of_mem : ∀ candidate ∈ ranked key available, IsNear key candidate := by
    intro candidate member
    have kept := (ranked_perm key available).mem_iff.mp member
    exact of_decide_eq_true (List.mem_filter.mp kept).2
  refine ⟨List.length_take_le 3 _, ?_, taken.imp before_of_ranks, ?_⟩
  · intro candidate member
    exact near_of_mem candidate (List.mem_of_mem_take member)
  · refine ⟨(ranked key available).drop 3 ++
      available.filter (fun candidate => !decide (IsNear key candidate)), ?_, ?_⟩
    · rw [← List.append_assoc, split]
      exact ((ranked_perm key available).append_right _).trans
        (List.filter_append_perm _ available) |>.symm
    · intro candidate member near
      rcases List.mem_append.mp member with dropped | far
      · refine ⟨?_, fun other found => before_of_ranks (across other found candidate dropped)⟩
        have longer := List.length_pos_of_mem dropped
        rw [List.length_drop] at longer
        rw [List.length_take]
        omega
      · simp [near] at far

/-- The keys found are the nearest ones, by the least number of edits, whatever the order in which
the available ones are given. -/
theorem nearest_areNearest (key : String) (available : List String) :
    (∀ candidate, IsLeast {count | Edits count key.toList candidate.toList}
      (editDistance key candidate)) ∧
    AreNearest key available (nearest key available) ∧
    ∀ other, available.Perm other → nearest key other = nearest key available := by
  refine ⟨editDistance_isLeast key, ?_, ?_⟩
  · rw [nearest_eq]
    exact areNearest_take key available
  · intro other rearranged
    rw [nearest_eq, nearest_eq, ranked_congr rearranged]

theorem nearest_trade_of_ties :
    let available := ["grade", "trades", "tirade", "trade", "grade", "decade", "lemonade"]
    let other := ["lemonade", "decade", "grade", "trade", "tirade", "grade", "trades"]
    available.Perm other ∧ nearest "trade" other = nearest "trade" available ∧
      nearest "trade" available = ["grade", "grade", "tirade"] := by
  intro available other
  have rearranged : available.Perm other := by decide
  have in_order : ranked "trade" available = ["grade", "grade", "tirade", "trades"] :=
    List.Perm.eq_of_pairwise (fun _ _ _ _ => ranks_antisymm) (ranked_sorted "trade" available)
      (by decide +kernel) ((ranked_perm "trade" available).trans (by decide +kernel))
  refine ⟨rearranged, (nearest_areNearest "trade" available).2.2 other rearranged, ?_⟩
  rw [nearest_eq, in_order]
  rfl

end EventWiki.Suggestion
