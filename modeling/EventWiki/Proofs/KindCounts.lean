import EventWiki.Proofs.RenderRun

namespace EventWiki.CommandLine

/-! A coverage run counts up the kinds that each script is missing. Every script counts a kind
once at most, since its findings are a set. -/

theorem mem_findingsOf {pages : List Page} {kind : String} :
    kind ∈ findingsOf pages ↔ ∃ page ∈ pages, kind ∈ page.findings := by
  induction pages using List.reverseRecOn with
  | nil => simp [findingsOf]
  | append_singleton pages page ih => simp [Rendered.findingsOf_concat, ih, or_and_right, exists_or]

namespace KindCounts

variable {counts : KindCounts} {kind : String}

theorem getD_count (counts : KindCounts) (counted kind : String) :
    (counts.count counted).getD kind 0 = counts.getD kind 0 + if counted = kind then 1 else 0 := by
  rw [count, Std.TreeMap.getD_insert]
  simp only [compare_eq_iff_eq]
  split
  · next same => rw [same]
  · rfl

theorem mem_count {counted : String} :
    kind ∈ counts.count counted ↔ counted = kind ∨ kind ∈ counts := by
  rw [count, Std.TreeMap.mem_insert, compare_eq_iff_eq]

theorem getD_foldl_count (kinds : List String) (counts : KindCounts) (kind : String) :
    (kinds.foldl count counts).getD kind 0 = counts.getD kind 0 + kinds.count kind := by
  induction kinds generalizing counts with
  | nil => rfl
  | cons head rest ih =>
      rw [List.foldl_cons, ih, getD_count, List.count_cons, Nat.add_assoc, Nat.add_comm (ite ..)]
      simp only [beq_iff_eq]

theorem mem_foldl_count {kinds : List String} :
    kind ∈ kinds.foldl count counts ↔ kind ∈ kinds ∨ kind ∈ counts := by
  induction kinds generalizing counts with
  | nil => simp
  | cons head rest ih =>
      rw [List.foldl_cons, ih, mem_count, List.mem_cons, ← or_assoc, or_comm (a := kind ∈ rest),
        eq_comm]

theorem mem_countAll {findings : Findings} :
    kind ∈ counts.countAll findings ↔ kind ∈ findings ∨ kind ∈ counts :=
  mem_foldl_count

theorem getD_countAll (counts : KindCounts) (findings : Findings) (kind : String) :
    (counts.countAll findings).getD kind 0 =
      counts.getD kind 0 + if findings.contains kind then 1 else 0 := by
  have once : findings.kinds.Nodup := findings.sorted.imp String.ne_of_lt
  rw [countAll, getD_foldl_count, once.count, Findings.contains]
  simp only [List.contains_iff_mem]

def ofPages (pages : List Page) : KindCounts :=
  pages.foldl (fun counts page => counts.countAll page.findings) ∅

theorem ofPages_concat (pages : List Page) (page : Page) :
    ofPages (pages ++ [page]) = (ofPages pages).countAll page.findings := by
  rw [ofPages, List.foldl_append]
  rfl

theorem getD_ofPages (pages : List Page) (kind : String) :
    (ofPages pages).getD kind 0 = pages.countP (·.findings.contains kind) := by
  induction pages using List.reverseRecOn with
  | nil => simp [ofPages]
  | append_singleton pages page ih =>
      rw [ofPages_concat, getD_countAll, ih, List.countP_append, List.countP_singleton]

theorem mem_ofPages {pages : List Page} : kind ∈ ofPages pages ↔ kind ∈ findingsOf pages := by
  rw [mem_findingsOf]
  induction pages using List.reverseRecOn with
  | nil => simp [ofPages]
  | append_singleton pages page ih =>
      rw [ofPages_concat, mem_countAll, ih]
      simp [or_and_right, exists_or, or_comm]

theorem keys_ofPages (pages : List Page) : (ofPages pages).keys = (findingsOf pages).kinds := by
  have sorted : (ofPages pages).keys.Pairwise (· < ·) :=
    Std.TreeMap.ordered_keys.imp fun ordered => compare_lt_iff_lt.mp ordered
  have same : (⟨(ofPages pages).keys, sorted⟩ : Findings) = findingsOf pages :=
    Findings.ext fun kind => Std.TreeMap.mem_keys.trans mem_ofPages
  exact congrArg Findings.kinds same

end KindCounts

end EventWiki.CommandLine
