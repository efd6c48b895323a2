namespace EventWiki

/-- The kinds of statements that have no wording, in order and each once. The order of strings is
the order of their code points, which is that of their UTF-8 bytes. -/
structure Findings where
  kinds : List String
  sorted : kinds.Pairwise (· < ·)

namespace Findings

def insert (kind : String) : List String → List String
  | [] => [kind]
  | head :: rest =>
      if kind < head then kind :: head :: rest
      else if kind = head then head :: rest
      else head :: insert kind rest

theorem mem_insert {kind other : String} {kinds : List String} :
    other ∈ insert kind kinds ↔ other = kind ∨ other ∈ kinds := by
  induction kinds with
  | nil => simp [insert]
  | cons head rest ih =>
    unfold insert
    split
    · simp
    · split
      · next heq => subst heq; simp
      · simp only [List.mem_cons, ih]
        constructor
        · rintro (h | h | h) <;> simp [h]
        · rintro (h | h | h) <;> simp [h]

theorem sorted_insert (kind : String) {kinds : List String} (h : kinds.Pairwise (· < ·)) :
    (insert kind kinds).Pairwise (· < ·) := by
  induction kinds with
  | nil => simp [insert]
  | cons head rest ih =>
    obtain ⟨hhead, hrest⟩ := List.pairwise_cons.mp h
    unfold insert
    split
    · next hlt =>
      refine List.pairwise_cons.mpr ⟨?_, h⟩
      intro other hother
      rcases List.mem_cons.mp hother with rfl | hother
      · exact hlt
      · exact String.lt_trans hlt (hhead other hother)
    · split
      · exact h
      · next hlt hne =>
        refine List.pairwise_cons.mpr ⟨?_, ih hrest⟩
        intro other hother
        rcases mem_insert.mp hother with rfl | hother
        · exact Decidable.byContradiction fun hge =>
            hne (String.le_antisymm (String.not_lt.mp hge) (String.not_lt.mp hlt))
        · exact hhead other hother

def empty : Findings :=
  ⟨[], List.Pairwise.nil⟩

def record (findings : Findings) (kind : String) : Findings :=
  ⟨insert kind findings.kinds, sorted_insert kind findings.sorted⟩

def recordAll (findings : Findings) (kinds : List String) : Findings :=
  kinds.foldl record findings

def union (findings other : Findings) : Findings :=
  findings.recordAll other.kinds

def ofList (kinds : List String) : Findings :=
  empty.recordAll kinds

def contains (findings : Findings) (kind : String) : Bool :=
  findings.kinds.contains kind

def size (findings : Findings) : Nat :=
  findings.kinds.length

def isEmpty (findings : Findings) : Bool :=
  findings.kinds.isEmpty

instance : Membership String Findings where
  mem findings kind := kind ∈ findings.kinds

theorem mem_def {kind : String} {findings : Findings} :
    kind ∈ findings ↔ kind ∈ findings.kinds := Iff.rfl

@[simp] theorem not_mem_empty (kind : String) : kind ∉ empty := by
  simp [mem_def, empty]

@[simp] theorem mem_record {kind other : String} {findings : Findings} :
    other ∈ findings.record kind ↔ other = kind ∨ other ∈ findings := by
  simp [mem_def, record, mem_insert]

@[simp] theorem mem_recordAll {kind : String} {findings : Findings} {kinds : List String} :
    kind ∈ findings.recordAll kinds ↔ kind ∈ kinds ∨ kind ∈ findings := by
  induction kinds generalizing findings with
  | nil => simp [recordAll]
  | cons head rest ih =>
    have hstep : findings.recordAll (head :: rest) = (findings.record head).recordAll rest := rfl
    rw [hstep, ih]
    simp only [mem_record, List.mem_cons]
    constructor
    · rintro (h | h | h) <;> simp [h]
    · rintro ((h | h) | h) <;> simp [h]

theorem mem_recordAll_empty {kind : String} {kinds : List String} :
    kind ∈ empty.recordAll kinds ↔ kind ∈ kinds := by
  rw [mem_recordAll, or_iff_left (not_mem_empty kind)]

@[simp] theorem mem_union {kind : String} {findings other : Findings} :
    kind ∈ findings.union other ↔ kind ∈ findings ∨ kind ∈ other := by
  rw [union, mem_recordAll, or_comm]
  rfl

@[simp] theorem mem_ofList {kind : String} {kinds : List String} :
    kind ∈ ofList kinds ↔ kind ∈ kinds := by
  simp [ofList]

private theorem eq_of_sorted {left right : List String} (hleft : left.Pairwise (· < ·))
    (hright : right.Pairwise (· < ·)) (h : ∀ kind, kind ∈ left ↔ kind ∈ right) :
    left = right := by
  induction left generalizing right with
  | nil =>
    cases right with
    | nil => rfl
    | cons head rest => exact absurd ((h head).mpr (by simp)) (by simp)
  | cons head rest ih =>
    cases right with
    | nil => exact absurd ((h head).mp (by simp)) (by simp)
    | cons head' rest' =>
      obtain ⟨hhead, hrest⟩ := List.pairwise_cons.mp hleft
      obtain ⟨hhead', hrest'⟩ := List.pairwise_cons.mp hright
      have heq : head = head' := by
        rcases List.mem_cons.mp ((h head).mp (by simp)) with heq | hmem
        · exact heq
        · rcases List.mem_cons.mp ((h head').mpr (by simp)) with heq | hmem'
          · exact heq.symm
          · exact absurd (String.lt_trans (hhead head' hmem') (hhead' head hmem))
              (String.lt_irrefl head)
      subst heq
      refine congrArg (head :: ·) (ih hrest hrest' fun kind => ?_)
      constructor
      · intro hmem
        rcases List.mem_cons.mp ((h kind).mp (by simp [hmem])) with rfl | hmem'
        · exact absurd (hhead kind hmem) (String.lt_irrefl kind)
        · exact hmem'
      · intro hmem
        rcases List.mem_cons.mp ((h kind).mpr (by simp [hmem])) with rfl | hmem'
        · exact absurd (hhead' kind hmem) (String.lt_irrefl kind)
        · exact hmem'

theorem ext {left right : Findings} (h : ∀ kind, kind ∈ left ↔ kind ∈ right) :
    left = right := by
  obtain ⟨left, hleft⟩ := left
  obtain ⟨right, hright⟩ := right
  have heq : left = right := eq_of_sorted hleft hright h
  subst heq
  rfl

end Findings

end EventWiki
