import EventWiki.Proofs.LineTree
import Mathlib

namespace EventWiki

/-! A token is stored with the index of the one it stands under and with the indices of those that
stand under it, so entering one writes at two places. -/

structure LinkedToken where
  token : Token
  parent : Option Nat
  children : List Nat
  deriving DecidableEq, Repr

structure Arena where
  nodes : Array LinkedToken
  deriving DecidableEq, Repr

namespace Arena

def new (root : Token) : Arena :=
  ⟨#[⟨root, none, []⟩]⟩

def size (arena : Arena) : Nat :=
  arena.nodes.size

def node? (arena : Arena) (index : Nat) : Option LinkedToken :=
  arena.nodes[index]?

/-- Enters a token behind all others and as the last child of its parent, which must be there. -/
def push? (arena : Arena) (parent : Nat) (token : Token) : Option Arena :=
  let nodes := arena.nodes.push ⟨token, some parent, []⟩
  if parent < nodes.size then
    some ⟨nodes.modify parent fun above =>
      { above with children := above.children ++ [arena.size] }⟩
  else none

def pushAll? (arena : Arena) (entries : List Outline.Entry) : Option Arena :=
  entries.foldlM (fun arena entry => arena.push? entry.parent entry.token) arena

/-- What the links of both directions must say for the tokens to be a tree. -/
structure Linked (arena : Arena) : Prop where
  root : ∃ node, arena.node? 0 = some node ∧ node.parent = none
  parent : ∀ index node, arena.node? index = some node → index ≠ 0 →
    ∃ parent < index, node.parent = some parent
  count_children : ∀ index node, arena.node? index = some node →
    ∀ holder above, arena.node? holder = some above →
      above.children.count index = if node.parent = some holder then 1 else 0
  lt_size : ∀ holder above, arena.node? holder = some above →
    ∀ child ∈ above.children, child < arena.size
  sorted : ∀ holder above, arena.node? holder = some above → above.children.Pairwise (· < ·)

def Child (arena : Arena) (parent child : Nat) : Prop :=
  ∃ node, arena.node? parent = some node ∧ child ∈ node.children

structure IsPath (arena : Arena) (upper lower : Nat) (path : List Nat) : Prop where
  head?_eq : path.head? = some upper
  getLast?_eq : path.getLast? = some lower
  chain : path.IsChain arena.Child

variable {arena : Arena} {upper lower parent child index : Nat} {path : List Nat}

theorem ext_node? {left right : Arena} (same : ∀ index, left.node? index = right.node? index) :
    left = right := by
  obtain ⟨nodes⟩ := left
  obtain ⟨others⟩ := right
  exact congrArg mk (Array.ext_getElem? same)

theorem push?_of_known (known : parent < arena.size) (token : Token) :
    ∃ next, arena.push? parent token = some next ∧
      ∀ index, next.node? index =
        if index = arena.size then some ⟨token, some parent, []⟩
        else if parent = index then
          (arena.node? index).map fun above =>
            { above with children := above.children ++ [arena.size] }
        else arena.node? index := by
  have inside : parent < arena.nodes.size := known
  refine ⟨_, if_pos (by rw [Array.size_push]; exact Nat.lt_succ_of_lt inside), fun index => ?_⟩
  simp only [node?, size, Array.getElem?_modify, Array.getElem?_push]
  split
  · next above =>
      subst above
      rw [if_neg (Nat.ne_of_lt inside), if_neg (Nat.ne_of_lt inside)]
  · rfl

theorem Linked.parent_of_child (linked : arena.Linked) (link : arena.Child parent child) :
    parent < child ∧ ∃ node, arena.node? child = some node ∧ node.parent = some parent := by
  obtain ⟨above, held, member⟩ := link
  have bound := linked.lt_size parent above held child member
  obtain ⟨node, found⟩ : ∃ node, arena.node? child = some node :=
    ⟨_, Array.getElem?_eq_getElem bound⟩
  have counted := linked.count_children child node found parent above held
  have occurs := List.count_pos_iff.mpr member
  have under : node.parent = some parent := by
    by_contra elsewhere
    rw [if_neg elsewhere] at counted
    omega
  have inner : child ≠ 0 := by
    rintro rfl
    obtain ⟨root, root_found, top⟩ := linked.root
    obtain rfl := Option.some.inj (root_found.symm.trans found)
    simp [top] at under
  obtain ⟨before, less, before_eq⟩ := linked.parent child node found inner
  obtain rfl := Option.some.inj (before_eq.symm.trans under)
  exact ⟨less, node, found, under⟩

theorem Linked.child_unique (linked : arena.Linked) (first : arena.Child upper child)
    (second : arena.Child parent child) : upper = parent := by
  obtain ⟨-, node, found, under⟩ := linked.parent_of_child first
  obtain ⟨-, other, found', under'⟩ := linked.parent_of_child second
  obtain rfl := Option.some.inj (found.symm.trans found')
  exact Option.some.inj (under.symm.trans under')

theorem Linked.exists_parent (linked : arena.Linked) (bound : index < arena.size)
    (inner : index ≠ 0) : ∃ parent < index, arena.Child parent index := by
  have found := Array.getElem?_eq_getElem bound
  obtain ⟨parent, before, under⟩ := linked.parent index _ found inner
  have held := Array.getElem?_eq_getElem (Nat.lt_trans before bound)
  have counted := linked.count_children index _ found parent _ held
  rw [if_pos under] at counted
  exact ⟨parent, before, _, held, List.count_pos_iff.mp (by omega)⟩

theorem isPath_concat {last : Nat} : arena.IsPath upper lower (path ++ [last]) ↔
    last = lower ∧
      ((path = [] ∧ upper = lower) ∨
        ∃ parent, arena.IsPath upper parent path ∧ arena.Child parent lower) := by
  constructor
  · rintro ⟨head, ending, chain⟩
    obtain rfl : last = lower := by simpa using ending
    refine ⟨rfl, ?_⟩
    rcases List.eq_nil_or_concat' path with rfl | ⟨front, parent, rfl⟩
    · exact .inl ⟨rfl, by simpa using head.symm⟩
    · obtain ⟨before, -, joined⟩ := List.isChain_append.mp chain
      refine .inr ⟨parent, ⟨?_, by simp, before⟩, joined parent (by simp) last (by simp)⟩
      rwa [List.head?_append_of_ne_nil _ (by simp)] at head
  · rintro ⟨rfl, ⟨rfl, rfl⟩ | ⟨parent, ⟨head, ending, chain⟩, link⟩⟩
    · exact ⟨rfl, rfl, List.isChain_singleton _⟩
    · refine ⟨by rw [List.head?_append, head, Option.some_or], by simp, ?_⟩
      refine List.isChain_append.mpr ⟨chain, List.isChain_singleton _, ?_⟩
      simp only [ending, List.head?_cons, Option.mem_def, Option.some.injEq]
      rintro _ rfl _ rfl
      exact link

/-- The way from the root down to a token goes through the tokens it stands under, so there is one
way and no other. -/
theorem Linked.existsUnique_path (linked : arena.Linked) (bound : index < arena.size) :
    ∃! path, arena.IsPath 0 index path := by
  induction index using Nat.strong_induction_on with
  | _ index ih =>
      by_cases top : index = 0
      · subst top
        refine ⟨[0], ⟨rfl, rfl, List.isChain_singleton _⟩, fun path way => ?_⟩
        rcases List.eq_nil_or_concat' path with rfl | ⟨front, last, rfl⟩
        · simpa using way.head?_eq
        · obtain ⟨rfl, ⟨rfl, -⟩ | ⟨parent, -, link⟩⟩ := isPath_concat.mp way
          · rfl
          · exact absurd (linked.parent_of_child link).1 (Nat.not_lt_zero parent)
      · obtain ⟨parent, before, link⟩ := linked.exists_parent bound top
        obtain ⟨above, way, only⟩ := ih parent before (Nat.lt_trans before bound)
        refine ⟨above ++ [index], isPath_concat.mpr ⟨rfl, .inr ⟨parent, way, link⟩⟩, ?_⟩
        intro path other
        rcases List.eq_nil_or_concat' path with rfl | ⟨front, last, rfl⟩
        · simpa using other.head?_eq
        · obtain ⟨rfl, ⟨-, outer⟩ | ⟨holder, way', link'⟩⟩ := isPath_concat.mp other
          · exact absurd outer.symm top
          · obtain rfl := linked.child_unique link link'
            rw [only front way']

end Arena

namespace Outline

variable {outline : Outline} {index parent : Nat}

def linkedToken (outline : Outline) (index : Nat) : LinkedToken :=
  ⟨outline.tokenAt index, outline.parent? index, outline.children index⟩

def arena (outline : Outline) : Arena :=
  ⟨((List.range outline.size).map outline.linkedToken).toArray⟩

@[simp] theorem size_arena (outline : Outline) : outline.arena.size = outline.size := by
  simp [arena, Arena.size]

theorem node?_arena (outline : Outline) (index : Nat) :
    outline.arena.node? index =
      if index < outline.size then some (outline.linkedToken index) else none := by
  simp only [arena, Arena.node?, List.getElem?_toArray, List.getElem?_map]
  split
  · next bound => rw [List.getElem?_range bound, Option.map_some]
  · next beyond => rw [List.getElem?_eq_none (by simpa using beyond), Option.map_none]

theorem token_arena (outline : Outline) (index : Nat) :
    (outline.arena.node? index).map LinkedToken.token = outline.token? index := by
  rw [node?_arena]
  split
  · next bound =>
      cases index with
      | zero => rfl
      | succ index =>
          have inside : index < outline.entries.size := by
            simp only [size] at bound
            omega
          simp [linkedToken, tokenAt, token?, inside]
  · next beyond =>
      cases index with
      | zero => exact absurd (Nat.succ_pos _) beyond
      | succ index =>
          have outside : outline.entries.size ≤ index := by
            simp only [size] at beyond
            omega
          simp [token?, outside]

theorem WellFormed.children_size (wellFormed : outline.WellFormed) :
    outline.children outline.size = [] := by
  rw [List.eq_nil_iff_forall_not_mem]
  intro child member
  have link := mem_children.mp member
  exact Nat.lt_asymm (wellFormed.parent_lt link) (lt_size_of_parent? link)

theorem WellFormed.push?_arena (wellFormed : outline.WellFormed) (known : parent < outline.size)
    (token : Token) :
    outline.arena.push? parent token = some (outline.push parent token).arena := by
  have inside : parent < outline.arena.size := by rwa [size_arena]
  obtain ⟨next, pushed, node_eq⟩ := Arena.push?_of_known inside token
  rw [pushed]
  refine congrArg some (Arena.ext_node? fun index => ?_)
  rw [node_eq, size_arena, node?_arena, node?_arena, size_push]
  rcases Nat.lt_trichotomy index outline.size with before | rfl | beyond
  · rw [if_neg (Nat.ne_of_lt before), if_pos before, if_pos (Nat.lt_succ_of_lt before)]
    simp only [linkedToken, tokenAt_push, parent?_push, children_push, Nat.ne_of_lt before,
      if_false]
    split <;> simp
  · rw [if_pos rfl, if_pos (Nat.lt_succ_self _)]
    simp [linkedToken, tokenAt_push, parent?_push, children_push, wellFormed.children_size,
      Nat.ne_of_lt known]
  · have outside : ¬index < outline.size + 1 := by omega
    rw [if_neg (Nat.ne_of_gt beyond), if_neg (Nat.lt_asymm beyond), if_neg outside]
    split <;> rfl

theorem Built.pushAll?_arena (built : outline.Built) :
    (Arena.new outline.root).pushAll? outline.entries.toList = some outline.arena := by
  induction built with
  | new root => rfl
  | @push outline built parent known token ih =>
      have pushed := built.wellFormed.push?_arena known token
      have entered : (outline.push parent token).entries.toList =
          outline.entries.toList ++ [⟨parent, token⟩] := Array.toList_push
      rw [Arena.pushAll?] at ih ⊢
      rw [entered, root_push, List.foldlM_append, ih]
      simpa using pushed

theorem WellFormed.linked_arena (wellFormed : outline.WellFormed) : outline.arena.Linked := by
  have stored : ∀ {index node}, outline.arena.node? index = some node →
      index < outline.size ∧ node = outline.linkedToken index := by
    intro index node found
    rw [node?_arena] at found
    split at found
    · next bound => exact ⟨bound, (Option.some.inj found).symm⟩
    · contradiction
  refine ⟨⟨outline.linkedToken 0, by simp [node?_arena, size], rfl⟩, ?_, ?_, ?_, ?_⟩
  · intro index node found inner
    obtain ⟨bound, rfl⟩ := stored found
    obtain ⟨index, rfl⟩ := Nat.exists_eq_succ_of_ne_zero inner
    obtain ⟨parent, link⟩ := exists_parent bound
    exact ⟨parent, wellFormed.parent_lt link, link⟩
  · intro index node found holder above held
    obtain ⟨-, rfl⟩ := stored found
    obtain ⟨-, rfl⟩ := stored held
    have counted := (outline.children_nodup holder).count (a := index)
    exact counted.trans (if_congr mem_children rfl rfl)
  · intro holder above held child member
    obtain ⟨-, rfl⟩ := stored held
    rw [size_arena]
    exact lt_size_of_parent? (mem_children.mp member)
  · intro holder above held
    obtain ⟨-, rfl⟩ := stored held
    exact outline.children_sorted holder

end Outline

end EventWiki
