import EventWiki.Proofs.BlockReplacement
import EventWiki.Proofs.LinkedTokens

namespace EventWiki

/-! A walk over linked tokens, which sets those aside that stand in titles. -/

/-- The tokens that are set aside, the tokens gone to in their order, and what has been written. -/
structure Walk where
  aside : Array Bool
  visited : List Nat
  passage : Rulebook.Passage
  deriving DecidableEq, Repr

namespace Walk

def start (size : Nat) : Walk :=
  ⟨Array.replicate size false, [], .empty⟩

def goTo (walk : Walk) (index : Nat) : Walk :=
  { walk with visited := walk.visited ++ [index] }

def write (walk : Walk) (passage : Rulebook.Passage) : Walk :=
  { walk with passage := walk.passage ++ passage }

def setAside? (walk : Walk) (index : Nat) : Option Walk :=
  if index < walk.aside.size then
    some { walk with aside := walk.aside.setIfInBounds index true }
  else none

/-- From one walk to a later one: nothing else than some of the given tokens has been gone to, each
once and in this order, and nothing else has been set aside. -/
structure Advances (walk next : Walk) (indices : List Nat) (passage : Rulebook.Passage) :
    Prop where
  passage_eq : next.passage = walk.passage ++ passage
  visited_eq : ∃ trace : List Nat, trace.Sublist indices ∧ next.visited = walk.visited ++ trace
  aside_eq : ∀ index, index ∉ indices → next.aside[index]? = walk.aside[index]?

/-- A run from a walk comes to an end if it may go deep enough, and has advanced the walk. -/
def Ends (walk : Walk) (run : Nat → Option Walk) (enough : Nat) (indices : List Nat)
    (passage : Rulebook.Passage) : Prop :=
  ∃ next, (∀ fuel, enough ≤ fuel → run fuel = some next) ∧ walk.Advances next indices passage

structure SetsAside (walk next : Walk) (child : Nat) : Prop where
  passage_eq : next.passage = walk.passage
  visited_eq : next.visited = walk.visited
  aside_child : next.aside[child]? = some true
  aside_eq : ∀ other, other ≠ child → next.aside[other]? = walk.aside[other]?

variable {walk middle next : Walk} {left right : List Nat} {passage later : Rulebook.Passage}
  {child : Nat}

theorem exists_setAside? (free : walk.aside[child]? = some false) :
    ∃ next, walk.setAside? child = some next ∧ walk.SetsAside next child := by
  have inside : child < walk.aside.size := (Array.getElem?_eq_some_iff.mp free).1
  refine ⟨_, if_pos inside, rfl, rfl, ?_, fun other differ => ?_⟩
  · exact Array.getElem?_setIfInBounds_self_of_lt inside
  · exact Array.getElem?_setIfInBounds_ne differ.symm

theorem SetsAside.advances (sets : walk.SetsAside middle child) (member : child ∈ left)
    (advances : middle.Advances next left passage) : walk.Advances next left passage := by
  refine ⟨?_, ?_, fun index outside => ?_⟩
  · rw [advances.passage_eq, sets.passage_eq]
  · rw [← sets.visited_eq]
    exact advances.visited_eq
  · have differ : index ≠ child := fun same => outside (same ▸ member)
    rw [advances.aside_eq index outside, sets.aside_eq index differ]

theorem Advances.refl (walk : Walk) : walk.Advances walk [] .empty :=
  ⟨by simp, ⟨[], .slnil, by simp⟩, fun _ _ => rfl⟩

theorem Advances.goTo (walk : Walk) (index : Nat) :
    walk.Advances (walk.goTo index) [index] .empty :=
  ⟨by simp [Walk.goTo], ⟨[index], .refl _, rfl⟩, fun _ _ => rfl⟩

theorem Advances.write (walk : Walk) (passage : Rulebook.Passage) :
    walk.Advances (walk.write passage) [] passage :=
  ⟨rfl, ⟨[], .slnil, by simp [Walk.write]⟩, fun _ _ => rfl⟩

theorem Advances.mono (advances : walk.Advances next left passage) (within : left.Sublist right) :
    walk.Advances next right passage := by
  obtain ⟨trace, part, visited⟩ := advances.visited_eq
  exact ⟨advances.passage_eq, ⟨trace, part.trans within, visited⟩,
    fun index outside => advances.aside_eq index fun member => outside (within.subset member)⟩

theorem Advances.append (first : walk.Advances middle left passage)
    (second : middle.Advances next right later) :
    walk.Advances next (left ++ right) (passage ++ later) := by
  obtain ⟨trace, part, visited⟩ := first.visited_eq
  obtain ⟨rest, rest_part, rest_visited⟩ := second.visited_eq
  refine ⟨?_, ⟨trace ++ rest, part.append rest_part, ?_⟩, fun index outside => ?_⟩
  · rw [second.passage_eq, first.passage_eq, Rulebook.Passage.append_assoc]
  · rw [rest_visited, visited, List.append_assoc]
  · rw [List.mem_append, not_or] at outside
    rw [second.aside_eq index outside.2, first.aside_eq index outside.1]

end Walk

namespace Rulebook

variable {outline : Outline} {index parent : Nat}

def tokens? (arena : Arena) (indices : List Nat) : Option (List Token) :=
  indices.mapM fun index => (arena.node? index).map LinkedToken.token

/-- The title of a block. The statement that names it is set aside. -/
def walkTitle? (book : Rulebook) (arena : Arena) (node : LinkedToken) (candidates : List String)
    (walk : Walk) : Option (Fragment × Walk) := do
  let tokens ← tokens? arena node.children
  let (name, position) := book.title node.token.kind candidates (tokens.map (.mk · []))
  match position with
  | none => some (name, walk)
  | some position =>
      let child ← node.children[position]?
      let walk ← walk.setAside? child
      some (name, walk)

def walkToken? (book : Rulebook) (arena : Arena) (depth : Nat) (inherited : Bool)
    (node : LinkedToken) (below : Nat → Bool → Walk → Option Walk) (walk : Walk) : Option Walk :=
  let inverted := inherited != node.token.negated
  match book.role depth node.token.kind node.children.isEmpty with
  | .inversion => below depth (!inherited) walk
  | .hidden => some walk
  | .merged => do
      let tokens ← tokens? arena node.children
      some (walk.write (book.mergedPassage depth node.token (tokens.map (.mk · [])) inverted))
  | .named candidates => do
      let (name, walk) ← book.walkTitle? arena node candidates walk
      below (depth + 1) false (walk.write (.ofFragment depth name))
  | .plain => do
      let block ← node.parent.mapM arena.node?
      let fragment := book.localize (block.map (·.token.kind)) node.token inverted
      below (depth + 1) false (walk.write (.ofFragment depth fragment))

/-- Goes to a token and to what stands under it, `fuel` levels deep at most. A token that is not
there ends the walk without a result. -/
def walkFrom? (book : Rulebook) (arena : Arena) :
    Nat → Nat → Bool → Nat → Walk → Option Walk
  | 0, _, _, _, _ => none
  | fuel + 1, depth, inherited, index, walk => do
      let aside ← walk.aside[index]?
      if aside then
        some (walk.goTo index)
      else
        let node ← arena.node? index
        book.walkToken? arena depth inherited node
          (fun depth inherited walk => node.children.foldlM
            (fun walk child => book.walkFrom? arena fuel depth inherited child walk) walk)
          (walk.goTo index)

def walkAll? (book : Rulebook) (arena : Arena) (fuel depth : Nat) (inherited : Bool)
    (members : List Nat) (walk : Walk) : Option Walk :=
  members.foldlM (fun walk child => book.walkFrom? arena fuel depth inherited child walk) walk

def walk? (book : Rulebook) (arena : Arena) (fuel : Nat) : Option Walk := do
  let root ← arena.node? 0
  book.walkAll? arena fuel 0 false root.children (.start arena.size)

theorem tokens_of_leaves (tokens : List Token) :
    (tokens.map (Statement.mk · [])).map Statement.token = tokens := by
  rw [List.map_map]
  exact List.map_id tokens

theorem tokens?_arena {members : List Nat} (known : ∀ child ∈ members, child < outline.size) :
    tokens? outline.arena members = some (members.map outline.tokenAt) := by
  induction members with
  | nil => rfl
  | cons child rest ih =>
      rw [List.forall_mem_cons] at known
      have found := outline.node?_arena child
      rw [if_pos known.1] at found
      rw [tokens?, List.mapM_cons, found, Option.map_some, ← tokens?, ih known.2]
      rfl

theorem tokens?_children (outline : Outline) (index : Nat) :
    tokens? outline.arena (outline.children index) =
      some ((outline.children index).map outline.tokenAt) :=
  tokens?_arena fun _ member => Outline.lt_size_of_parent? (Outline.mem_children.mp member)

/-- Neither a token nor what stands under it is set aside. -/
def Free (wellFormed : outline.WellFormed) (walk : Walk) (index : Nat) : Prop :=
  ∀ lower ∈ wellFormed.preorder index, walk.aside[lower]? = some false

/-- Nothing of a block is set aside, but for the statement at position `skipped`. -/
def Ready (wellFormed : outline.WellFormed) (walk : Walk) (skipped : Option Nat)
    (members : List Nat) : Prop :=
  ∀ (position child : Nat), members[position]? = some child →
    if skipped = some position then walk.aside[child]? = some true else Free wellFormed walk child

/-- The walk from a token ends within the levels below it, and has then written its lines. -/
def Walks (book : Rulebook) (wellFormed : outline.WellFormed) (parent index : Nat) : Prop :=
  ∀ (depth : Nat) (inherited : Bool) (walk : Walk), Free wellFormed walk index →
    walk.Ends (fun fuel => book.walkFrom? outline.arena fuel depth inherited index walk)
      (outline.size - index) (wellFormed.preorder index)
      (book.visit depth (outline.tokenAt parent).kind inherited (wellFormed.statementAt index))

def WalksAll (book : Rulebook) (wellFormed : outline.WellFormed) (parent : Nat)
    (members : List Nat) : Prop :=
  ∀ (skipped : Option Nat) (walk : Walk), Ready wellFormed walk skipped members →
    ∀ (depth : Nat) (inherited : Bool),
      walk.Ends (fun fuel => book.walkAll? outline.arena fuel depth inherited members walk)
        (outline.size - (parent + 1)) (members.flatMap wellFormed.preorder)
        (book.visitAll depth (outline.tokenAt parent).kind inherited skipped
          (members.map wellFormed.statementAt))

variable {wellFormed : outline.WellFormed} {walk next : Walk} {members : List Nat}
  {skipped : Option Nat} {child : Nat}

theorem walkAll?_cons (book : Rulebook) (arena : Arena) (fuel depth : Nat) (inherited : Bool)
    (child : Nat) (members : List Nat) (walk : Walk) :
    book.walkAll? arena fuel depth inherited (child :: members) walk =
      (book.walkFrom? arena fuel depth inherited child walk).bind
        (book.walkAll? arena fuel depth inherited members) := by
  rw [walkAll?, List.foldlM_cons]
  rfl

theorem Free.self (free : Free wellFormed walk index) : walk.aside[index]? = some false :=
  free index (wellFormed.mem_preorder.mpr .refl)

theorem Free.of_parent? (free : Free wellFormed walk index)
    (link : outline.parent? child = some index) : Free wellFormed walk child := by
  intro lower under
  refine free lower ?_
  rw [wellFormed.preorder_eq, List.mem_cons, List.mem_flatMap]
  exact .inr ⟨child, Outline.mem_children.mpr link, under⟩

theorem Free.beside {other : Nat} (free : Free wellFormed walk other)
    (link : outline.parent? child = some index) (otherLink : outline.parent? other = some index)
    (apart : child ≠ other) (sets : walk.SetsAside next child) : Free wellFormed next other := by
  intro lower under
  have differ : lower ≠ child := by
    rintro rfl
    exact wellFormed.preorder_disjoint link otherLink apart (wellFormed.mem_preorder.mpr .refl)
      under
  rw [sets.aside_eq lower differ, free lower under]

theorem ready_of_free
    (free : ∀ child, outline.parent? child = some index → Free wellFormed walk child) :
    Ready wellFormed walk none (outline.children index) := by
  intro position child held
  rw [if_neg (by simp)]
  exact free child (Outline.mem_children.mp (List.mem_of_getElem? held))

theorem ready_of_setsAside {position : Nat}
    (free : ∀ child, outline.parent? child = some index → Free wellFormed walk child)
    (found : (outline.children index)[position]? = some child)
    (sets : walk.SetsAside next child) :
    Ready wellFormed next (some position) (outline.children index) := by
  intro place other held
  have bound := (List.getElem?_eq_some_iff.mp found).1
  by_cases same : some position = some place
  · obtain rfl := Option.some.inj same
    obtain rfl := Option.some.inj (found.symm.trans held)
    rw [if_pos rfl]
    exact sets.aside_child
  · rw [if_neg same]
    have link := Outline.mem_children.mp (List.mem_of_getElem? found)
    have otherLink := Outline.mem_children.mp (List.mem_of_getElem? held)
    have apart : child ≠ other := by
      rintro rfl
      exact same (congrArg some
        ((List.getElem?_inj bound (outline.children_nodup index)).mp (found.trans held.symm)))
    exact (free other otherLink).beside link otherLink apart sets

theorem Ready.congr (ready : Ready wellFormed walk skipped members)
    (same : ∀ child ∈ members, ∀ lower ∈ wellFormed.preorder child,
      next.aside[lower]? = walk.aside[lower]?) :
    Ready wellFormed next skipped members := by
  intro position child found
  have kept := same child (List.mem_of_getElem? found)
  have asked := ready position child found
  split at asked
  · next named =>
      rw [if_pos named, kept child (wellFormed.mem_preorder.mpr .refl), asked]
  · next unnamed =>
      rw [if_neg unnamed]
      intro lower member
      rw [kept lower member, asked lower member]

def behind : Option Nat → Option Nat
  | some (position + 1) => some position
  | _ => none

theorem visitAll_cons (book : Rulebook) (depth : Nat) (kind : String) (inherited : Bool)
    (skipped : Option Nat) (statement : Statement) (rest : List Statement) :
    book.visitAll depth kind inherited skipped (statement :: rest) =
      (if skipped = some 0 then .empty else book.visit depth kind inherited statement) ++
        book.visitAll depth kind inherited (behind skipped) rest := by
  rcases skipped with _ | _ | position
  · simp [visitAll, behind]
  · simp [visitAll, behind]
  · simp [visitAll, behind]

theorem Ready.write (ready : Ready wellFormed walk skipped members) (passage : Passage) :
    Ready wellFormed (walk.write passage) skipped members :=
  ready.congr fun _ _ _ _ => rfl

theorem Ready.tail (ready : Ready wellFormed walk skipped (child :: members)) :
    Ready wellFormed walk (behind skipped) members := by
  intro position other found
  have asked := ready (position + 1) other found
  rcases skipped with _ | _ | _ <;> simpa [behind] using asked

theorem Ready.head_ends {book : Rulebook}
    (ready : Ready wellFormed walk skipped (child :: members))
    (link : outline.parent? child = some parent) (visits : Walks book wellFormed parent child)
    (depth : Nat) (inherited : Bool) :
    walk.Ends (fun fuel => book.walkFrom? outline.arena fuel depth inherited child walk)
      (outline.size - (parent + 1)) (wellFormed.preorder child)
      (if skipped = some 0 then .empty else
        book.visit depth (outline.tokenAt parent).kind inherited
          (wellFormed.statementAt child)) := by
  have after := wellFormed.parent_lt link
  have inside := Outline.lt_size_of_parent? link
  have asked := ready 0 child rfl
  by_cases named : skipped = some 0
  · rw [if_pos named] at asked ⊢
    refine ⟨walk.goTo child, fun fuel enough => ?_, (Walk.Advances.goTo walk child).mono ?_⟩
    · obtain ⟨fuel, rfl⟩ : ∃ less, fuel = less + 1 := ⟨fuel - 1, by omega⟩
      simp [walkFrom?, asked]
    · rw [wellFormed.preorder_eq, List.singleton_sublist]
      exact List.mem_cons_self
  · rw [if_neg named] at asked ⊢
    obtain ⟨middle, run, advances⟩ := visits depth inherited walk asked
    exact ⟨middle, fun fuel enough => run fuel (by omega), advances⟩

theorem walksAll_of_walks (book : Rulebook) (wellFormed : outline.WellFormed)
    (visits : ∀ child, outline.parent? child = some parent →
      Walks book wellFormed parent child)
    (linked : ∀ child ∈ members, outline.parent? child = some parent) (apart : members.Nodup) :
    WalksAll book wellFormed parent members := by
  induction members with
  | nil =>
      intro skipped walk _ depth inherited
      refine ⟨walk, fun _ _ => rfl, ?_⟩
      simpa [visitAll] using Walk.Advances.refl walk
  | cons child rest ih =>
      intro skipped walk ready depth inherited
      rw [List.forall_mem_cons] at linked
      rw [List.nodup_cons] at apart
      obtain ⟨middle, first_run, first_advances⟩ :=
        ready.head_ends linked.1 (visits child linked.1) depth inherited
      have ready_rest : Ready wellFormed middle (behind skipped) rest := by
        refine ready.tail.congr fun other member lower under => first_advances.aside_eq lower ?_
        have differ : child ≠ other := fun same => apart.1 (same ▸ member)
        exact fun under' => wellFormed.preorder_disjoint linked.1 (linked.2 other member) differ
          under' under
      obtain ⟨next, rest_run, rest_advances⟩ :=
        ih linked.2 apart.2 _ middle ready_rest depth inherited
      refine ⟨next, fun fuel enough => ?_, ?_⟩
      · calc book.walkAll? outline.arena fuel depth inherited (child :: rest) walk
            = (book.walkFrom? outline.arena fuel depth inherited child walk).bind
                (book.walkAll? outline.arena fuel depth inherited rest) := walkAll?_cons ..
          _ = book.walkAll? outline.arena fuel depth inherited rest middle :=
              congrArg (Option.bind · _) (first_run fuel enough)
          _ = some next := rest_run fuel enough
      · rw [List.flatMap_cons, List.map_cons, visitAll_cons]
        exact first_advances.append rest_advances

theorem title_lt_length {book : Rulebook} {kind : String} {candidates : List String}
    {statements : List Statement} {position : Nat}
    (named : (book.title kind candidates statements).2 = some position) :
    position < statements.length := by
  unfold title at named
  split at named
  · split at named
    · next held =>
        obtain rfl := Option.some.inj named
        exact (List.getElem?_eq_some_iff.mp held).1
    · contradiction
  · contradiction

theorem exists_walkTitle? (book : Rulebook) (wellFormed : outline.WellFormed)
    (free : ∀ child, outline.parent? child = some index → Free wellFormed walk child)
    (candidates : List String) :
    let title := book.title (outline.tokenAt index).kind candidates
      ((outline.children index).map wellFormed.statementAt)
    ∃ middle,
      book.walkTitle? outline.arena (outline.linkedToken index) candidates walk =
        some (title.1, middle) ∧
      Ready wellFormed middle title.2 (outline.children index) ∧
      ∀ {next passage},
        middle.Advances next ((outline.children index).flatMap wellFormed.preorder) passage →
        walk.Advances next ((outline.children index).flatMap wellFormed.preorder) passage := by
  intro title
  have tokens := tokens?_children outline index
  have title_eq : book.title (outline.tokenAt index).kind candidates
      (((outline.children index).map outline.tokenAt).map (.mk · [])) = title := by
    apply title_congr
    rw [tokens_of_children, tokens_of_leaves]
  simp only [walkTitle?, Outline.linkedToken, tokens, Option.bind_eq_bind, Option.bind_some,
    title_eq]
  cases position_eq : title.2 with
  | none => exact ⟨walk, rfl, ready_of_free free, id⟩
  | some position =>
      have bound := title_lt_length position_eq
      rw [List.length_map] at bound
      obtain ⟨child, found⟩ : ∃ child, (outline.children index)[position]? = some child :=
        ⟨_, List.getElem?_eq_getElem bound⟩
      have member := List.mem_of_getElem? found
      have under : child ∈ (outline.children index).flatMap wellFormed.preorder :=
        List.mem_flatMap.mpr ⟨child, member, wellFormed.mem_preorder.mpr .refl⟩
      obtain ⟨middle, set, sets⟩ :=
        Walk.exists_setAside? (free child (Outline.mem_children.mp member)).self
      simp only [found, set, Option.bind_some]
      exact ⟨middle, rfl, ready_of_setsAside free found sets, sets.advances under⟩

theorem walkFrom?_of_free {book : Rulebook} {arena : Arena} {node : LinkedToken}
    (found : arena.node? index = some node) (free : walk.aside[index]? = some false)
    (fuel depth : Nat) (inherited : Bool) :
    book.walkFrom? arena (fuel + 1) depth inherited index walk =
      book.walkToken? arena depth inherited node
        (fun depth inherited => book.walkAll? arena fuel depth inherited node.children)
        (walk.goTo index) := by
  simp only [walkFrom?, free, found, Option.bind_eq_bind, Option.bind_some, Bool.false_eq_true,
    if_false]
  rfl

theorem walkToken?_ends (book : Rulebook) (wellFormed : outline.WellFormed)
    (link : outline.parent? index = some parent) (walk : Walk)
    (free : ∀ child, outline.parent? child = some index → Free wellFormed walk child)
    (below : WalksAll book wellFormed index (outline.children index)) (depth : Nat)
    (inherited : Bool) :
    walk.Ends
      (fun fuel => book.walkToken? outline.arena depth inherited (outline.linkedToken index)
        (fun depth inherited =>
          book.walkAll? outline.arena fuel depth inherited (outline.children index)) walk)
      (outline.size - (index + 1)) ((outline.children index).flatMap wellFormed.preorder)
      (book.visit depth (outline.tokenAt parent).kind inherited
        (wellFormed.statementAt index)) := by
  have ready := ready_of_free free
  rw [wellFormed.statementAt_eq, visit]
  simp only [walkToken?, Outline.linkedToken, List.isEmpty_map]
  cases book.role depth (outline.tokenAt index).kind (outline.children index).isEmpty with
  | inversion => exact below none walk ready depth (!inherited)
  | hidden =>
      exact ⟨walk, fun _ _ => rfl, (Walk.Advances.refl walk).mono (List.nil_sublist _)⟩
  | merged =>
      have tokens := tokens?_children outline index
      refine ⟨walk.write (book.mergedPassage depth (outline.tokenAt index)
        ((outline.children index).map wellFormed.statementAt)
        (inherited != (outline.tokenAt index).negated)), fun _ _ => ?_, ?_⟩
      · simp only [tokens, Option.bind_eq_bind, Option.bind_some, mergedPassage,
          tokens_of_children, tokens_of_leaves]
      · exact (Walk.Advances.write walk _).mono (List.nil_sublist _)
  | named candidates =>
      obtain ⟨middle, titled, ready_below, from_middle⟩ :=
        exists_walkTitle? book wellFormed free candidates
      obtain ⟨next, run, advances⟩ := below _ _ (ready_below.write _) (depth + 1) false
      refine ⟨next, fun fuel enough => ?_, ?_⟩
      · rw [Outline.linkedToken] at titled
        simp only [titled, Option.bind_eq_bind, Option.bind_some]
        exact run fuel enough
      · exact from_middle ((Walk.Advances.write middle _).append advances)
  | plain =>
      have above : outline.arena.node? parent = some (outline.linkedToken parent) := by
        have inside := Outline.lt_size_of_parent? link
        rw [Outline.node?_arena, if_pos (Nat.lt_trans (wellFormed.parent_lt link) inside)]
      obtain ⟨next, run, advances⟩ := below none _ (ready.write _) (depth + 1) false
      refine ⟨next, fun fuel enough => ?_, (Walk.Advances.write walk _).append advances⟩
      simp only [link, Option.mapM_some, above, Option.map_eq_map, Option.map_some,
        Option.bind_eq_bind, Option.bind_some]
      exact run fuel enough

theorem walks_of_parent? (book : Rulebook) (wellFormed : outline.WellFormed)
    (link : outline.parent? index = some parent) : Walks book wellFormed parent index := by
  induction index using wellFormed.block_induction generalizing parent with
  | step index ih =>
      intro depth inherited walk free
      have inside := Outline.lt_size_of_parent? link
      have found : outline.arena.node? index = some (outline.linkedToken index) := by
        rw [Outline.node?_arena, if_pos inside]
      have free_below : ∀ child, outline.parent? child = some index →
          Free wellFormed (walk.goTo index) child := fun child childLink =>
            free.of_parent? childLink
      have below : WalksAll book wellFormed index (outline.children index) :=
        walksAll_of_walks book wellFormed (fun child childLink => ih child childLink childLink)
          (fun child => Outline.mem_children.mp) (outline.children_nodup index)
      obtain ⟨next, run, advances⟩ :=
        walkToken?_ends book wellFormed link (walk.goTo index) free_below below depth inherited
      refine ⟨next, fun fuel enough => ?_, ?_⟩
      -- One level is used up by the token itself.
      · obtain ⟨fuel, rfl⟩ : ∃ less, fuel = less + 1 := ⟨fuel - 1, by omega⟩
        exact (walkFrom?_of_free found free.self fuel depth inherited).trans
          (run fuel (by omega))
      · rw [wellFormed.preorder_eq]
        exact (Walk.Advances.goTo walk index).append advances

/-- The walk over all tokens ends, has gone to none of them twice, and has written the document. -/
theorem exists_walk? (book : Rulebook) (wellFormed : outline.WellFormed) :
    ∃ walk,
      (∀ fuel, outline.size ≤ fuel → book.walk? outline.arena fuel = some walk) ∧
      walk.visited.Sublist (wellFormed.preorder 0).tail ∧
      walk.passage = book.passage outline.toStatement := by
  have linked : ∀ child ∈ outline.children 0, outline.parent? child = some 0 :=
    fun child => Outline.mem_children.mp
  have free : ∀ child, outline.parent? child = some 0 →
      Free wellFormed (.start outline.size) child := by
    intro child link lower under
    simp [Walk.start, wellFormed.lt_size_of_mem_preorder link under]
  have below : WalksAll book wellFormed 0 (outline.children 0) :=
    walksAll_of_walks book wellFormed (fun child link => walks_of_parent? book wellFormed link)
      linked (outline.children_nodup 0)
  obtain ⟨walk, run, advances⟩ := below none _ (ready_of_free free) 0 false
  refine ⟨walk, fun fuel enough => ?_, ?_, ?_⟩
  · have root : outline.arena.node? 0 = some (outline.linkedToken 0) := by
      rw [Outline.node?_arena, if_pos (by simp [Outline.size])]
    rw [walk?, root, Outline.size_arena]
    exact run fuel (by omega)
  · obtain ⟨trace, part, visited⟩ := advances.visited_eq
    rw [visited, wellFormed.preorder_eq, List.tail_cons]
    exact part
  · rw [advances.passage_eq, Outline.toStatement_eq_statementAt wellFormed,
      wellFormed.statementAt_eq]
    rfl

/-- Whatever tokens are entered under tokens that are there, as those of a script are, the links are
those of a tree, and the walk over them writes the document. -/
theorem exists_arena (book : Rulebook) (findings : Findings)
    (entered : outline.Built ∨ ∃ lines, Script.outline lines = .ok outline) :
    ∃ arena, (Arena.new outline.root).pushAll? outline.entries.toList = some arena ∧
      (∀ index, (arena.node? index).map LinkedToken.token = outline.token? index) ∧
      arena.Linked ∧
      (∀ index < arena.size, ∃! path, arena.IsPath 0 index path) ∧
      ∃ walk, (∀ fuel, arena.size ≤ fuel → book.walk? arena fuel = some walk) ∧
        walk.visited.Nodup ∧ (∀ index ∈ walk.visited, 0 < index ∧ index < arena.size) ∧
        book.render outline findings =
          (⟨walk.passage.lines⟩, findings.recordAll walk.passage.missing) := by
  have built : outline.Built := by
    rcases entered with built | ⟨lines, accepted⟩
    · exact built
    · obtain ⟨reading, nests, rfl⟩ := Script.outline_nests accepted
      exact nests.built
  have wellFormed := built.wellFormed
  obtain ⟨walk, run, visited, passage_eq⟩ := exists_walk? book wellFormed
  refine ⟨outline.arena, built.pushAll?_arena, outline.token_arena, wellFormed.linked_arena,
    fun index => wellFormed.linked_arena.existsUnique_path, walk, ?_, ?_, ?_, ?_⟩
  · rwa [Outline.size_arena]
  · exact visited.nodup (wellFormed.preorder_nodup 0).tail
  · intro index member
    rw [Outline.size_arena]
    exact wellFormed.lt_size_of_mem_tail (visited.subset member)
  · rw [render, passage_eq]

/-- The title of the event is set aside before the walk comes to it, and what is merged is read with
its block. -/
theorem exists_arena_optionOutline :
    ∃ arena walk,
      (Arena.new optionOutline.root).pushAll? optionOutline.entries.toList = some arena ∧
      arena.Linked ∧ (∀ index < arena.size, ∃! path, arena.IsPath 0 index path) ∧
      (∀ fuel, arena.size ≤ fuel → optionBook.walk? arena fuel = some walk) ∧
      walk.visited = [1, 2, 3, 4, 5] ∧
      walk.aside = #[false, false, true, false, false, false, false] := by
  have built : optionOutline.Built := by
    repeat refine .push ?_ (by decide) _
    exact .new _
  obtain ⟨arena, pushed, -, linked, paths, walk, run, -⟩ :=
    exists_arena optionBook .empty (.inl built)
  have walked : ((Arena.new optionOutline.root).pushAll? optionOutline.entries.toList).bind
      (fun arena => (optionBook.walk? arena arena.size).map fun walk =>
        (walk.visited, walk.aside)) =
      some ([1, 2, 3, 4, 5], #[false, false, true, false, false, false, false]) := by
    decide +kernel
  rw [pushed, Option.bind_some, run arena.size (Nat.le_refl _), Option.map_some] at walked
  obtain ⟨visited, aside⟩ := Prod.mk.inj (Option.some.inj walked)
  exact ⟨arena, walk, pushed, linked, paths, run, visited, aside⟩

end Rulebook

end EventWiki
