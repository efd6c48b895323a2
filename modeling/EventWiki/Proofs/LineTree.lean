import EventWiki.Proofs.LineVerdict
import EventWiki.Proofs.OutlineOrder

namespace EventWiki

namespace Outline

variable {outline : Outline} {index parent child : Nat}

theorem token?_push (outline : Outline) (parent : Nat) (token : Token) (index : Nat) :
    (outline.push parent token).token? index =
      if index = outline.size then some token else outline.token? index := by
  cases index with
  | zero => simp [token?, push, size]
  | succ index =>
      simp only [token?, push, size, Array.getElem?_push, Nat.add_right_cancel_iff]
      split <;> rfl

theorem parent?_push (outline : Outline) (parent : Nat) (token : Token) (index : Nat) :
    (outline.push parent token).parent? index =
      if index = outline.size then some parent else outline.parent? index := by
  cases index with
  | zero => simp [parent?, size]
  | succ index =>
      simp only [parent?, push, size, Array.getElem?_push, Nat.add_right_cancel_iff]
      split <;> rfl

theorem children_push (outline : Outline) (above : Nat) (token : Token) (parent : Nat) :
    (outline.push above token).children parent =
      outline.children parent ++ if above = parent then [outline.size] else [] := by
  simp only [children, push, Array.toList_push, List.zipIdx_append, List.filterMap_append]
  congr 1
  simp only [List.zipIdx_singleton, List.filterMap_cons, List.filterMap_nil, size,
    Array.length_toList]
  rw [Nat.add_comm]
  split <;> simp_all

theorem tokenAt_push (outline : Outline) (above : Nat) (token : Token) (index : Nat) :
    (outline.push above token).tokenAt index =
      if index = outline.size then token else outline.tokenAt index := by
  rw [tokenAt, token?_push, root_push]
  split <;> rfl

theorem parent?_push_of_parent? (link : outline.parent? child = some parent) (above : Nat)
    (token : Token) : (outline.push above token).parent? child = some parent := by
  rw [parent?_push, if_neg (Nat.ne_of_lt (lt_size_of_parent? link)), link]

theorem StandsUnder.push {lower upper : Nat} (under : outline.StandsUnder lower upper)
    (above : Nat) (token : Token) : (outline.push above token).StandsUnder lower upper :=
  Relation.ReflTransGen.mono (fun _ _ link => parent?_push_of_parent? link above token)
    lower upper under

theorem standsUnder_push_size (outline : Outline) (above : Nat) (token : Token) :
    (outline.push above token).StandsUnder outline.size above :=
  .single (by rw [parent?_push, if_pos rfl])

theorem DepthFirst.push (ordered : outline.DepthFirst) {above : Nat}
    (rightmost : outline.StandsUnder (outline.size - 1) above) (token : Token) :
    (outline.push above token).DepthFirst := by
  intro index parent link
  rw [parent?_push] at link
  split at link
  · next last =>
      obtain rfl := Option.some.inj link
      obtain rfl : index = outline.size - 1 := by omega
      exact rightmost.push above token
  · exact (ordered index parent link).push above token

end Outline

namespace Script

/-- The token under which the next line stands behind some lines. -/
def Encloses (before : List String) (parent : Nat) : Prop :=
  (parent = 0 ∧ ∀ position, ¬OpenAt before position) ∨
    ∃ position, InnermostAt before position ∧ parent = tokenNumber before position

/-- The token with a number is that of the line that is the number-th one with a token. -/
def HoldsLine (lines : List String) (outline : Outline) (number : Nat) : Prop :=
  ∃ position line text token,
    lines[position]? = some line ∧ tokenNumber lines position = number ∧
    (LineRole.ofLine line).text? = some text ∧ tokenOf? text = some token ∧
    outline.token? number = some token ∧
    ∃ parent, outline.parent? number = some parent ∧ Encloses (lines.take position) parent

structure NestsLines (lines : List String) (outline : Outline) : Prop where
  root_eq : outline.root = .bare rootKind
  size_eq : outline.size = tokenCount lines + 1
  holds_line : ∀ number, 0 < number → number < outline.size → HoldsLine lines outline number
  children_sorted : ∀ parent, (outline.children parent).Pairwise (· < ·)
  mem_children : ∀ parent child,
    child ∈ outline.children parent ↔ outline.parent? child = some parent
  depth_first : ∃ wellFormed : outline.WellFormed,
    wellFormed.preorder 0 = List.range outline.size

/-- Each open block stands directly in the next one. -/
def Linked (outline : Outline) : List OpenBlock → Prop
  | [] => True
  | block :: blocks =>
      outline.parent? block.index = some ((blocks.head?.map OpenBlock.index).getD 0) ∧
        Linked outline blocks

structure Reading.Nests (reading : Reading) (done : List String) : Prop where
  tracks : reading.Tracks done
  built : reading.outline.Built
  root_eq : reading.outline.root = .bare rootKind
  holds_line : ∀ number, 0 < number → number < reading.outline.size →
    HoldsLine done reading.outline number
  linked : Linked reading.outline reading.blocks
  ordered : reading.outline.DepthFirst
  rightmost : reading.outline.StandsUnder (reading.outline.size - 1) reading.parent

theorem Linked.push {outline : Outline} {blocks : List OpenBlock} (linked : Linked outline blocks)
    (above : Nat) (token : Token) : Linked (outline.push above token) blocks := by
  induction blocks with
  | nil => trivial
  | cons block blocks ih =>
      exact ⟨Outline.parent?_push_of_parent? linked.1 above token, ih linked.2⟩

theorem Reading.Tracks.encloses {reading : Reading} {done : List String}
    (tracks : reading.Tracks done) : Encloses done reading.parent := by
  obtain ⟨positions, open_lines, opened⟩ := tracks.blocks
  cases stack : reading.blocks with
  | nil =>
      rw [stack] at opened
      cases opened
      refine .inl ⟨by simp [Reading.parent, stack], fun position => ?_⟩
      simp [← open_lines.mem_iff]
  | cons block blocks =>
      rw [stack] at opened
      cases opened with
      | @cons position _ positions _ opened _ =>
          refine .inr ⟨position, open_lines.innermost, ?_⟩
          simp [Reading.parent, stack, opened.index_eq]

theorem HoldsLine.concat {done : List String} {outline : Outline} {number : Nat}
    (holds : HoldsLine done outline number) (line : String) :
    HoldsLine (done ++ [line]) outline number := by
  obtain ⟨position, held, text, token, found, number_eq, rest⟩ := holds
  have earlier : position < done.length := (List.getElem?_eq_some_iff.mp found).1
  refine ⟨position, held, text, token, ?_, ?_, ?_⟩
  · rw [List.getElem?_append_left earlier, found]
  · rw [← number_eq, tokenNumber, tokenNumber, List.take_append_of_le_length earlier]
  · rwa [List.take_append_of_le_length (Nat.le_of_lt earlier)]

theorem HoldsLine.push {done : List String} {outline : Outline} {number : Nat}
    (holds : HoldsLine done outline number) (early : number < outline.size) (above : Nat)
    (token : Token) : HoldsLine done (outline.push above token) number := by
  obtain ⟨position, line, text, held, found, number_eq, role, read, token_eq, parent, link,
    encloses⟩ := holds
  refine ⟨position, line, text, held, found, number_eq, role, read, ?_, parent,
    Outline.parent?_push_of_parent? link above token, encloses⟩
  rw [Outline.token?_push, if_neg (Nat.ne_of_lt early), token_eq]

theorem HoldsLine.last {reading : Reading} {done : List String} (nests : reading.Nests done)
    {line text : String} (role : (LineRole.ofLine line).text? = some text) {token : Token}
    (read : tokenOf? text = some token) :
    HoldsLine (done ++ [line]) (reading.outline.push reading.parent token)
      reading.outline.size := by
  have counted : tokenCount [line] = 1 := by
    cases kind : LineRole.ofLine line <;>
      simp [tokenCount_singleton, kind, LineRole.text?, LineRole.closes] at role ⊢
  refine ⟨done.length, line, text, token, by simp, ?_, role, read, ?_, reading.parent, ?_, ?_⟩
  · rw [tokenNumber, List.take_of_length_le (by simp), tokenCount_append, counted,
      nests.tracks.size_eq]
  · rw [Outline.token?_push, if_pos rfl]
  · rw [Outline.parent?_push, if_pos rfl]
  · rw [List.take_left]
    exact nests.tracks.encloses

theorem Reading.Nests.push {reading next : Reading} {done : List String}
    (nests : reading.Nests done) {line text : String}
    (role : (LineRole.ofLine line).text? = some text) {token : Token}
    (read : tokenOf? text = some token) (tracks : next.Tracks (done ++ [line]))
    (outline_eq : next.outline = reading.outline.push reading.parent token)
    (linked : Linked next.outline next.blocks)
    (rightmost : next.outline.StandsUnder reading.outline.size next.parent) :
    next.Nests (done ++ [line]) where
  tracks := tracks
  built := by
    rw [outline_eq]
    have bound := nests.rightmost.le nests.built.wellFormed
    refine nests.built.push ?_ token
    simp only [Outline.size] at bound ⊢
    omega
  root_eq := by rw [outline_eq, Outline.root_push, nests.root_eq]
  holds_line := by
    intro number positive bound
    rw [outline_eq] at bound ⊢
    rw [Outline.size_push] at bound
    by_cases last : number = reading.outline.size
    · subst last
      exact HoldsLine.last nests role read
    · have early : number < reading.outline.size := by omega
      exact ((nests.holds_line number positive early).concat line).push early _ _
  linked := linked
  ordered := by
    rw [outline_eq]
    exact nests.ordered.push nests.rightmost token
  rightmost := by
    have last : next.outline.size - 1 = reading.outline.size := by
      rw [outline_eq, Outline.size_push, Nat.add_sub_cancel]
    rw [last]
    exact rightmost

theorem Reading.Nests.start : Reading.start.Nests [] where
  tracks := .start
  built := .new _
  root_eq := rfl
  holds_line := by
    intro number positive bound
    simp only [Reading.start, Outline.size_new] at bound
    omega
  linked := trivial
  ordered := by
    intro index parent link
    simp [Reading.start, Outline.new, Outline.parent?] at link
  rightmost := .refl

theorem Reading.Nests.step {reading next : Reading} {done : List String} {line : String}
    (nests : reading.Nests done) (stepped : reading.step line (done.length + 1) = .ok next) :
    next.Nests (done ++ [line]) := by
  have tracks := nests.tracks.step stepped
  cases step_ok stepped with
  | @close role block blocks stack =>
      have linked := nests.linked
      rw [stack] at linked
      refine ⟨tracks, nests.built, nests.root_eq, fun number positive bound => ?_, linked.2,
        nests.ordered, ?_⟩
      · exact (nests.holds_line number positive bound).concat line
      · have top := nests.rightmost
        simp only [parent, stack, List.head?_cons, Option.map_some, Option.getD_some] at top
        exact top.tail linked.1
  | @header text role token read =>
      refine nests.push (by rw [role]; rfl) read tracks rfl ⟨?_, ?_⟩ .refl
      · exact (Outline.parent?_push ..).trans (if_pos rfl)
      · exact nests.linked.push reading.parent token
  | @leaf text role token read =>
      refine nests.push (by rw [role]; rfl) read tracks rfl ?_ ?_
      · exact nests.linked.push reading.parent token
      · exact Outline.standsUnder_push_size reading.outline reading.parent token

theorem Reading.steps_induction {motive : Reading → List String → Prop} {reading last : Reading}
    {done rest : List String} (held : motive reading done)
    (kept : ∀ line ∈ rest, ∀ {reading next : Reading} {done : List String}, motive reading done →
      reading.step line (done.length + 1) = .ok next → motive next (done ++ [line]))
    (run : reading.steps (done.length + 1) rest = .ok last) : motive last (done ++ rest) := by
  induction rest generalizing reading done with
  | nil =>
      obtain rfl : reading = last := by simpa [Reading.steps] using run
      rwa [List.append_nil]
  | cons line rest ih =>
      rw [List.forall_mem_cons] at kept
      cases stepped : reading.step line (done.length + 1) with
      | error error => simp [Reading.steps, stepped] at run
      | ok next =>
          simp only [Reading.steps, stepped] at run
          rw [List.append_cons]
          exact ih (kept.1 held stepped) kept.2 (by simpa using run)

theorem outline_induction {motive : Reading → List String → Prop} {lines : List String}
    {result : Outline} (accepted : outline lines = .ok result) (start : motive .start [])
    (kept : ∀ line ∈ lines, ∀ {reading next : Reading} {done : List String}, motive reading done →
      reading.step line (done.length + 1) = .ok next → motive next (done ++ [line])) :
    ∃ reading : Reading, motive reading lines ∧ reading.outline = result := by
  unfold outline at accepted
  cases run : Reading.start.steps 1 lines with
  | error error => simp [run] at accepted
  | ok reading =>
      refine ⟨reading, Reading.steps_induction start kept run, ?_⟩
      cases stack : reading.blocks with
      | nil => simpa [run, Reading.finish, stack] using accepted
      | cons block blocks => simp [run, Reading.finish, stack] at accepted

theorem outline_nests {lines : List String} {result : Outline}
    (accepted : outline lines = .ok result) :
    ∃ reading : Reading, reading.Nests lines ∧ reading.outline = result :=
  outline_induction accepted .start fun _ _ _ _ _ => .step

/-- What holds of the token of the root and of every token that a line is read as holds of all
tokens of the outline. -/
theorem tokenAt_induction {motive : Token → Prop} {lines : List String} {result : Outline}
    (accepted : outline lines = .ok result) (root : motive (.bare rootKind))
    (of_line : ∀ line ∈ lines, ∀ text token, (LineRole.ofLine line).text? = some text →
      tokenOf? text = some token → motive token) (index : Nat) : motive (result.tokenAt index) := by
  obtain ⟨reading, nests, rfl⟩ := outline_nests accepted
  rw [Outline.tokenAt, nests.root_eq]
  cases index with
  | zero => exact nests.root_eq ▸ root
  | succ index =>
      cases found : reading.outline.token? (index + 1) with
      | none => exact root
      | some token =>
          have bound : index + 1 < reading.outline.size := by
            obtain ⟨entry, stored, _⟩ := Option.map_eq_some_iff.mp found
            exact Nat.succ_lt_succ (Array.getElem?_eq_some_iff.mp stored).1
          obtain ⟨_, line, text, held, at_line, _, role, read, token_eq, _⟩ :=
            nests.holds_line (index + 1) (Nat.succ_pos index) bound
          obtain rfl := Option.some.inj (found.symm.trans token_eq)
          exact of_line line (List.mem_of_getElem? at_line) text token role read

theorem outline_nestsLines {lines : List String} {result : Outline}
    (accepted : outline lines = .ok result) : NestsLines lines result := by
  obtain ⟨reading, nests, rfl⟩ := outline_nests accepted
  have wellFormed := nests.built.wellFormed
  exact {
    root_eq := nests.root_eq
    size_eq := nests.tracks.size_eq
    holds_line := nests.holds_line
    children_sorted := reading.outline.children_sorted
    mem_children := fun _ _ => Outline.mem_children
    depth_first := ⟨wellFormed, wellFormed.preorder_root nests.ordered⟩ }

def triggerLines : List String :=
  ["Trigger = \x7b", "NOT = \x7b", "\x7d", "owner = ROOT", "\x7d", "is_year >= 1500"]

theorem outline_triggerLines :
    ∃ result, outline triggerLines = .ok result ∧ NestsLines triggerLines result := by
  have accepted : outline triggerLines =
      .ok ⟨.bare rootKind,
        #[⟨0, .make "trigger" (some .equal) none⟩, ⟨1, .make "not" (some .equal) none⟩,
          ⟨1, .make "owner" (some .equal) (some "ROOT")⟩,
          ⟨0, .make "is_year" (some .notLess) (some "1500")⟩]⟩ := by
    decide +kernel
  exact ⟨_, accepted, outline_nestsLines accepted⟩

end Script

end EventWiki
