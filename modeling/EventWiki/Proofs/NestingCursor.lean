import EventWiki.Proofs.LineTree

namespace EventWiki.Script

/-! A closing brace moves the cursor to the token above it, and only the lines of the open blocks
are kept beside the outline; what a block is called is looked up where it stands. -/

/-- The lines of the open blocks are those of the braces, the innermost last. -/
structure Cursor where
  outline : Outline
  token : Nat
  openLines : List Nat

namespace Cursor

def start : Cursor :=
  ⟨.new (.bare rootKind), 0, []⟩

def addLeaf (cursor : Cursor) (token : Token) : Cursor :=
  { cursor with outline := cursor.outline.push cursor.token token }

def addBlock (cursor : Cursor) (line : Nat) (token : Token) : Cursor where
  outline := cursor.outline.push cursor.token token
  token := cursor.outline.size
  openLines := cursor.openLines ++ [line]

def close (cursor : Cursor) (number : Nat) : Except ScriptError Cursor :=
  match cursor.outline.parent? cursor.token with
  | none => .error (.unmatchedClose number)
  | some above => .ok { cursor with token := above, openLines := cursor.openLines.dropLast }

def step (cursor : Cursor) (line : String) (number : Nat) : Except ScriptError Cursor :=
  match LineRole.ofLine line with
  | .close => cursor.close number
  | .header text => (Token.read number text).map (cursor.addBlock number)
  | .leaf text => (Token.read number text).map cursor.addLeaf

def steps (cursor : Cursor) (number : Nat) : List String → Except ScriptError Cursor
  | [] => .ok cursor
  | line :: rest =>
      match cursor.step line number with
      | .ok next => next.steps (number + 1) rest
      | .error error => .error error

def finish (cursor : Cursor) : Except ScriptError Outline :=
  if cursor.token = 0 then .ok cursor.outline
  else
    .error (.unclosedBlock (cursor.outline.tokenAt cursor.token).kind
      (cursor.openLines.getLast?.getD 0))

def read (lines : List String) : Except ScriptError Outline :=
  match start.steps 1 lines with
  | .ok cursor => cursor.finish
  | .error error => .error error

end Cursor

theorem Linked.link_of_mem {outline : Outline} {blocks : List OpenBlock}
    (linked : Linked outline blocks) {block : OpenBlock} (member : block ∈ blocks) :
    ∃ parent, outline.parent? block.index = some parent := by
  induction blocks with
  | nil => simp at member
  | cons first rest ih =>
      rcases List.mem_cons.mp member with rfl | inside
      · exact ⟨_, linked.1⟩
      · exact ih linked.2 inside

/-- A reading and a cursor that have read the same lines. The open blocks are the tokens above the
cursor, and its own. -/
structure Reading.Follows (reading : Reading) (cursor : Cursor) : Prop where
  outline_eq : cursor.outline = reading.outline
  token_eq : cursor.token = reading.parent
  lines_eq : cursor.openLines = (reading.blocks.map OpenBlock.line).reverse
  linked : Linked reading.outline reading.blocks
  kind_eq : ∀ block ∈ reading.blocks, (reading.outline.tokenAt block.index).kind = block.kind

/-- Both go on, or stop at the same error. -/
inductive SameResult : Except ScriptError Reading → Except ScriptError Cursor → Prop where
  | ok {reading : Reading} {cursor : Cursor} (follows : reading.Follows cursor) :
      SameResult (.ok reading) (.ok cursor)
  | error (error : ScriptError) : SameResult (.error error) (.error error)

namespace Reading.Follows

variable {reading : Reading} {cursor : Cursor}

theorem start : Reading.start.Follows .start where
  outline_eq := rfl
  token_eq := rfl
  lines_eq := rfl
  linked := trivial
  kind_eq := by simp [Reading.start]

theorem kind_push (follows : reading.Follows cursor) (token : Token) :
    ∀ block ∈ reading.blocks,
      ((reading.outline.push reading.parent token).tokenAt block.index).kind = block.kind := by
  intro block member
  obtain ⟨parent, link⟩ := follows.linked.link_of_mem member
  rw [Outline.tokenAt_push, if_neg (Nat.ne_of_lt (Outline.lt_size_of_parent? link)),
    follows.kind_eq block member]

theorem addLeaf (follows : reading.Follows cursor) (token : Token) :
    (reading.addLeaf token).Follows (cursor.addLeaf token) where
  outline_eq := by
    rw [Cursor.addLeaf, Reading.addLeaf, follows.outline_eq, follows.token_eq]
  token_eq := follows.token_eq
  lines_eq := follows.lines_eq
  linked := follows.linked.push reading.parent token
  kind_eq := follows.kind_push token

theorem addBlock (follows : reading.Follows cursor) (line : Nat) (token : Token) :
    (reading.addBlock line token).Follows (cursor.addBlock line token) where
  outline_eq := by
    rw [Cursor.addBlock, Reading.addBlock, follows.outline_eq, follows.token_eq]
  token_eq := by
    rw [Cursor.addBlock, follows.outline_eq]
    rfl
  lines_eq := by
    rw [Cursor.addBlock, follows.lines_eq, Reading.addBlock, List.map_cons, List.reverse_cons]
  linked := by
    refine ⟨?_, follows.linked.push reading.parent token⟩
    exact (Outline.parent?_push ..).trans (if_pos rfl)
  kind_eq := by
    refine List.forall_mem_cons.mpr ⟨?_, follows.kind_push token⟩
    rw [Reading.addBlock, Outline.tokenAt_push, if_pos rfl]

theorem close_of_nil (follows : reading.Follows cursor) (stack : reading.blocks = [])
    (number : Nat) : cursor.close number = .error (.unmatchedClose number) := by
  rw [Cursor.close, follows.outline_eq, follows.token_eq, Reading.parent, stack]
  rfl

theorem close_of_cons (follows : reading.Follows cursor) {block : OpenBlock}
    {blocks : List OpenBlock} (stack : reading.blocks = block :: blocks) (number : Nat) :
    ∃ next, cursor.close number = .ok next ∧ { reading with blocks }.Follows next := by
  obtain ⟨outline_eq, token_eq, lines_eq, linked, kind_eq⟩ := follows
  rw [stack] at linked lines_eq kind_eq
  have here : cursor.token = block.index := by
    rw [token_eq, Reading.parent, stack]
    rfl
  refine ⟨_, by simp only [Cursor.close, outline_eq, here, linked.1]; rfl, rfl, rfl, ?_,
    linked.2, (List.forall_mem_cons.mp kind_eq).2⟩
  rw [lines_eq, List.map_cons, List.reverse_cons, List.dropLast_concat]

theorem step (follows : reading.Follows cursor) (line : String) (number : Nat) :
    SameResult (reading.step line number) (cursor.step line number) := by
  unfold Reading.step Cursor.step
  cases LineRole.ofLine line with
  | close =>
      dsimp only
      cases stack : reading.blocks with
      | nil =>
          rw [follows.close_of_nil stack]
          exact .error _
      | cons block blocks =>
          obtain ⟨next, closed, follows⟩ := follows.close_of_cons stack number
          rw [closed]
          exact .ok follows
  | header text =>
      dsimp only
      cases Token.read number text with
      | error error => exact .error error
      | ok token => exact .ok (follows.addBlock number token)
  | leaf text =>
      dsimp only
      cases Token.read number text with
      | error error => exact .error error
      | ok token => exact .ok (follows.addLeaf token)

theorem steps (follows : reading.Follows cursor) (number : Nat) (lines : List String) :
    SameResult (reading.steps number lines) (cursor.steps number lines) := by
  induction lines generalizing reading cursor number with
  | nil => exact .ok follows
  | cons line rest ih =>
      rw [Reading.steps, Cursor.steps]
      have same := follows.step line number
      generalize reading.step line number = result, cursor.step line number = result' at same ⊢
      cases same with
      | error error => exact .error error
      | ok follows => exact ih follows (number + 1)

theorem finish (follows : reading.Follows cursor) : cursor.finish = reading.finish := by
  obtain ⟨outline_eq, token_eq, lines_eq, linked, kind_eq⟩ := follows
  rw [Cursor.finish, Reading.finish, outline_eq, token_eq, lines_eq, Reading.parent]
  cases stack : reading.blocks with
  | nil => rfl
  | cons block blocks =>
      rw [stack] at linked kind_eq
      have inner : block.index ≠ 0 := by
        intro top
        have link := linked.1
        rw [top] at link
        simp at link
      simp only [List.head?_cons, Option.map_some, Option.getD_some, if_neg inner,
        List.map_cons, List.reverse_cons, List.getLast?_concat,
        kind_eq block List.mem_cons_self]

end Reading.Follows

/-- A cursor reads the same outline as the stack of open blocks, and stops at the same error. -/
theorem read_eq_outline (lines : List String) : Cursor.read lines = outline lines := by
  rw [Cursor.read, outline]
  have same := Reading.Follows.start.steps 1 lines
  generalize Reading.start.steps 1 lines = result, Cursor.start.steps 1 lines = result' at same ⊢
  cases same with
  | error error => rfl
  | ok follows => exact follows.finish

end EventWiki.Script
