import EventWiki.Proofs.BraceJoin
import EventWiki.Proofs.LineVerdict
import EventWiki.Proofs.NestedEntries

namespace EventWiki

namespace Statement

def add (block statement : Statement) : Statement :=
  .mk block.token (block.children ++ [statement])

def size (statement : Statement) : Nat :=
  (statement.entries 0 0).length

@[simp] theorem token_add (block statement : Statement) : (block.add statement).token = block.token :=
  rfl

@[simp] theorem kind_add (block statement : Statement) : (block.add statement).kind = block.kind :=
  rfl

theorem entriesAll_append (parent index : Nat) (left right : List Statement) :
    entriesAll parent index (left ++ right) =
      entriesAll parent index left ++
        entriesAll parent (index + (entriesAll parent index left).length) right := by
  induction left generalizing index with
  | nil => rfl
  | cons statement left ih =>
      rw [List.cons_append, entriesAll, entriesAll, ih, List.append_assoc, List.length_append,
        Nat.add_assoc]

mutual

theorem length_entries (statement : Statement) (parent index other next : Nat) :
    (statement.entries parent index).length = (statement.entries other next).length := by
  cases statement with
  | mk token children =>
      rw [entries, entries, List.length_cons, List.length_cons,
        length_entriesAll children index (index + 1) next (next + 1)]

theorem length_entriesAll (statements : List Statement) (parent index other next : Nat) :
    (entriesAll parent index statements).length = (entriesAll other next statements).length := by
  cases statements with
  | nil => rfl
  | cons statement rest =>
      rw [entriesAll, entriesAll, List.length_append, List.length_append,
        length_entries statement parent index other next]
      congr 1
      exact length_entriesAll rest ..

end

theorem length_entries_eq_size (statement : Statement) (parent index : Nat) :
    (statement.entries parent index).length = statement.size :=
  statement.length_entries parent index 0 0

theorem entries_add (block statement : Statement) (parent index : Nat) :
    (block.add statement).entries parent index =
      block.entries parent index ++ statement.entries index (index + block.size) := by
  obtain ⟨token, children⟩ := block
  have block_size : (mk token children).size = (entriesAll index (index + 1) children).length + 1 := by
    rw [← length_entries_eq_size _ parent index, entries, List.length_cons]
  rw [block_size, ← Nat.add_assoc, Nat.add_right_comm]
  simp only [add, token_mk, children_mk, entries, entriesAll_append, entriesAll, List.append_nil,
    List.cons_append]

end Statement

namespace Outline

theorem ofStatement_eq (statement : Statement) :
    ofStatement statement = (new statement.token).enterAll (statement.entries 0 0).tail := by
  cases statement
  rfl

theorem size_ofStatement (statement : Statement) : (ofStatement statement).size = statement.size := by
  cases statement with
  | mk token children =>
      rw [ofStatement, size_enterAll, size_new, Statement.size, Statement.entries,
        List.length_cons, Nat.add_comm]
      rfl

theorem ofStatement_of_entries_eq {statement longer : Statement} {entries : List Entry}
    (token_eq : longer.token = statement.token)
    (entries_eq : longer.entries 0 0 = statement.entries 0 0 ++ entries) :
    ofStatement longer = (ofStatement statement).enterAll entries := by
  have filled : statement.entries 0 0 ≠ [] := by
    cases statement
    exact List.cons_ne_nil _ _
  rw [ofStatement_eq, ofStatement_eq, token_eq, entries_eq, List.tail_append_of_ne_nil filled,
    enterAll_append]

end Outline

namespace Script

/-- What has been read of nested statements: the root with the statements that are complete, and
the open blocks with those that are complete in them, the innermost block first. -/
structure Nest where
  root : Statement
  blocks : List Statement

namespace Nest

def start : Nest :=
  ⟨.mk (.bare rootKind) [], []⟩

def innermost (nest : Nest) : Statement :=
  nest.blocks.head?.getD nest.root

def add (nest : Nest) (statement : Statement) : Nest :=
  match nest.blocks with
  | [] => { nest with root := nest.root.add statement }
  | block :: blocks => { nest with blocks := block.add statement :: blocks }

def openBlock (nest : Nest) (token : Token) : Nest :=
  { nest with blocks := .mk token [] :: nest.blocks }

def close? (nest : Nest) : Option Nest :=
  match nest.blocks with
  | [] => none
  | block :: blocks => some (add { nest with blocks } block)

def step? (nest : Nest) (line : String) : Option Nest :=
  match LineRole.ofLine line with
  | .close => nest.close?
  | .header text => (tokenOf? text).map nest.openBlock
  | .leaf text => (tokenOf? text).map fun token => nest.add (.mk token [])

def steps? (nest : Nest) : List String → Option Nest
  | [] => some nest
  | line :: rest => (nest.step? line).bind (·.steps? rest)

theorem steps?_append (nest : Nest) (left right : List String) :
    nest.steps? (left ++ right) = (nest.steps? left).bind (·.steps? right) := by
  induction left generalizing nest with
  | nil => rfl
  | cons line left ih =>
      rw [List.cons_append, steps?, steps?, Option.bind_assoc]
      congr 1
      funext next
      exact ih next

/-- The whole statement when all blocks are closed behind one more statement. -/
def plug (root : Statement) : List Statement → Statement → Statement
  | [], statement => root.add statement
  | block :: blocks, statement => plug root blocks (block.add statement)

def whole (nest : Nest) : Statement :=
  match nest.blocks with
  | [] => nest.root
  | block :: blocks => plug nest.root blocks block

def position (root : Statement) : List Statement → Nat
  | [] => 0
  | _ :: blocks => position root blocks + (blocks.head?.getD root).size

@[simp] theorem whole_add (nest : Nest) (statement : Statement) :
    (nest.add statement).whole = plug nest.root nest.blocks statement := by
  obtain ⟨root, blocks⟩ := nest
  cases blocks <;> rfl

@[simp] theorem token_plug (root : Statement) (blocks : List Statement) (statement : Statement) :
    (plug root blocks statement).token = root.token := by
  induction blocks generalizing statement with
  | nil => rfl
  | cons block blocks ih => exact ih (block.add statement)

@[simp] theorem token_whole (nest : Nest) : nest.whole.token = nest.root.token := by
  obtain ⟨root, blocks⟩ := nest
  cases blocks with
  | nil => rfl
  | cons block blocks => exact token_plug root blocks block

theorem entries_plug (root : Statement) (blocks : List Statement) (statement : Statement) :
    (plug root blocks statement).entries 0 0 =
      (whole ⟨root, blocks⟩).entries 0 0 ++
        statement.entries (position root blocks)
          (position root blocks + (innermost ⟨root, blocks⟩).size) := by
  induction blocks generalizing statement with
  | nil =>
      rw [plug, Statement.entries_add]
      rfl
  | cons block blocks ih =>
      -- The statement ends its block, and that block ends the one around it.
      have whole_eq : whole ⟨root, block :: blocks⟩ = plug root blocks block := rfl
      rw [plug, ih, Statement.entries_add, ← List.append_assoc, ← ih, whole_eq]
      rfl

theorem size_whole (root : Statement) (blocks : List Statement) :
    (whole ⟨root, blocks⟩).size = position root blocks + (innermost ⟨root, blocks⟩).size := by
  induction blocks with
  | nil => exact (Nat.zero_add _).symm
  | cons block blocks ih =>
      have whole_eq : whole ⟨root, block :: blocks⟩ = plug root blocks block := rfl
      rw [whole_eq, Statement.size, entries_plug, List.length_append,
        Statement.length_entries_eq_size, Statement.length_entries_eq_size, ih]
      rfl

theorem ofStatement_plug_leaf (nest : Nest) (token : Token) :
    Outline.ofStatement (plug nest.root nest.blocks (.mk token [])) =
      (Outline.ofStatement nest.whole).push (position nest.root nest.blocks) token := by
  rw [Outline.ofStatement_of_entries_eq ((token_plug ..).trans nest.token_whole.symm)
    (entries_plug nest.root nest.blocks (.mk token []))]
  rfl

end Nest

/-- Open blocks of a reading, and the same blocks with the statements that are read in them. -/
inductive OpenedAs (root : Statement) : List OpenBlock → List Statement → Prop where
  | nil : OpenedAs root [] []
  | cons {block : OpenBlock} {blocks : List OpenBlock} {statement : Statement}
      {statements : List Statement} (kind_eq : block.kind = statement.kind)
      (index_eq : block.index = Nest.position root (statement :: statements))
      (outer : OpenedAs root blocks statements) :
      OpenedAs root (block :: blocks) (statement :: statements)

theorem OpenedAs.eq_nil {root : Statement} {blocks : List OpenBlock}
    {statements : List Statement} (opened : OpenedAs root blocks statements)
    (closed : blocks = []) : statements = [] := by
  cases opened with
  | nil => rfl
  | cons => contradiction

/-- A reading of lines has the outline of the nested statements that are read. -/
structure Reading.Mirrors (reading : Reading) (nest : Nest) : Prop where
  outline_eq : reading.outline = .ofStatement nest.whole
  blocks : OpenedAs nest.root reading.blocks nest.blocks

namespace Reading.Mirrors

variable {reading : Reading} {nest : Nest}

theorem start : Reading.start.Mirrors Nest.start where
  outline_eq := rfl
  blocks := .nil

theorem parent_eq (mirrors : reading.Mirrors nest) :
    reading.parent = Nest.position nest.root nest.blocks := by
  obtain ⟨outline, blocks⟩ := reading
  obtain ⟨root, statements⟩ := nest
  cases mirrors.blocks with
  | nil => rfl
  | cons kind_eq index_eq outer => exact index_eq

theorem kind_innermost (mirrors : reading.Mirrors nest) {block : OpenBlock}
    {blocks : List OpenBlock} (stack : reading.blocks = block :: blocks) :
    nest.innermost.kind = block.kind := by
  have opened := mirrors.blocks
  rw [stack] at opened
  obtain ⟨root, statements⟩ := nest
  cases opened with
  | cons kind_eq index_eq outer => exact kind_eq.symm

theorem addLeaf (mirrors : reading.Mirrors nest) (token : Token) :
    (reading.addLeaf token).Mirrors (nest.add (.mk token [])) where
  outline_eq := by
    rw [Nest.whole_add, Nest.ofStatement_plug_leaf, ← mirrors.outline_eq, ← mirrors.parent_eq]
    rfl
  blocks := by
    obtain ⟨outline, blocks⟩ := reading
    obtain ⟨root, statements⟩ := nest
    cases mirrors.blocks with
    | nil => exact .nil
    | cons kind_eq index_eq outer => exact .cons kind_eq index_eq outer

theorem addBlock (mirrors : reading.Mirrors nest) (number : Nat) (token : Token) :
    (reading.addBlock number token).Mirrors (nest.openBlock token) where
  outline_eq := by
    have whole_eq : (nest.openBlock token).whole = Nest.plug nest.root nest.blocks (.mk token []) :=
      rfl
    rw [whole_eq, Nest.ofStatement_plug_leaf, ← mirrors.outline_eq, ← mirrors.parent_eq]
    rfl
  blocks := by
    -- A block is entered at the end of the outline, so its index is the size of the whole.
    refine .cons rfl ?_ mirrors.blocks
    have size_eq := Nest.size_whole nest.root nest.blocks
    rw [← Outline.size_ofStatement] at size_eq
    exact (congrArg Outline.size mirrors.outline_eq).trans size_eq

theorem close (mirrors : reading.Mirrors nest) {block : OpenBlock} {blocks : List OpenBlock}
    (stack : reading.blocks = block :: blocks) :
    ∃ next, nest.close? = some next ∧ Mirrors { reading with blocks } next := by
  obtain ⟨outline, opened⟩ := reading
  obtain ⟨root, statements⟩ := nest
  obtain rfl : opened = block :: blocks := stack
  obtain ⟨outline_eq, opened⟩ := mirrors
  cases opened with
  | @cons _ _ statement statements kind_eq index_eq outer =>
      refine ⟨_, rfl, ?_, ?_⟩
      · rw [Nest.whole_add]
        exact outline_eq
      · cases outer with
        | nil => exact .nil
        | cons kind_eq index_eq outer => exact .cons kind_eq index_eq outer

theorem of_read {add : Token → Reading} {enter : Token → Nest}
    (mirrored : ∀ token, (add token).Mirrors (enter token)) (number : Nat) (text : String) :
    Option.Rel Reading.Mirrors ((Token.read number text).map add).toOption
      ((tokenOf? text).map enter) := by
  cases read : Token.read number text with
  | ok token =>
      rw [read_ok_iff.mp read]
      exact .some (mirrored token)
  | error error =>
      have unread : tokenOf? text = none := by
        rw [Option.eq_none_iff_forall_ne_some]
        intro token found
        rw [read_ok_iff.mpr found] at read
        contradiction
      rw [unread]
      exact .none

theorem step (mirrors : reading.Mirrors nest) (line : String) (number : Nat) :
    Option.Rel Reading.Mirrors (reading.step line number).toOption (nest.step? line) := by
  unfold Reading.step Nest.step?
  cases LineRole.ofLine line with
  | close =>
      cases stack : reading.blocks with
      | nil =>
          have unopened := mirrors.blocks.eq_nil stack
          simp only [Nest.close?, unopened]
          exact .none
      | cons block blocks =>
          obtain ⟨next, closed, mirrored⟩ := mirrors.close stack
          simp only [closed]
          exact .some mirrored
  | header text => exact of_read (mirrors.addBlock number) number text
  | leaf text => exact of_read mirrors.addLeaf number text

theorem steps (mirrors : reading.Mirrors nest) (number : Nat) (lines : List String) :
    Option.Rel Reading.Mirrors (reading.steps number lines).toOption (nest.steps? lines) := by
  induction lines generalizing reading nest number with
  | nil => exact .some mirrors
  | cons line rest ih =>
      -- Up to a line both readings mirror each other, so they stop at the same one.
      have first := mirrors.step line number
      rw [Reading.steps, Nest.steps?]
      generalize reading.step line number = read at first ⊢
      generalize nest.step? line = nested at first ⊢
      cases read with
      | error error =>
          cases first
          exact .none
      | ok next =>
          cases first with
          | some mirrored => exact ih mirrored (number + 1)

end Reading.Mirrors

namespace Nest

theorem step?_lone_brace (nest : Nest) : nest.step? "\x7b" = none := by
  have role : LineRole.ofLine "\x7b" = .header "" := by decide
  have unread : tokenOf? "" = none := by decide
  simp only [step?, role, unread]
  rfl

theorem head?_of_steps? {nest next : Nest} {lines : List (List Char)}
    (read : nest.steps? ((joinBraces lines).map String.ofList) = some next) :
    lines.head? ≠ some ['{'] := by
  intro alone
  obtain ⟨rest, rfl⟩ : ∃ rest, lines = ['{'] :: rest := by
    cases lines with
    | nil => simp at alone
    | cons line rest => exact ⟨rest, by simpa using alone⟩
  rw [joinBraces_cons fun _ => by decide, List.map_cons, steps?, step?_lone_brace] at read
  contradiction

end Nest

/-- Lines are accepted when they are read as nested statements that leave no block open. -/
theorem outline_ok_iff {lines : List String} {result : Outline} :
    outline lines = .ok result ↔
      ∃ root, Nest.start.steps? lines = some ⟨root, []⟩ ∧ result = .ofStatement root := by
  have run := Reading.Mirrors.start.steps 1 lines
  unfold outline
  generalize Reading.start.steps 1 lines = read at run ⊢
  generalize Nest.start.steps? lines = nested at run ⊢
  match read, nested, run with
  | .error _, none, _ => simp
  | .ok ⟨tree, opened⟩, some ⟨root, blocks⟩, .some ⟨outline_eq, openedAs⟩ =>
      cases openedAs with
      | nil =>
          have tree_eq : tree = .ofStatement root := outline_eq
          simp [Reading.finish, tree_eq, eq_comm]
      | cons kind_eq index_eq outer => simp [Reading.finish]

end Script

end EventWiki
