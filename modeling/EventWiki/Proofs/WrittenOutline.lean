import EventWiki.Proofs.LineTree
import EventWiki.Proofs.NestedEntries
import EventWiki.Proofs.WrittenLines

namespace EventWiki.Script

namespace Reading

def enter (reading : Reading) (entries : List Outline.Entry) : Reading :=
  { reading with outline := reading.outline.enterAll entries }

@[simp] theorem blocks_enter (reading : Reading) (entries : List Outline.Entry) :
    (reading.enter entries).blocks = reading.blocks := rfl

@[simp] theorem parent_enter (reading : Reading) (entries : List Outline.Entry) :
    (reading.enter entries).parent = reading.parent := rfl

@[simp] theorem size_outline_enter (reading : Reading) (entries : List Outline.Entry) :
    (reading.enter entries).outline.size = reading.outline.size + entries.length :=
  Outline.size_enterAll reading.outline entries

theorem enter_append (reading : Reading) (left right : List Outline.Entry) :
    reading.enter (left ++ right) = (reading.enter left).enter right := by
  simp only [enter, Outline.enterAll_append]

theorem parent_addBlock (reading : Reading) (line : Nat) (token : Token) :
    (reading.addBlock line token).parent = reading.outline.size := rfl

theorem size_outline_addBlock (reading : Reading) (line : Nat) (token : Token) :
    (reading.addBlock line token).outline.size = reading.outline.size + 1 :=
  Outline.size_push reading.outline reading.parent token

theorem step_leaf (reading : Reading) (leaf : WrittenLeaf) (number : Nat) :
    reading.step (String.ofList leaf.line) number = .ok (reading.addLeaf leaf.token) := by
  rw [step, ofLine_leaf]
  simp only [read_ok_iff.mpr (tokenOf?_leaf leaf)]
  rfl

theorem step_header (reading : Reading) (key : Key) (number : Nat) :
    reading.step (String.ofList key.headerLine) number =
      .ok (reading.addBlock number key.headerToken) := by
  rw [step, ofLine_header]
  simp only [read_ok_iff.mpr (tokenOf?_header key)]
  rfl

theorem step_closing {reading : Reading} {block : OpenBlock} {blocks : List OpenBlock}
    (stack : reading.blocks = block :: blocks) (number : Nat) :
    reading.step (String.ofList ['}']) number = .ok { reading with blocks } := by
  rw [step, ofLine_closing]
  simp only [stack]

theorem steps_cons_of_ok {reading next : Reading} {line : String} {number : Nat}
    (stepped : reading.step line number = .ok next) (rest : List String) :
    reading.steps number (line :: rest) = next.steps (number + 1) rest := by
  rw [steps, stepped]

mutual

theorem steps_statement (statement : Written) (reading : Reading) (number : Nat)
    (rest : List String) :
    reading.steps number (statement.lines.map String.ofList ++ rest) =
      (reading.enter
        (statement.statement.entries reading.parent reading.outline.size)).steps
          (number + statement.lines.length) rest := by
  cases statement with
  | leaf leaf =>
      simp only [Written.lines, List.map_cons, List.map_nil, List.singleton_append]
      rw [steps_cons_of_ok (reading.step_leaf leaf number)]
      rfl
  | block key body =>
      simp only [Written.lines, List.map_cons, List.map_append, List.map_nil, List.cons_append,
        List.append_assoc, List.nil_append]
      rw [steps_cons_of_ok (reading.step_header key number),
        steps_forest body (reading.addBlock number key.headerToken), parent_addBlock,
        size_outline_addBlock]
      -- the body leaves its own block open for the closing brace behind it
      have stack : (reading.addBlock number key.headerToken).blocks =
          ⟨reading.outline.size, key.headerToken.kind, number⟩ :: reading.blocks := rfl
      have counted : number + 1 + (linesOf body).length + 1 =
          number + (key.headerLine :: (linesOf body ++ [['}']])).length := by
        simp only [List.length_cons, List.length_append, List.length_nil]
        omega
      rw [← blocks_enter] at stack
      rw [steps_cons_of_ok (step_closing stack _), counted]
      rfl

theorem steps_forest (forest : List Written) (reading : Reading) (number : Nat)
    (rest : List String) :
    reading.steps number ((linesOf forest).map String.ofList ++ rest) =
      (reading.enter (Statement.entriesAll reading.parent reading.outline.size
        (statementsFor forest))).steps (number + (linesOf forest).length) rest := by
  cases forest with
  | nil => rfl
  | cons statement forest =>
      rw [linesOf, List.map_append, List.append_assoc, steps_statement statement,
        steps_forest forest, parent_enter, size_outline_enter, ← enter_append, List.length_append,
        Nat.add_assoc]
      rfl

end

end Reading

/-- A script that is written on one line from nested statements is read as these statements. -/
theorem parse_written (forest : List Written) :
    ∃ (result : Outline) (wellFormed : result.WellFormed),
      parse (written forest) = .ok result ∧
        wellFormed.statementAt 0 = .mk (.bare rootKind) (statementsFor forest) := by
  have run := Reading.start.steps_forest forest 1 []
  have accepted : parse (written forest) =
      .ok ((Outline.new (.bare rootKind)).enterAll
        (Statement.entriesAll 0 1 (statementsFor forest))) := by
    rw [parse, normalize_written, outline, ← List.append_nil ((linesOf forest).map _), run]
    rfl
  obtain ⟨reading, nests, outline_eq⟩ := outline_nests accepted
  have wellFormed := nests.built.wellFormed
  rw [outline_eq] at wellFormed
  refine ⟨_, wellFormed, accepted, ?_⟩
  rw [← Outline.toStatement_eq_statementAt wellFormed]
  exact Outline.toStatement_enterAll (.bare rootKind) (statementsFor forest)

example :
    let key : Key := ⟨['t', 'a', 'g'], by decide, List.all_eq_true.mp (by decide +kernel)⟩
    let value : WrittenValue :=
      .quoted ['R', 'O', 'M', ' ', '=', '#'] (by decide) (by decide) (by decide) (by decide)
    written [.block key [.leaf ⟨key, .atMost, value, trivial⟩, .block key []]] =
      "tag = \x7b tag <= \"ROM =#\" tag = \x7b \x7d \x7d" := by
  decide +kernel

end EventWiki.Script
