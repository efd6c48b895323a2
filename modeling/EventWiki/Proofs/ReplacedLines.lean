import EventWiki.Proofs.BlockReplacement
import EventWiki.Proofs.NestedReading

namespace EventWiki

variable {replace : Token → List Statement → List Statement → Prop}

namespace Statement

theorem Replaced.add {statement other : Statement} (replaced : Replaced replace statement other)
    (last : Statement) : Replaced replace (statement.add last) (other.add last) := by
  cases replaced with
  | here front behind replaced =>
      simp only [Statement.add, token_mk, children_mk, List.append_assoc (_ ++ _)]
      exact .here front (behind ++ [last]) replaced
  | inside token front behind replaced =>
      simp only [Statement.add, token_mk, children_mk, List.append_assoc, List.cons_append]
      exact .inside token front (behind ++ [last]) replaced

theorem Replaced.add_replaced {statement other : Statement}
    (replaced : Replaced replace statement other) (block : Statement) :
    Replaced replace (block.add statement) (block.add other) :=
  .inside block.token block.children [] replaced

theorem Replaced.of_last {block statement other : Statement}
    (replaced : replace block.token [statement] [other]) :
    Replaced replace (block.add statement) (block.add other) := by
  simpa [Statement.add] using Replaced.here block.children [] replaced

end Statement

namespace Script.Nest

/-- The same reading but for a part of one block, which may be open or complete. -/
inductive Replaced (replace : Token → List Statement → List Statement → Prop) :
    Nest → Nest → Prop where
  | root {root other : Statement} (blocks : List Statement)
      (replaced : Statement.Replaced replace root other) :
      Replaced replace ⟨root, blocks⟩ ⟨other, blocks⟩
  | block (root : Statement) (inner outer : List Statement) {block other : Statement}
      (replaced : Statement.Replaced replace block other) :
      Replaced replace ⟨root, inner ++ block :: outer⟩ ⟨root, inner ++ other :: outer⟩

variable {nest next other : Nest}

theorem Replaced.of_innermost {statement last : Statement}
    (replaced : Statement.Replaced replace (nest.innermost.add statement)
      (nest.innermost.add last)) : (nest.add statement).Replaced replace (nest.add last) := by
  obtain ⟨root, blocks⟩ := nest
  cases blocks with
  | nil => exact .root [] replaced
  | cons block blocks => exact .block root [] blocks replaced

namespace Replaced

theorem add (replaced : nest.Replaced replace other) (statement : Statement) :
    (nest.add statement).Replaced replace (other.add statement) := by
  cases replaced with
  | root blocks replaced =>
      cases blocks with
      | nil => exact .root [] (replaced.add statement)
      | cons block blocks => exact .root (block.add statement :: blocks) replaced
  | block root inner outer replaced =>
      cases inner with
      | nil => exact .block root [] outer (replaced.add statement)
      | cons block inner => exact .block root (block.add statement :: inner) outer replaced

theorem openBlock (replaced : nest.Replaced replace other) (token : Token) :
    (nest.openBlock token).Replaced replace (other.openBlock token) := by
  cases replaced with
  | root blocks replaced => exact .root (.mk token [] :: blocks) replaced
  | block root inner outer replaced => exact .block root (.mk token [] :: inner) outer replaced

theorem close? (replaced : nest.Replaced replace other) :
    Option.Rel (Replaced replace) nest.close? other.close? := by
  cases replaced with
  | root blocks replaced =>
      cases blocks with
      | nil => exact .none
      | cons block blocks => exact .some ((Replaced.root blocks replaced).add block)
  | block root inner outer replaced =>
      cases inner with
      -- The block that has changed is complete, and so the change is now in the one around it.
      | nil => exact .some (.of_innermost (replaced.add_replaced _))
      | cons block inner => exact .some ((Replaced.block root inner outer replaced).add block)

theorem of_read {enter change : Token → Nest}
    (replaced : ∀ token, (enter token).Replaced replace (change token)) (read : Option Token) :
    Option.Rel (Replaced replace) (read.map enter) (read.map change) := by
  cases read with
  | none => exact .none
  | some token => exact .some (replaced token)

theorem step? (replaced : nest.Replaced replace other) (line : String) :
    Option.Rel (Replaced replace) (nest.step? line) (other.step? line) := by
  unfold Nest.step?
  cases LineRole.ofLine line with
  | close => exact replaced.close?
  | header text => exact of_read replaced.openBlock (tokenOf? text)
  | leaf text => exact of_read (fun token => replaced.add (.mk token [])) (tokenOf? text)

theorem steps? (replaced : nest.Replaced replace other) (lines : List String) :
    Option.Rel (Replaced replace) (nest.steps? lines) (other.steps? lines) := by
  induction lines generalizing nest other with
  | nil => exact .some replaced
  | cons line rest ih =>
      have first := replaced.step? line
      rw [Nest.steps?, Nest.steps?]
      generalize nest.step? line = read at first ⊢
      generalize other.step? line = read_other at first ⊢
      cases first with
      | none => exact .none
      | some stepped => exact ih stepped

theorem of_closed {root : Statement} {last : Nest}
    (replaced : Replaced replace ⟨root, []⟩ last) :
    ∃ other, last = ⟨other, []⟩ ∧ Statement.Replaced replace root other := by
  generalize closed : Nest.mk root [] = nest at replaced
  cases replaced with
  | root blocks replaced =>
      cases closed
      exact ⟨_, rfl, replaced⟩
  | block root inner outer replaced => simp at closed

end Replaced

end Script.Nest

namespace Script

/-- The innermost block that is open behind a text is of a kind. -/
def OpenBehind (before kind : String) : Prop :=
  ∃ position line text token, InnermostAt (normalize before) position ∧
    (normalize before)[position]? = some line ∧ LineRole.ofLine line = .header text ∧
    tokenOf? text = some token ∧ token.kind = kind

theorem kind_of_openBehind {before kind : String} {nest : Nest}
    (read : Nest.start.steps? (normalize before) = some nest)
    (inside : OpenBehind before kind) : nest.innermost.kind = kind := by
  obtain ⟨position, line, text, token, innermost, found, role, token_eq, rfl⟩ := inside
  have run := Reading.Mirrors.start.steps 1 (normalize before)
  rw [read] at run
  cases reading_eq : Reading.start.steps 1 (normalize before) with
  | error error =>
      rw [reading_eq] at run
      cases run
  | ok reading =>
      rw [reading_eq] at run
      cases run with
      | some mirrors =>
          obtain ⟨tracks, faultless⟩ := Reading.steps_ok Reading.Tracks.start reading_eq
          have fine := fun position => faultless position (Nat.zero_le position)
          -- Both this block and the one on top of the stack are the last that is not closed.
          have unclosed : Unclosed (normalize before) (.unclosedBlock token.kind (position + 1)) :=
            ⟨fine, position, line, text, token, innermost, found, role, token_eq, rfl⟩
          obtain ⟨block, blocks, stack⟩ :=
            List.exists_cons_of_ne_nil (unclosed.blocks_ne_nil tracks)
          have same := unclosed.unique (tracks.unclosed fine stack)
          injection same with kind_eq
          rw [mirrors.kind_innermost stack, kind_eq]

theorem openBehind_of_error {before kind : String} {number : Nat}
    (refused : parse before = .error (.unclosedBlock kind number)) : OpenBehind before kind := by
  rcases outline_cases (normalize before) with
    ⟨error, stopped, position, fault, _⟩ | ⟨reading, finished, tracks, faultless⟩
  · rw [← parse, refused, Except.error.injEq] at stopped
    subst stopped
    obtain ⟨line, _, fault⟩ := Option.bind_eq_some_iff.mp fault
    rcases lineFault?_cases fault with ⟨_, _, other⟩ | other | ⟨_, other⟩ <;> cases other
  · rw [← parse, refused, Reading.finish] at finished
    cases stack : reading.blocks with
    | nil =>
        rw [stack] at finished
        contradiction
    | cons block blocks =>
        rw [stack] at finished
        obtain ⟨_, position, line, text, token, innermost, found, role, read, error_eq⟩ :=
          tracks.unclosed faultless stack
        simp only [Except.error.injEq, ScriptError.unclosedBlock.injEq] at finished error_eq
        exact ⟨position, line, text, token, innermost, found, role, read,
          error_eq.1.symm.trans finished.1.symm⟩

theorem outline_replaced {before middle changed after : List String} {nest : Nest}
    {statement other : Statement} {result : Outline}
    (before_read : Nest.start.steps? before = some nest)
    (middle_read : nest.steps? middle = some (nest.add statement))
    (changed_read : nest.steps? changed = some (nest.add other))
    (replaced : replace nest.innermost.token [statement] [other])
    (accepted : outline (before ++ middle ++ after) = .ok result) :
    ∃ changed_result, outline (before ++ changed ++ after) = .ok changed_result ∧
      Statement.Replaced replace result.toStatement changed_result.toStatement := by
  obtain ⟨root, read, rfl⟩ := outline_ok_iff.mp accepted
  rw [Nest.steps?_append, Nest.steps?_append, before_read, Option.bind_some, middle_read,
    Option.bind_some] at read
  have run := (Nest.Replaced.of_innermost (.of_last replaced)).steps? after
  rw [read] at run
  generalize changed_run : (nest.add other).steps? after = last at run
  match last, run with
  | some last, .some related =>
      obtain ⟨changed_root, rfl, related⟩ := related.of_closed
      refine ⟨.ofStatement changed_root, outline_ok_iff.mpr ⟨changed_root, ?_, rfl⟩, ?_⟩
      · rw [Nest.steps?_append, Nest.steps?_append, before_read, Option.bind_some, changed_read,
          Option.bind_some, changed_run]
      · rwa [Outline.toStatement_ofStatement, Outline.toStatement_ofStatement]

end Script

end EventWiki
