import EventWiki.Proofs.BlockReplacement
import EventWiki.Proofs.LineTree
import EventWiki.Proofs.NestedReading
import EventWiki.Proofs.StatementGaps

namespace EventWiki

namespace Script

namespace Nest

def behind (nest : Nest) (earlier : List Statement) : Nest :=
  { nest with root := .mk nest.root.token (earlier ++ nest.root.children) }

theorem behind_add (nest : Nest) (earlier : List Statement) (statement : Statement) :
    (nest.behind earlier).add statement = (nest.add statement).behind earlier := by
  obtain ⟨root, blocks⟩ := nest
  cases blocks with
  | nil => simp [behind, add, Statement.add]
  | cons block blocks => rfl

theorem behind_close? (nest : Nest) (earlier : List Statement) :
    (nest.behind earlier).close? = nest.close?.map (·.behind earlier) := by
  obtain ⟨root, blocks⟩ := nest
  cases blocks with
  | nil => rfl
  | cons block blocks => exact congrArg some (behind_add ⟨root, blocks⟩ earlier block)

theorem behind_step? (nest : Nest) (earlier : List Statement) (line : String) :
    (nest.behind earlier).step? line = (nest.step? line).map (·.behind earlier) := by
  unfold step?
  cases LineRole.ofLine line with
  | close => exact nest.behind_close? earlier
  | header text =>
      simp only [Option.map_map]
      rfl
  | leaf text =>
      simp only [Option.map_map]
      congr 1
      funext token
      exact nest.behind_add earlier (.mk token [])

theorem behind_steps? (nest : Nest) (earlier : List Statement) (lines : List String) :
    (nest.behind earlier).steps? lines = (nest.steps? lines).map (·.behind earlier) := by
  induction lines generalizing nest with
  | nil => rfl
  | cons line rest ih =>
      rw [steps?, steps?, behind_step?]
      cases nest.step? line with
      | none => rfl
      | some next => exact ih next

theorem start_behind (earlier : List Statement) :
    start.behind earlier = ⟨.mk (.bare rootKind) earlier, []⟩ := by
  simp [start, behind]

end Nest

theorem exists_statements_of_ok {lines : List String} {result : Outline}
    (accepted : outline lines = .ok result) : ∃ statements,
      Nest.start.steps? lines = some ⟨.mk (.bare rootKind) statements, []⟩ ∧
        result = .ofStatement (.mk (.bare rootKind) statements) := by
  obtain ⟨⟨token, statements⟩, read, rfl⟩ := outline_ok_iff.mp accepted
  obtain ⟨reading, nests, outline_eq⟩ := outline_nests accepted
  -- No line changes the token that the reading has started with.
  have token_eq : token = .bare rootKind := by
    rw [← nests.root_eq, outline_eq, Outline.ofStatement, Outline.root_enterAll]
    rfl
  subst token_eq
  exact ⟨statements, read, rfl⟩

theorem steps?_joined {left right : List String} {earlier later : List Statement}
    (left_read : Nest.start.steps? left = some ⟨.mk (.bare rootKind) earlier, []⟩)
    (right_read : Nest.start.steps? right = some ⟨.mk (.bare rootKind) later, []⟩) :
    Nest.start.steps? (left ++ right) = some ⟨.mk (.bare rootKind) (earlier ++ later), []⟩ := by
  rw [Nest.steps?_append, left_read, ← Nest.start_behind, Option.bind_some, Nest.behind_steps?,
    right_read]
  rfl

theorem head?_sourceStatements_of_ok {source : String} {result : Outline}
    (accepted : parse source = .ok result) :
    (sourceStatements source.toList).head? ≠ some ['{'] := by
  obtain ⟨root, read, _⟩ := outline_ok_iff.mp accepted
  exact Nest.head?_of_steps? read

/-- A break before text that does not begin with a lone brace is a break between statement lines. -/
theorem normalize_joined (first : String) {second lineBreak : String}
    (is_break : lineBreak = "\n" ∨ lineBreak = "\r\n")
    (apart : (sourceStatements second.toList).head? ≠ some ['{']) :
    normalize (first ++ lineBreak ++ second) = normalize first ++ normalize second := by
  have statements_eq : sourceStatements (first ++ lineBreak ++ second).toList =
      sourceStatements first.toList ++ sourceStatements second.toList := by
    rcases is_break with rfl | rfl
    · simpa using sourceStatements_append_break first.toList second.toList
    · -- A carriage return is a blank at the end of the last line of the first text.
      have returned := sourceStatements_append_break (first.toList ++ ['\r']) second.toList
      rw [sourceStatements_append_of_blank (List.forall_mem_singleton.mpr (by decide))
        (by decide)] at returned
      simpa using returned
  rw [normalize, normalize, normalize, ← sourceStatements, ← sourceStatements,
    ← sourceStatements, statements_eq, joinBraces_append apart, List.map_append]

end Script

namespace Rulebook

theorem union_recordAll (findings : Findings) (left right : List String) :
    (findings.recordAll left).union (findings.recordAll right) =
      findings.recordAll (left ++ right) := by
  apply Findings.ext
  intro kind
  simp only [Findings.mem_union, Findings.mem_recordAll, List.mem_append]
  tauto

theorem passage_joined (book : Rulebook) (root : Token) (left right : List Statement) :
    book.passage (.mk root (left ++ right)) =
      book.passage (.mk root left) ++ book.passage (.mk root right) :=
  visitAll_append ..

end Rulebook

namespace Script

/-- A script behind another one has the document of both, one behind the other, and the findings of
both. -/
theorem render_joined {first second lineBreak : String}
    (is_break : lineBreak = "\n" ∨ lineBreak = "\r\n") {left right : Outline}
    (left_read : parse first = .ok left) (right_read : parse second = .ok right) :
    ∃ whole, parse (first ++ lineBreak ++ second) = .ok whole ∧
      ∀ (book : Rulebook) (findings : Findings),
        (book.render whole findings).1 =
            (book.render left findings).1 ++ (book.render right findings).1 ∧
          (book.render whole findings).2 =
            (book.render left findings).2.union (book.render right findings).2 := by
  obtain ⟨earlier, left_steps, rfl⟩ := exists_statements_of_ok left_read
  obtain ⟨later, right_steps, rfl⟩ := exists_statements_of_ok right_read
  have lines_eq := normalize_joined first is_break (head?_sourceStatements_of_ok right_read)
  refine ⟨.ofStatement (.mk (.bare rootKind) (earlier ++ later)), ?_, fun book findings => ?_⟩
  · rw [parse, lines_eq]
    exact outline_ok_iff.mpr ⟨_, steps?_joined left_steps right_steps, rfl⟩
  · simp only [Rulebook.render, Outline.toStatement_ofStatement, Rulebook.passage_joined,
      Rulebook.Passage.lines_append, Rulebook.Passage.missing_append, Rulebook.union_recordAll]
    exact ⟨rfl, trivial⟩

def triggerSource : String :=
  "trigger = \x7b\r\n\tis_year = 1500\r\n\x7d # \x7b"

def optionSource : String :=
  "option\r\n\x7b owner = ROOT \x7d"

theorem render_joined_events :
    ∃ left right whole : Outline,
      parse triggerSource = .ok left ∧
      parse optionSource = .ok right ∧
      parse (triggerSource ++ "\r\n" ++ optionSource) = .ok whole ∧
      (Rulebook.empty.render whole .empty).1 = (Rulebook.empty.render left .empty).1 ++
        (Rulebook.empty.render right .empty).1 ∧
      (Rulebook.empty.render whole .empty).2 = (Rulebook.empty.render left .empty).2.union
        (Rulebook.empty.render right .empty).2 := by
  have left_read : parse triggerSource = .ok
      ⟨.bare rootKind, #[⟨0, .make "trigger" (some .equal) none⟩,
        ⟨1, .make "is_year" (some .equal) (some "1500")⟩]⟩ := by
    decide +kernel
  have right_read : parse optionSource = .ok
      ⟨.bare rootKind, #[⟨0, .make "option" none none⟩,
        ⟨1, .make "owner" (some .equal) (some "ROOT")⟩]⟩ := by
    decide +kernel
  obtain ⟨whole, read, rendered⟩ := render_joined (.inr rfl) left_read right_read
  exact ⟨_, _, whole, left_read, right_read, read, rendered .empty .empty⟩

end Script

end EventWiki
