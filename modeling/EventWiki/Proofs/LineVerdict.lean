import EventWiki.Proofs.LineNesting

namespace EventWiki.Script

structure OpenedBy (done : List String) (position : Nat) (block : OpenBlock) : Prop where
  line_eq : block.line = position + 1
  index_eq : block.index = tokenNumber done position
  header : ∃ line text token, done[position]? = some line ∧
    LineRole.ofLine line = .header text ∧ tokenOf? text = some token ∧ block.kind = token.kind

structure Reading.Tracks (reading : Reading) (done : List String) : Prop where
  size_eq : reading.outline.size = tokenCount done + 1
  blocks : ∃ positions, OpenLines done positions ∧
    List.Forall₂ (OpenedBy done) positions reading.blocks

inductive Reading.StepOk (reading : Reading) (line : String) (number : Nat) : Reading → Prop where
  | close (role : LineRole.ofLine line = .close) {block : OpenBlock} {blocks : List OpenBlock}
      (stack : reading.blocks = block :: blocks) :
      StepOk reading line number { reading with blocks }
  | header {text : String} (role : LineRole.ofLine line = .header text) {token : Token}
      (read : tokenOf? text = some token) :
      StepOk reading line number (reading.addBlock number token)
  | leaf {text : String} (role : LineRole.ofLine line = .leaf text) {token : Token}
      (read : tokenOf? text = some token) :
      StepOk reading line number (reading.addLeaf token)

theorem Reading.step_ok {reading next : Reading} {line : String} {number : Nat}
    (stepped : reading.step line number = .ok next) : reading.StepOk line number next := by
  unfold step at stepped
  cases role : LineRole.ofLine line with
  | close =>
      cases stack : reading.blocks with
      | nil => simp [role, stack] at stepped
      | cons block blocks =>
          simp only [role, stack, Except.ok.injEq] at stepped
          subst stepped
          exact .close role stack
  | header text =>
      cases read : Token.read number text with
      | error error => simp [role, read, Except.map] at stepped
      | ok token =>
          simp only [role, read, Except.map, Except.ok.injEq] at stepped
          subst stepped
          exact .header role (read_ok_iff.mp read)
  | leaf text =>
      cases read : Token.read number text with
      | error error => simp [role, read, Except.map] at stepped
      | ok token =>
          simp only [role, read, Except.map, Except.ok.injEq] at stepped
          subst stepped
          exact .leaf role (read_ok_iff.mp read)

theorem Reading.Tracks.start : Reading.start.Tracks [] where
  size_eq := rfl
  blocks := ⟨[], .nil, .nil⟩

theorem OpenedBy.concat {done : List String} {position : Nat} {block : OpenBlock}
    (opened : OpenedBy done position block) (line : String) :
    OpenedBy (done ++ [line]) position block := by
  obtain ⟨header, text, token, found, role, read, kind_eq⟩ := opened.header
  have earlier : position < done.length := (List.getElem?_eq_some_iff.mp found).1
  refine ⟨opened.line_eq, ?_, header, text, token, ?_, role, read, kind_eq⟩
  · rw [opened.index_eq, tokenNumber, tokenNumber, List.take_append_of_le_length earlier]
  · rw [List.getElem?_append_left earlier, found]

theorem Reading.Tracks.step {reading next : Reading} {done : List String} {line : String}
    (tracks : reading.Tracks done) (stepped : reading.step line (done.length + 1) = .ok next) :
    next.Tracks (done ++ [line]) := by
  obtain ⟨positions, open_lines, blocks⟩ := tracks.blocks
  have kept := blocks.imp fun _ _ opened => opened.concat line
  cases step_ok stepped with
  | close role stack =>
      rw [stack] at kept
      cases kept with
      | cons _ kept =>
          refine ⟨?_, _, open_lines.close (by rw [role]; rfl), kept⟩
          rw [tracks.size_eq, tokenCount_append, tokenCount_singleton, role]
          rfl
  | @header text role token read =>
      refine ⟨?_, _, open_lines.header (by rw [role]; rfl), .cons ⟨rfl, ?_, ?_⟩ kept⟩
      · rw [addBlock, Outline.size_push, tracks.size_eq, tokenCount_append, tokenCount_singleton,
          role]
        rfl
      · rw [tokenNumber, List.take_of_length_le (by simp), tokenCount_append,
          tokenCount_singleton, role, tracks.size_eq]
        rfl
      · exact ⟨line, text, token, by simp, role, read, rfl⟩
  | leaf role read =>
      refine ⟨?_, _, open_lines.leaf (by rw [role]; rfl) (by rw [role]; rfl), kept⟩
      rw [addLeaf, Outline.size_push, tracks.size_eq, tokenCount_append, tokenCount_singleton,
        role]
      rfl

theorem Reading.Tracks.closing_lt_opening_iff {reading : Reading} {done : List String}
    (tracks : reading.Tracks done) : closing done < opening done ↔ reading.blocks ≠ [] := by
  obtain ⟨positions, open_lines, blocks⟩ := tracks.blocks
  rw [open_lines.total, blocks.length_eq, ← List.length_pos_iff]
  omega

theorem Reading.Tracks.no_fault {reading next : Reading} {done : List String} {line : String}
    (tracks : reading.Tracks done) (stepped : reading.step line (done.length + 1) = .ok next) :
    lineFault? done line = none := by
  unfold lineFault?
  cases step_ok stepped with
  | close role stack =>
      have nonempty := tracks.closing_lt_opening_iff.mpr (by simp [stack])
      simp [role, nonempty]
  | header role read =>
      simp only [role]
      exact textFault?_eq_none_iff.mpr (by simp [read])
  | leaf role read =>
      simp only [role]
      exact textFault?_eq_none_iff.mpr (by simp [read])

theorem Reading.Tracks.fault {reading : Reading} {done : List String} {line : String}
    {error : ScriptError} (tracks : reading.Tracks done)
    (stepped : reading.step line (done.length + 1) = .error error) :
    lineFault? done line = some error := by
  unfold Reading.step at stepped
  unfold lineFault?
  cases role : LineRole.ofLine line with
  | close =>
      cases stack : reading.blocks with
      | nil =>
          have balanced : ¬closing done < opening done := by
            simp [tracks.closing_lt_opening_iff, stack]
          simp only [role, stack, Except.error.injEq] at stepped
          simp [balanced, stepped]
      | cons block blocks => simp [role, stack] at stepped
  | header text =>
      cases read : Token.read (done.length + 1) text with
      | ok token => simp [role, read, Except.map] at stepped
      | error other =>
          simp only [role, read, Except.map, Except.error.injEq] at stepped
          simp only [read_error_iff.mp read, stepped]
  | leaf text =>
      cases read : Token.read (done.length + 1) text with
      | ok token => simp [role, read, Except.map] at stepped
      | error other =>
          simp only [role, read, Except.map, Except.error.injEq] at stepped
          simp only [read_error_iff.mp read, stepped]

theorem Reading.steps_ok {reading last : Reading} {done rest : List String}
    (tracks : reading.Tracks done)
    (run : reading.steps (done.length + 1) rest = .ok last) :
    last.Tracks (done ++ rest) ∧
      ∀ position, done.length ≤ position → faultAt? (done ++ rest) position = none := by
  induction rest generalizing reading done with
  | nil =>
      obtain rfl : reading = last := by simpa [steps] using run
      rw [List.append_nil]
      exact ⟨tracks, fun _ => faultAt?_of_le⟩
  | cons line rest ih =>
      cases stepped : reading.step line (done.length + 1) with
      | error error => simp [steps, stepped] at run
      | ok next =>
          simp only [steps, stepped] at run
          have shifted : done ++ line :: rest = (done ++ [line]) ++ rest := List.append_cons ..
          obtain ⟨tracked, faultless⟩ := ih (tracks.step stepped)
            (by simpa using run)
          rw [shifted]
          refine ⟨tracked, fun position beyond => ?_⟩
          by_cases last_line : position = done.length
          · subst last_line
            rw [← shifted, faultAt?_concat]
            exact tracks.no_fault stepped
          · apply faultless
            rw [List.length_append, List.length_singleton]
            omega

theorem Reading.steps_error {reading : Reading} {done rest : List String}
    {error : ScriptError} (tracks : reading.Tracks done)
    (run : reading.steps (done.length + 1) rest = .error error) :
    ∃ position, done.length ≤ position ∧ faultAt? (done ++ rest) position = some error ∧
      ∀ earlier, done.length ≤ earlier → earlier < position →
        faultAt? (done ++ rest) earlier = none := by
  induction rest generalizing reading done with
  | nil => simp [steps] at run
  | cons line rest ih =>
      have shifted : done ++ line :: rest = (done ++ [line]) ++ rest := List.append_cons ..
      cases stepped : reading.step line (done.length + 1) with
      | error other =>
          simp only [steps, stepped, Except.error.injEq] at run
          subst run
          refine ⟨done.length, Nat.le_refl _, ?_, fun _ _ _ => by omega⟩
          rw [faultAt?_concat]
          exact tracks.fault stepped
      | ok next =>
          simp only [steps, stepped] at run
          obtain ⟨position, beyond, fault, faultless⟩ :=
            ih (tracks.step stepped) (by simpa using run)
          rw [List.length_append, List.length_singleton] at beyond faultless
          rw [shifted]
          refine ⟨position, by omega, fault, fun earlier after before => ?_⟩
          by_cases first : earlier = done.length
          · subst first
            rw [← shifted, faultAt?_concat]
            exact tracks.no_fault stepped
          · exact faultless earlier (by omega) before

theorem FirstFault.unique {lines : List String} {error other : ScriptError}
    (first : FirstFault lines error) (second : FirstFault lines other) : error = other := by
  obtain ⟨position, fault, faultless⟩ := first
  obtain ⟨position', fault', faultless'⟩ := second
  rcases Nat.lt_trichotomy position position' with before | rfl | after
  · rw [faultless' position before] at fault
    contradiction
  · exact Option.some.inj (fault.symm.trans fault')
  · rw [faultless position' after] at fault'
    contradiction

theorem InnermostAt.unique {lines : List String} {position other : Nat}
    (first : InnermostAt lines position) (second : InnermostAt lines other) :
    position = other := by
  rcases Nat.lt_trichotomy position other with before | same | after
  · exact absurd second.1 (first.2 other before)
  · exact same
  · exact absurd first.1 (second.2 position after)

theorem Unclosed.unique {lines : List String} {error other : ScriptError}
    (first : Unclosed lines error) (second : Unclosed lines other) : error = other := by
  obtain ⟨_, position, line, text, token, innermost, found, role, read, rfl⟩ := first
  obtain ⟨_, position', line', text', token', innermost', found', role', read', rfl⟩ := second
  obtain rfl := innermost.unique innermost'
  obtain rfl := Option.some.inj (found.symm.trans found')
  obtain rfl : text = text' := by simpa [role] using role'
  obtain rfl := Option.some.inj (read.symm.trans read')
  rfl

theorem lineFault?_eq_none_iff {before : List String} {line : String} :
    lineFault? before line = none ↔
      (∀ text, (LineRole.ofLine line).text? = some text → (tokenOf? text).isSome) ∧
        ((LineRole.ofLine line).closes = true → closing before < opening before) := by
  unfold lineFault?
  cases LineRole.ofLine line <;>
    simp [LineRole.text?, LineRole.closes, textFault?_eq_none_iff]

theorem opening_take_succ {lines : List String} {position : Nat} {line : String}
    (found : lines[position]? = some line) :
    opening (lines.take (position + 1)) = opening (lines.take position) + opening [line] := by
  obtain ⟨bound, rfl⟩ := List.getElem?_eq_some_iff.mp found
  rw [← List.take_concat_get' lines position bound, opening_append]

theorem closing_take_succ {lines : List String} {position : Nat} {line : String}
    (found : lines[position]? = some line) :
    closing (lines.take (position + 1)) = closing (lines.take position) + closing [line] := by
  obtain ⟨bound, rfl⟩ := List.getElem?_eq_some_iff.mp found
  rw [← List.take_concat_get' lines position bound, closing_append]

theorem faultless_iff {lines : List String} :
    (∀ position, faultAt? lines position = none) ↔
      (∀ line ∈ lines, ∀ text, (LineRole.ofLine line).text? = some text →
        (tokenOf? text).isSome) ∧
      ∀ count, closing (lines.take count) ≤ opening (lines.take count) := by
  constructor
  · intro faultless
    have fine : ∀ position line, lines[position]? = some line →
        lineFault? (lines.take position) line = none := by
      intro position line found
      simpa [faultAt?, found] using faultless position
    refine ⟨fun line member => ?_, fun count => ?_⟩
    · obtain ⟨position, found⟩ := List.getElem?_of_mem member
      exact (lineFault?_eq_none_iff.mp (fine position line found)).1
    · induction count with
      | zero => simp
      | succ count ih =>
          cases found : lines[count]? with
          | none =>
              rw [List.getElem?_eq_none_iff] at found
              rwa [List.take_of_length_le (by omega),
                ← List.take_of_length_le found]
          | some line =>
              have orderly := (lineFault?_eq_none_iff.mp (fine count line found)).2
              rw [opening_take_succ found, closing_take_succ found, closing_singleton]
              split
              · next closes =>
                  have := orderly closes
                  omega
              · omega
  · rintro ⟨tokens, ordered⟩ position
    cases found : lines[position]? with
    | none => simp [faultAt?, found]
    | some line =>
        simp only [faultAt?, found, Option.bind_some]
        refine lineFault?_eq_none_iff.mpr ⟨tokens line (List.mem_of_getElem? found), ?_⟩
        intro closes
        have after := ordered (position + 1)
        rw [opening_take_succ found, closing_take_succ found, opening_singleton_of_closes closes,
          closing_singleton, if_pos closes] at after
        omega

theorem outline_cases (lines : List String) :
    (∃ error, outline lines = .error error ∧ FirstFault lines error) ∨
      ∃ reading : Reading, outline lines = reading.finish ∧ reading.Tracks lines ∧
        ∀ position, faultAt? lines position = none := by
  unfold outline
  cases run : Reading.start.steps 1 lines with
  | error error =>
      obtain ⟨position, _, fault, faultless⟩ := Reading.steps_error .start run
      exact .inl ⟨error, rfl, position, fault, fun earlier before =>
        faultless earlier (Nat.zero_le _) before⟩
  | ok reading =>
      obtain ⟨tracks, faultless⟩ := Reading.steps_ok .start run
      exact .inr ⟨reading, rfl, tracks, fun position => faultless position (Nat.zero_le _)⟩

theorem Reading.Tracks.unclosed {reading : Reading} {lines : List String}
    (tracks : reading.Tracks lines) (faultless : ∀ position, faultAt? lines position = none)
    {block : OpenBlock} {blocks : List OpenBlock} (stack : reading.blocks = block :: blocks) :
    Unclosed lines (.unclosedBlock block.kind block.line) := by
  obtain ⟨positions, open_lines, opened⟩ := tracks.blocks
  rw [stack] at opened
  cases opened with
  | @cons position _ positions _ opened _ =>
      obtain ⟨line, text, token, found, role, read, kind_eq⟩ := opened.header
      exact ⟨faultless, position, line, text, token, open_lines.innermost, found, role, read,
        by rw [kind_eq, opened.line_eq]⟩

theorem Unclosed.blocks_ne_nil {lines : List String} {error : ScriptError}
    (unclosed : Unclosed lines error) {reading : Reading} (tracks : reading.Tracks lines) :
    reading.blocks ≠ [] := by
  obtain ⟨_, position, _, _, _, innermost, _⟩ := unclosed
  obtain ⟨positions, open_lines, opened⟩ := tracks.blocks
  intro stack
  rw [stack] at opened
  cases opened
  simpa using (open_lines.mem_iff position).mpr innermost.1

theorem FirstFault.faulty {lines : List String} {error : ScriptError}
    (first : FirstFault lines error) : ¬∀ position, faultAt? lines position = none := by
  obtain ⟨position, fault, _⟩ := first
  intro faultless
  rw [faultless position] at fault
  contradiction

theorem outline_of_faultless {lines : List String}
    (faultless : ∀ position, faultAt? lines position = none) :
    ∃ reading : Reading, outline lines = reading.finish ∧ reading.Tracks lines := by
  rcases outline_cases lines with ⟨error, _, first⟩ | ⟨reading, finished, tracks, _⟩
  · exact absurd faultless first.faulty
  · exact ⟨reading, finished, tracks⟩

theorem outline_of_firstFault {lines : List String} {error : ScriptError}
    (first : FirstFault lines error) : outline lines = .error error := by
  rcases outline_cases lines with ⟨other, refused, second⟩ | ⟨_, _, _, faultless⟩
  · rw [refused, first.unique second]
  · exact absurd faultless first.faulty

theorem outline_of_unclosed {lines : List String} {error : ScriptError}
    (unclosed : Unclosed lines error) : outline lines = .error error := by
  obtain ⟨reading, finished, tracks⟩ := outline_of_faultless unclosed.1
  cases stack : reading.blocks with
  | nil => exact absurd stack (unclosed.blocks_ne_nil tracks)
  | cons block blocks =>
      have same := (tracks.unclosed unclosed.1 stack).unique unclosed
      rw [finished, Reading.finish, stack, ← same]

theorem outline_of_balanced {lines : List String} (balanced : Balanced lines) :
    ∃ result, outline lines = .ok result := by
  have faultless := faultless_iff.mpr ⟨balanced.tokens, balanced.closing_le⟩
  obtain ⟨reading, finished, tracks⟩ := outline_of_faultless faultless
  have closed : reading.blocks = [] := by
    by_contra remaining
    have uneven := tracks.closing_lt_opening_iff.mpr remaining
    have even := balanced.closing_eq
    omega
  exact ⟨reading.outline, by rw [finished, Reading.finish, closed]⟩

theorem balanced_or_faulty (lines : List String) :
    Balanced lines ∨ ∃ error, FirstFault lines error ∨ Unclosed lines error := by
  rcases outline_cases lines with ⟨error, _, first⟩ | ⟨reading, _, tracks, faultless⟩
  · exact .inr ⟨error, .inl first⟩
  · cases stack : reading.blocks with
    | nil =>
        obtain ⟨tokens, closing_le⟩ := faultless_iff.mp faultless
        have even : ¬closing lines < opening lines := by
          simp [tracks.closing_lt_opening_iff, stack]
        have ordered := closing_le lines.length
        rw [List.take_length] at ordered
        exact .inl ⟨tokens, closing_le, by omega⟩
    | cons block blocks =>
        exact .inr ⟨_, .inr (tracks.unclosed faultless stack)⟩

/-- Lines are accepted exactly if they are balanced; all other lines are refused with the error of
the first line at fault, or of the innermost block that is left open. -/
theorem outline_verdict (lines : List String) :
    ((∃ result, outline lines = .ok result) ↔ Balanced lines) ∧
      ∀ error, outline lines = .error error ↔
        FirstFault lines error ∨ Unclosed lines error := by
  refine ⟨⟨?_, outline_of_balanced⟩, fun error => ⟨?_, ?_⟩⟩
  · rintro ⟨result, accepted⟩
    rcases balanced_or_faulty lines with balanced | ⟨error, first | unclosed⟩
    · exact balanced
    · rw [outline_of_firstFault first] at accepted
      contradiction
    · rw [outline_of_unclosed unclosed] at accepted
      contradiction
  · intro refused
    rcases balanced_or_faulty lines with balanced | ⟨other, first | unclosed⟩
    · obtain ⟨result, accepted⟩ := outline_of_balanced balanced
      rw [accepted] at refused
      contradiction
    · rw [outline_of_firstFault first, Except.error.injEq] at refused
      exact .inl (refused ▸ first)
    · rw [outline_of_unclosed unclosed, Except.error.injEq] at refused
      exact .inr (refused ▸ unclosed)
  · rintro (first | unclosed)
    · exact outline_of_firstFault first
    · exact outline_of_unclosed unclosed

end EventWiki.Script
