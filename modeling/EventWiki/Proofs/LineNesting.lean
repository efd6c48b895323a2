import EventWiki.Script.Nesting
import Mathlib

namespace EventWiki.Script

/-! Lines are read trimmed; what is wrong with a line depends on the line and on the braces before
it, and the first fault decides the error. -/

def LineRole.opens : LineRole → Bool
  | .header _ => true
  | _ => false

def LineRole.closes : LineRole → Bool
  | .close => true
  | _ => false

def LineRole.text? : LineRole → Option String
  | .close => none
  | .header text => some text
  | .leaf text => some text

def opening (lines : List String) : Nat :=
  lines.countP fun line => (LineRole.ofLine line).opens

def closing (lines : List String) : Nat :=
  lines.countP fun line => (LineRole.ofLine line).closes

def tokenCount (lines : List String) : Nat :=
  lines.countP fun line => !(LineRole.ofLine line).closes

def tokenNumber (lines : List String) (position : Nat) : Nat :=
  tokenCount (lines.take (position + 1))

def tokenOf? (text : String) : Option Token :=
  Token.ofStatement? (Text.trim text.toList)

def textFault? (number : Nat) (text : String) : Option ScriptError :=
  if Text.trim text.toList = [] then some (.emptyLine number)
  else if tokenOf? text = none then
    some (.malformedStatement number (Text.trimmed text))
  else none

def lineFault? (before : List String) (line : String) : Option ScriptError :=
  match LineRole.ofLine line with
  | .close =>
      if closing before < opening before then none
      else some (.unmatchedClose (before.length + 1))
  | .header text => textFault? (before.length + 1) text
  | .leaf text => textFault? (before.length + 1) text

def faultAt? (lines : List String) (position : Nat) : Option ScriptError :=
  lines[position]?.bind (lineFault? (lines.take position))

def FirstFault (lines : List String) (error : ScriptError) : Prop :=
  ∃ position, faultAt? lines position = some error ∧
    ∀ earlier < position, faultAt? lines earlier = none

/-- The line opens a block, and no part of what follows closes more blocks than it opens. -/
def OpenAt (lines : List String) (position : Nat) : Prop :=
  (∃ line ∈ lines[position]?, (LineRole.ofLine line).opens = true) ∧
    ∀ count, closing ((lines.drop (position + 1)).take count) ≤
      opening ((lines.drop (position + 1)).take count)

def InnermostAt (lines : List String) (position : Nat) : Prop :=
  OpenAt lines position ∧ ∀ later, position < later → ¬OpenAt lines later

/-- No line is at fault, but blocks remain open; the error names the innermost one. -/
def Unclosed (lines : List String) (error : ScriptError) : Prop :=
  (∀ position, faultAt? lines position = none) ∧
    ∃ position line text token,
      InnermostAt lines position ∧ lines[position]? = some line ∧
      LineRole.ofLine line = .header text ∧ tokenOf? text = some token ∧
      error = .unclosedBlock token.kind (position + 1)

structure Balanced (lines : List String) : Prop where
  tokens : ∀ line ∈ lines, ∀ text, (LineRole.ofLine line).text? = some text →
    (tokenOf? text).isSome
  closing_le : ∀ count, closing (lines.take count) ≤ opening (lines.take count)
  closing_eq : closing lines = opening lines

theorem read_ok_iff {number : Nat} {text : String} {token : Token} :
    Token.read number text = .ok token ↔ tokenOf? text = some token := by
  unfold Token.read tokenOf?
  cases trimmed : Text.trim text.toList with
  | nil => simp [Token.ofStatement?, Token.cut?, Token.cutAt?, Token.kind?]
  | cons c cs =>
      cases found : Token.ofStatement? (c :: cs) <;> simp [found]

theorem read_error_iff {number : Nat} {text : String} {error : ScriptError} :
    Token.read number text = .error error ↔ textFault? number text = some error := by
  unfold Token.read textFault? tokenOf? Text.trimmed
  cases trimmed : Text.trim text.toList with
  | nil => simp
  | cons c cs =>
      cases found : Token.ofStatement? (c :: cs) <;> simp [found]

theorem textFault?_eq_none_iff {number : Nat} {text : String} :
    textFault? number text = none ↔ (tokenOf? text).isSome := by
  cases result : Token.read number text with
  | ok token =>
      have token_eq := read_ok_iff.mp result
      simp only [token_eq, Option.isSome_some, iff_true]
      rw [Option.eq_none_iff_forall_not_mem]
      intro error fault
      rw [Option.mem_def, ← read_error_iff, result] at fault
      contradiction
  | error error =>
      rw [read_error_iff.mp result]
      simp only [reduceCtorEq, false_iff, Option.not_isSome_iff_eq_none]
      rw [Option.eq_none_iff_forall_not_mem]
      intro token token_eq
      have read : Token.read number text = .ok token := read_ok_iff.mpr token_eq
      rw [result] at read
      contradiction

theorem textFault?_cases {number : Nat} {text : String} {error : ScriptError}
    (fault : textFault? number text = some error) :
    error = .emptyLine number ∨ error = .malformedStatement number (Text.trimmed text) := by
  unfold textFault? at fault
  split at fault
  · exact .inl (Option.some.inj fault).symm
  · split at fault
    · exact .inr (Option.some.inj fault).symm
    · contradiction

theorem lineFault?_cases {before : List String} {line : String} {error : ScriptError}
    (fault : lineFault? before line = some error) :
    ((LineRole.ofLine line).closes = true ∧ opening before ≤ closing before ∧
        error = .unmatchedClose (before.length + 1)) ∨
      error = .emptyLine (before.length + 1) ∨
        ∃ text, error = .malformedStatement (before.length + 1) text := by
  unfold lineFault? at fault
  split at fault
  · next role =>
      split at fault
      · contradiction
      · next full =>
          rw [role]
          exact .inl ⟨rfl, Nat.le_of_not_lt full, (Option.some.inj fault).symm⟩
  · exact .inr ((textFault?_cases fault).imp_right fun same => ⟨_, same⟩)
  · exact .inr ((textFault?_cases fault).imp_right fun same => ⟨_, same⟩)

@[simp] theorem opening_nil : opening [] = 0 := rfl

@[simp] theorem closing_nil : closing [] = 0 := rfl

theorem opening_append (left right : List String) :
    opening (left ++ right) = opening left + opening right :=
  List.countP_append

theorem closing_append (left right : List String) :
    closing (left ++ right) = closing left + closing right :=
  List.countP_append

theorem tokenCount_append (left right : List String) :
    tokenCount (left ++ right) = tokenCount left + tokenCount right :=
  List.countP_append

theorem opening_singleton (line : String) :
    opening [line] = if (LineRole.ofLine line).opens then 1 else 0 :=
  List.countP_singleton

theorem closing_singleton (line : String) :
    closing [line] = if (LineRole.ofLine line).closes then 1 else 0 :=
  List.countP_singleton

theorem opening_singleton_of_closes {line : String}
    (closes : (LineRole.ofLine line).closes = true) : opening [line] = 0 := by
  cases role : LineRole.ofLine line <;>
    simp [opening_singleton, role, LineRole.opens, LineRole.closes] at closes ⊢

theorem closing_singleton_of_opens {line : String}
    (opens : (LineRole.ofLine line).opens = true) : closing [line] = 0 := by
  cases role : LineRole.ofLine line <;>
    simp [closing_singleton, role, LineRole.opens, LineRole.closes] at opens ⊢

theorem tokenCount_singleton (line : String) :
    tokenCount [line] = if (LineRole.ofLine line).closes then 0 else 1 := by
  cases closes : (LineRole.ofLine line).closes <;> simp [tokenCount, closes]

theorem faultAt?_concat (done rest : List String) (line : String) :
    faultAt? (done ++ line :: rest) done.length = lineFault? done line := by
  simp [faultAt?]

theorem faultAt?_of_le {lines : List String} {position : Nat}
    (beyond : lines.length ≤ position) : faultAt? lines position = none := by
  simp [faultAt?, beyond]

structure OpenLines (done : List String) (positions : List Nat) : Prop where
  mem_iff : ∀ position, position ∈ positions ↔ OpenAt done position
  sorted : positions.Pairwise (· > ·)
  surplus : ∀ index position, positions[index]? = some position →
    opening (done.drop (position + 1)) = closing (done.drop (position + 1)) + index
  total : opening done = closing done + positions.length

theorem OpenAt.lt_length {lines : List String} {position : Nat} (h : OpenAt lines position) :
    position < lines.length := by
  obtain ⟨⟨line, found, _⟩, _⟩ := h
  exact (List.getElem?_eq_some_iff.mp found).1

theorem OpenAt.closing_le {lines : List String} {position : Nat} (h : OpenAt lines position) :
    closing (lines.drop (position + 1)) ≤ opening (lines.drop (position + 1)) := by
  have whole := h.2 (lines.drop (position + 1)).length
  rwa [List.take_length] at whole

theorem openAt_concat_iff {done : List String} {position : Nat} (line : String)
    (earlier : position < done.length) :
    OpenAt (done ++ [line]) position ↔
      OpenAt done position ∧
        closing (done.drop (position + 1)) + closing [line] ≤
          opening (done.drop (position + 1)) + opening [line] := by
  have dropped : (done ++ [line]).drop (position + 1) = done.drop (position + 1) ++ [line] :=
    List.drop_append_of_le_length earlier
  simp only [OpenAt, dropped, List.getElem?_append_left earlier]
  constructor
  · rintro ⟨header, within⟩
    refine ⟨⟨header, fun count => ?_⟩, ?_⟩
    · have bounded := within (min count (done.drop (position + 1)).length)
      rw [List.take_append_of_le_length (Nat.min_le_right _ _)] at bounded
      rwa [← List.take_eq_take_min] at bounded
    · have whole := within (done.drop (position + 1) ++ [line]).length
      rwa [List.take_length, closing_append, opening_append] at whole
  · rintro ⟨⟨header, within⟩, whole⟩
    refine ⟨header, fun count => ?_⟩
    by_cases short : count ≤ (done.drop (position + 1)).length
    · rw [List.take_append_of_le_length short]
      exact within count
    · rw [List.take_of_length_le (by
        rw [List.length_append, List.length_singleton]
        omega), closing_append, opening_append]
      exact whole

theorem openAt_concat_length {done : List String} (line : String) :
    OpenAt (done ++ [line]) done.length ↔ (LineRole.ofLine line).opens = true := by
  simp [OpenAt]

theorem OpenLines.nil : OpenLines [] [] where
  mem_iff := fun position => by simp [OpenAt]
  sorted := .nil
  surplus := by simp
  total := rfl

theorem OpenLines.lt_length {done : List String} {positions : List Nat}
    (open_lines : OpenLines done positions) {position : Nat} (member : position ∈ positions) :
    position < done.length :=
  ((open_lines.mem_iff position).mp member).lt_length

theorem OpenLines.innermost {done : List String} {position : Nat} {positions : List Nat}
    (open_lines : OpenLines done (position :: positions)) : InnermostAt done position := by
  refine ⟨(open_lines.mem_iff position).mp List.mem_cons_self, fun later beyond opened => ?_⟩
  rcases List.mem_cons.mp ((open_lines.mem_iff later).mpr opened) with rfl | member
  · exact Nat.lt_irrefl _ beyond
  · have := (List.pairwise_cons.mp open_lines.sorted).1 later member
    omega

private theorem surplus_concat {done : List String} {position : Nat} (line : String)
    (earlier : position < done.length) {index : Nat}
    (surplus : opening (done.drop (position + 1)) = closing (done.drop (position + 1)) + index) :
    opening ((done ++ [line]).drop (position + 1)) + closing [line] =
      closing ((done ++ [line]).drop (position + 1)) + index + opening [line] := by
  have dropped : (done ++ [line]).drop (position + 1) = done.drop (position + 1) ++ [line] :=
    List.drop_append_of_le_length earlier
  rw [dropped, opening_append, closing_append]
  omega

theorem OpenLines.leaf {done : List String} {positions : List Nat} {line : String}
    (open_lines : OpenLines done positions) (opens : (LineRole.ofLine line).opens = false)
    (closes : (LineRole.ofLine line).closes = false) :
    OpenLines (done ++ [line]) positions := by
  have no_opening : opening [line] = 0 := by simp [opening_singleton, opens]
  have no_closing : closing [line] = 0 := by simp [closing_singleton, closes]
  refine ⟨fun position => ?_, open_lines.sorted, fun index position found => ?_, ?_⟩
  · rw [open_lines.mem_iff]
    constructor
    · intro opened
      rw [openAt_concat_iff line opened.lt_length, no_opening, no_closing]
      have := opened.closing_le
      exact ⟨opened, by omega⟩
    · intro opened
      by_cases earlier : position < done.length
      · exact ((openAt_concat_iff line earlier).mp opened).1
      · have last : position = done.length := by
          have := opened.lt_length
          rw [List.length_append, List.length_singleton] at this
          omega
        subst last
        rw [openAt_concat_length, opens] at opened
        contradiction
  · have earlier := open_lines.lt_length (List.mem_of_getElem? found)
    have := surplus_concat line earlier (open_lines.surplus index position found)
    omega
  · rw [opening_append, closing_append, open_lines.total, no_opening, no_closing]
    omega

theorem OpenLines.header {done : List String} {positions : List Nat} {line : String}
    (open_lines : OpenLines done positions) (opens : (LineRole.ofLine line).opens = true) :
    OpenLines (done ++ [line]) (done.length :: positions) := by
  have one_opening : opening [line] = 1 := by simp [opening_singleton, opens]
  have no_closing : closing [line] = 0 := closing_singleton_of_opens opens
  refine ⟨fun position => ?_, ?_, fun index position found => ?_, ?_⟩
  · rw [List.mem_cons, open_lines.mem_iff]
    constructor
    · rintro (rfl | opened)
      · exact (openAt_concat_length line).mpr opens
      · rw [openAt_concat_iff line opened.lt_length, one_opening, no_closing]
        have := opened.closing_le
        exact ⟨opened, by omega⟩
    · intro opened
      have bound := opened.lt_length
      rw [List.length_append, List.length_singleton] at bound
      by_cases earlier : position < done.length
      · exact .inr ((openAt_concat_iff line earlier).mp opened).1
      · exact .inl (by omega)
  · exact List.pairwise_cons.mpr
      ⟨fun position member => open_lines.lt_length member, open_lines.sorted⟩
  · cases index with
    | zero =>
        obtain rfl : done.length = position := by simpa using found
        simp
    | succ index =>
        rw [List.getElem?_cons_succ] at found
        have earlier := open_lines.lt_length (List.mem_of_getElem? found)
        have := surplus_concat line earlier (open_lines.surplus index position found)
        omega
  · rw [opening_append, closing_append, open_lines.total, one_opening, no_closing,
      List.length_cons]
    omega

theorem OpenLines.close {done : List String} {innermost : Nat} {positions : List Nat}
    {line : String} (open_lines : OpenLines done (innermost :: positions))
    (closes : (LineRole.ofLine line).closes = true) :
    OpenLines (done ++ [line]) positions := by
  have one_closing : closing [line] = 1 := by simp [closing_singleton, closes]
  have no_opening : opening [line] = 0 := opening_singleton_of_closes closes
  have sorted := List.pairwise_cons.mp open_lines.sorted
  refine ⟨fun position => ?_, sorted.2, fun index position found => ?_, ?_⟩
  · constructor
    · intro member
      have opened := (open_lines.mem_iff position).mp (List.mem_cons_of_mem _ member)
      obtain ⟨index, found⟩ := List.getElem?_of_mem member
      have := open_lines.surplus (index + 1) position (by simpa using found)
      rw [openAt_concat_iff line opened.lt_length, one_closing, no_opening]
      exact ⟨opened, by omega⟩
    · intro opened
      have bound := opened.lt_length
      rw [List.length_append, List.length_singleton] at bound
      by_cases earlier : position < done.length
      · obtain ⟨opened, enough⟩ := (openAt_concat_iff line earlier).mp opened
        rcases List.mem_cons.mp ((open_lines.mem_iff position).mpr opened) with rfl | member
        · have := open_lines.surplus 0 position rfl
          omega
        · exact member
      · obtain rfl : position = done.length := by omega
        rw [openAt_concat_length] at opened
        rw [opening_singleton, opened] at no_opening
        contradiction
  · have member := List.mem_cons_of_mem innermost (List.mem_of_getElem? found)
    have := surplus_concat line (open_lines.lt_length member)
      (open_lines.surplus (index + 1) position (by simpa using found))
    omega
  · have := open_lines.total
    rw [List.length_cons] at this
    rw [opening_append, closing_append, one_closing, no_opening]
    omega

end EventWiki.Script
