import EventWiki.Proofs.TemplateText

namespace EventWiki.Template

/-! A text is taken apart into units from its beginning, and the first place where that fails is
the fault. -/

inductive Mark where
  | percent
  | next
  | numbered (digits : List Char) (filled : digits ≠ [])
      (are_digits : ∀ c ∈ digits, c.isDigit = true)
  | operator
  | plain (c : Char) (other : c ≠ '%')

namespace Mark

def chars : Mark → List Char
  | percent => percentMarker.toList
  | next => ['%', 's']
  | numbered digits _ _ => '%' :: (digits ++ ['$', 's'])
  | operator => operatorMarker.toList
  | plain c _ => [c]

/-- The numbers of slots begin with one and have 64 bits. -/
def InRange : Mark → Prop
  | numbered digits _ _ => 1 ≤ Decimal.ofDigits digits ∧ Decimal.ofDigits digits ≤ 2 ^ 64 - 1
  | percent | next | operator | plain _ _ => True

end Mark

def marked (marks : List Mark) : List Char :=
  marks.flatMap Mark.chars

/-- The first fault of a text, with the column where it is reported: that of a percent sign which
begins no unit, or the one behind a slot whose number is not in range. -/
inductive FirstFault (cs : List Char) : Nat → String → Prop where
  | stray (before : List Mark) (rest : List Char) (in_range : ∀ mark ∈ before, mark.InRange)
      (text_eq : cs = marked before ++ '%' :: rest)
      (no_unit : ∀ mark : Mark, ¬mark.chars <+: '%' :: rest) :
      FirstFault cs (Text.byteSize (marked before) + 1) "unexpected character: '%'"
  | slotNumber (before : List Mark) (slot : Mark) (rest : List Char)
      (in_range : ∀ mark ∈ before, mark.InRange) (out_of_range : ¬slot.InRange)
      (text_eq : cs = marked before ++ (slot.chars ++ rest)) :
      FirstFault cs (Text.byteSize (marked before ++ slot.chars) + 1)
        ("parse error: " ++ Fault.noContext)

@[simp] theorem marked_nil : marked [] = [] := rfl

@[simp] theorem marked_cons (mark : Mark) (marks : List Mark) :
    marked (mark :: marks) = mark.chars ++ marked marks := rfl

def fault? (cs : List Char) : Option Fault :=
  match segments? cs with
  | .ok _ => none
  | .error fault => some fault

theorem fault?_eq_none_iff {cs : List Char} :
    fault? cs = none ↔ ∃ segments, segments? cs = .ok segments := by
  rw [fault?]
  cases segments? cs <;> simp

theorem fault?_eq_some_iff {cs : List Char} {fault : Fault} :
    fault? cs = some fault ↔ segments? cs = .error fault := by
  rw [fault?]
  cases segments? cs <;> simp

theorem fault?_of_map {cs rest : List Char} {change : List Segment → List Segment}
    (read : segments? cs = (segments? rest).map change) : fault? cs = fault? rest := by
  rw [fault?, fault?, read]
  cases segments? rest <;> rfl

theorem fault?_cons_of_unmarked {c : Char} (other : c ≠ '%') {rest : List Char}
    (unmarked : operatorMarker.toList.isPrefixOf? (c :: rest) = none) :
    fault? (c :: rest) = fault? rest :=
  fault?_of_map (segments?_char other unmarked)

theorem fault?_append_of_plain {front : List Char} (plain : ∀ c ∈ front, c ≠ '%' ∧ c ≠ '[')
    (rest : List Char) : fault? (front ++ rest) = fault? rest := by
  induction front with
  | nil => rfl
  | cons c front ih =>
      obtain ⟨⟨other, no_bracket⟩, plain⟩ := List.forall_mem_cons.mp plain
      have unmarked : operatorMarker.toList.isPrefixOf? (c :: (front ++ rest)) = none := by
        simp [operatorMarker, Text.isPrefixOf?_cons_cons, no_bracket.symm]
      rw [List.cons_append, fault?_cons_of_unmarked other unmarked, ih plain]

/-- A bracket may begin the operator marker; what is wrong is behind the marker even so. -/
theorem fault?_cons {c : Char} (other : c ≠ '%') (rest : List Char) :
    fault? (c :: rest) = fault? rest := by
  cases marker : operatorMarker.toList.isPrefixOf? (c :: rest) with
  | none => exact fault?_cons_of_unmarked other marker
  | some behind =>
      have whole := List.isPrefixOf?_eq_some_iff_append_eq.mp marker
      have rest_eq : ['O', 'P', 'E', 'R', 'A', 'T', 'O', 'R', ']'] ++ behind = rest := by
        rw [toList_operatorMarker, List.cons_append, List.cons.injEq] at whole
        exact whole.2
      rw [← whole, fault?_of_map (segments?_marker behind), ← rest_eq]
      exact (fault?_append_of_plain (by simp) behind).symm

theorem Mark.inRange_numbered_iff {digits : List Char} (filled : digits ≠ [])
    (are_digits : ∀ c ∈ digits, c.isDigit = true) :
    (Mark.numbered digits filled are_digits).InRange ↔
      ∃ index, slotIndex? digits = some index := by
  simp only [slotIndex?_eq_some_iff, InRange]
  constructor
  · rintro ⟨least, greatest⟩
    obtain ⟨index, value⟩ := Nat.exists_eq_add_of_le' least
    exact ⟨index, value, by omega⟩
  · rintro ⟨index, value, small⟩
    omega

theorem Mark.fault?_append (mark : Mark) (in_range : mark.InRange) (rest : List Char) :
    fault? (mark.chars ++ rest) = fault? rest := by
  cases mark with
  | percent => exact fault?_of_map (segments?_escape rest)
  | next => exact fault?_of_map (segments?_next rest)
  | numbered digits filled are_digits =>
      obtain ⟨index, number⟩ := (inRange_numbered_iff filled are_digits).mp in_range
      rw [chars, List.cons_append, List.append_assoc]
      exact fault?_of_map (segments?_slot filled are_digits number rest)
  | operator => exact fault?_of_map (segments?_marker rest)
  | plain c other => exact fault?_cons other rest

theorem fault?_marked {marks : List Mark} (in_range : ∀ mark ∈ marks, mark.InRange)
    (rest : List Char) : fault? (marked marks ++ rest) = fault? rest := by
  induction marks with
  | nil => rfl
  | cons mark marks ih =>
      obtain ⟨first, others⟩ := List.forall_mem_cons.mp in_range
      rw [marked_cons, List.append_assoc, mark.fault?_append first, ih others]

theorem no_unit_iff {rest : List Char} :
    (∀ mark : Mark, ¬mark.chars <+: '%' :: rest) ↔
      (∀ behind, rest ≠ '%' :: behind) ∧ (∀ behind, rest ≠ 's' :: behind) ∧
        slot? rest = none := by
  constructor
  · intro no_unit
    refine ⟨?_, ?_, ?_⟩
    · rintro behind rfl
      exact no_unit .percent ⟨behind, rfl⟩
    · rintro behind rfl
      exact no_unit .next ⟨behind, rfl⟩
    · rw [Option.eq_none_iff_forall_ne_some]
      rintro ⟨digits, behind⟩ found
      obtain ⟨rfl, filled, are_digits⟩ := slot?_eq_some_iff.mp found
      exact no_unit (.numbered digits filled are_digits) ⟨behind, by simp [Mark.chars]⟩
  · rintro ⟨no_escape, no_next, no_slot⟩ mark ⟨behind, whole⟩
    cases mark with
    | percent => exact no_escape behind (List.cons.inj whole).2.symm
    | next => exact no_next behind (List.cons.inj whole).2.symm
    | numbered digits filled are_digits =>
        rw [Mark.chars, List.cons_append, List.append_assoc] at whole
        have found : slot? rest = some (digits, behind) :=
          slot?_eq_some_iff.mpr ⟨(List.cons.inj whole).2.symm, filled, are_digits⟩
        rw [no_slot] at found
        contradiction
    | operator => simp [Mark.chars, toList_operatorMarker] at whole
    | plain c other => exact other (List.cons.inj whole).1

theorem fault?_stray {rest : List Char} (no_unit : ∀ mark : Mark, ¬mark.chars <+: '%' :: rest) :
    fault? ('%' :: rest) = some (.stray ('%' :: rest)) := by
  obtain ⟨no_escape, no_next, no_slot⟩ := no_unit_iff.mp no_unit
  rw [fault?_eq_some_iff, segments?]
  · split
    · rfl
    · next found => rw [no_slot] at found; contradiction
  · exact no_escape
  · exact no_next

theorem Mark.fault?_of_not_inRange (mark : Mark) (out_of_range : ¬mark.InRange)
    (rest : List Char) : fault? (mark.chars ++ rest) = some (.slotNumber rest) := by
  cases mark with
  | percent | next | operator | plain => exact absurd trivial out_of_range
  | numbered digits filled are_digits =>
      have no_number : slotIndex? digits = none := by
        rw [Option.eq_none_iff_forall_ne_some]
        intro index number
        exact out_of_range ((inRange_numbered_iff filled are_digits).mpr ⟨index, number⟩)
      have found : slot? (digits ++ '$' :: 's' :: rest) = some (digits, rest) :=
        slot?_eq_some_iff.mpr ⟨rfl, filled, are_digits⟩
      rw [fault?_eq_some_iff, chars, List.cons_append, List.append_assoc]
      exact (segments?_of_slot? found).trans (by rw [no_number])

theorem FirstFault.fault? {cs : List Char} {column : Nat} {message : String}
    (first : FirstFault cs column message) : ∃ fault, fault? cs = some fault ∧
      column = Text.byteSize cs - Text.byteSize fault.rest + 1 ∧ message = fault.message := by
  cases first with
  | stray before rest in_range text_eq no_unit =>
      refine ⟨.stray ('%' :: rest), ?_, ?_, rfl⟩
      · rw [text_eq, fault?_marked in_range, fault?_stray no_unit]
      · rw [text_eq, Text.byteSize_append, Fault.rest]
        omega
  | slotNumber before slot rest in_range out_of_range text_eq =>
      refine ⟨.slotNumber rest, ?_, ?_, rfl⟩
      · rw [text_eq, fault?_marked in_range, slot.fault?_of_not_inRange out_of_range]
      · rw [text_eq, ← List.append_assoc, Text.byteSize_append _ rest, Fault.rest]
        omega

inductive Stops : List Char → Prop where
  | done : Stops []
  | stray (rest : List Char) (no_unit : ∀ mark : Mark, ¬mark.chars <+: '%' :: rest) :
      Stops ('%' :: rest)
  | slotNumber (slot : Mark) (out_of_range : ¬slot.InRange) (rest : List Char) :
      Stops (slot.chars ++ rest)

def TakenApart (cs : List Char) : Prop :=
  ∃ marks rest, (∀ mark ∈ marks, mark.InRange) ∧ Stops rest ∧ cs = marked marks ++ rest

theorem Stops.takenApart {cs : List Char} (stops : Stops cs) : TakenApart cs :=
  ⟨[], cs, by simp, stops, rfl⟩

theorem Mark.takenApart (mark : Mark) (in_range : mark.InRange) {rest : List Char}
    (apart : TakenApart rest) : TakenApart (mark.chars ++ rest) := by
  obtain ⟨marks, left, others, stops, rfl⟩ := apart
  exact ⟨mark :: marks, left, List.forall_mem_cons.mpr ⟨in_range, others⟩, stops, by simp⟩

theorem takenApart (cs : List Char) : TakenApart cs := by
  fun_induction segments? cs with
  | case1 => exact Stops.done.takenApart
  | case2 rest ih => exact Mark.percent.takenApart trivial ih
  | case3 rest ih => exact Mark.next.takenApart trivial ih
  | case4 rest no_escape no_next missing =>
      exact (Stops.stray rest (no_unit_iff.mpr ⟨no_escape, no_next, missing⟩)).takenApart
  | case5 rest no_escape no_next digits behind found index number ih =>
      obtain ⟨rfl, filled, are_digits⟩ := slot?_eq_some_iff.mp found
      have in_range := (Mark.inRange_numbered_iff filled are_digits).mpr ⟨index, number⟩
      simpa [Mark.chars] using Mark.takenApart _ in_range ih
  | case6 rest no_escape no_next digits behind found missing =>
      obtain ⟨rfl, filled, are_digits⟩ := slot?_eq_some_iff.mp found
      have out_of_range : ¬(Mark.numbered digits filled are_digits).InRange := by
        simp [Mark.inRange_numbered_iff, missing]
      simpa [Mark.chars] using (Stops.slotNumber _ out_of_range behind).takenApart
  | case7 c rest no_escape no_next no_slot behind found ih =>
      rw [← List.isPrefixOf?_eq_some_iff_append_eq.mp found]
      exact Mark.operator.takenApart trivial ih
  | case8 c rest no_escape no_next no_slot missing ih =>
      have other : c ≠ '%' := by
        rintro rfl
        exact no_slot rfl
      exact (Mark.plain c other).takenApart trivial ih

theorem marked_or_firstFault (cs : List Char) :
    (∃ marks, (∀ mark ∈ marks, mark.InRange) ∧ cs = marked marks) ∨
      ∃ column message, FirstFault cs column message := by
  obtain ⟨marks, rest, in_range, stops, text_eq⟩ := takenApart cs
  cases stops with
  | done => exact .inl ⟨marks, in_range, by rw [text_eq, List.append_nil]⟩
  | stray rest no_unit => exact .inr ⟨_, _, .stray marks rest in_range text_eq no_unit⟩
  | slotNumber slot out_of_range rest =>
      exact .inr ⟨_, _, .slotNumber marks slot rest in_range out_of_range text_eq⟩

theorem fault?_eq_none_iff_marked {cs : List Char} :
    fault? cs = none ↔ ∃ marks, (∀ mark ∈ marks, mark.InRange) ∧ cs = marked marks := by
  constructor
  · intro faultless
    rcases marked_or_firstFault cs with consists | ⟨column, message, first⟩
    · exact consists
    · obtain ⟨fault, found, _⟩ := first.fault?
      rw [faultless] at found
      contradiction
  · rintro ⟨marks, in_range, rfl⟩
    rw [← List.append_nil (marked marks), fault?_marked in_range, fault?, segments?_nil]

theorem exists_read_iff {source : String} :
    (∃ template, Template.read source = .ok template) ↔ fault? source.toList = none := by
  simp only [read_eq_ok_iff, fault?_eq_none_iff]
  constructor
  · rintro ⟨template, _, read⟩
    exact ⟨template.segments, read⟩
  · rintro ⟨segments, read⟩
    exact ⟨⟨source, segments⟩, rfl, read⟩

theorem read_eq_error_iff {source : String} {error : ScriptError} :
    Template.read source = .error error ↔
      ∃ fault, fault? source.toList = some fault ∧
        error = .badWording 1
          (Text.byteSize source.toList - Text.byteSize fault.rest + 1) fault.message := by
  simp only [fault?_eq_some_iff, Template.read]
  cases segments? source.toList with
  | ok segments => simp
  | error fault => simp [eq_comm]

/-- A text is read if it consists of units with slots in range. Any other text has a first fault,
and that is what is reported, on line one. -/
theorem read_verdict (source : String) :
    ((∃ template, Template.read source = .ok template) ↔
      ∃ marks, (∀ mark ∈ marks, mark.InRange) ∧ source.toList = marked marks) ∧
    ∀ error, Template.read source = .error error ↔
      ∃ column message, FirstFault source.toList column message ∧
        error = .badWording 1 column message := by
  refine ⟨exists_read_iff.trans fault?_eq_none_iff_marked, fun error => ?_⟩
  rw [read_eq_error_iff]
  constructor
  · rintro ⟨fault, found, rfl⟩
    rcases marked_or_firstFault source.toList with consists | ⟨column, message, first⟩
    · rw [fault?_eq_none_iff_marked.mpr consists] at found
      contradiction
    · obtain ⟨same, found_first, rfl, rfl⟩ := first.fault?
      rw [found, Option.some.injEq] at found_first
      subst found_first
      exact ⟨_, _, first, rfl⟩
  · rintro ⟨column, message, first, rfl⟩
    obtain ⟨fault, found, rfl, rfl⟩ := first.fault?
    exact ⟨fault, found, rfl⟩

-- The bytes of a letter with an accent count, and a slot is read before its number is refused.
example : Template.read "é%%%0$s" =
    .error (.badWording 1 9 ("parse error: " ++ Fault.noContext)) := by
  decide +kernel

end EventWiki.Template
