import EventWiki.Proofs.CheckedResults
import EventWiki.Proofs.WrittenNumbers
import EventWiki.Template.Grammar

namespace EventWiki

namespace Template

/-- A text as it stands in a template, with its percent signs doubled. -/
def escaped (cs : List Char) : List Char :=
  cs.flatMap fun c => if c = '%' then percentMarker.toList else [c]

def writtenChars : Segment → List Char
  | .literal text => escaped text.toList
  | .value none => ['%', 's']
  | .value (some index) => '%' :: ((toString (index + 1)).toList ++ ['$', 's'])
  | .operator => operatorMarker.toList

def written (segments : List Segment) : String :=
  String.ofList (segments.flatMap writtenChars)

def isLiteral : Segment → Bool
  | .literal _ => true
  | .value _ | .operator => false

/-- Segments that can be told apart in their written form. -/
structure Legible (segments : List Segment) : Prop where
  filled : .literal "" ∉ segments
  apart : segments.IsChain fun left right => ¬(isLiteral left = true ∧ isLiteral right = true)
  unmarked : ∀ text, .literal text ∈ segments → ¬operatorMarker.toList <:+: text.toList
  numbered : ∀ index, .value (some index) ∈ segments → index < 2 ^ 64 - 1

def slotNumbers : List Char → List (List Char)
  | [] => []
  | '%' :: '%' :: rest => slotNumbers rest
  | '%' :: rest =>
      match _h : slot? rest with
      | some (digits, behind) => digits :: slotNumbers behind
      | none => slotNumbers rest
  | _ :: rest => slotNumbers rest
termination_by cs => cs.length
decreasing_by
  · simp only [List.length_cons]; omega
  · exact Nat.lt_succ_of_lt (length_of_slot? _h)
  · exact Nat.lt_succ_self _
  · exact Nat.lt_succ_self _

theorem toList_operatorMarker :
    operatorMarker.toList = ['[', 'O', 'P', 'E', 'R', 'A', 'T', 'O', 'R', ']'] := by
  decide

@[simp] theorem escaped_nil : escaped [] = [] := rfl

theorem escaped_cons_percent (cs : List Char) : escaped ('%' :: cs) = '%' :: '%' :: escaped cs := rfl

theorem escaped_cons_of_ne {c : Char} (other : c ≠ '%') (cs : List Char) :
    escaped (c :: cs) = c :: escaped cs := by
  simp [escaped, other]

theorem slot?_eq_some_iff {cs digits rest : List Char} :
    slot? cs = some (digits, rest) ↔
      cs = digits ++ '$' :: 's' :: rest ∧ digits ≠ [] ∧ ∀ c ∈ digits, c.isDigit = true := by
  constructor
  · intro found
    simp only [slot?] at found
    split at found
    · next tail behind =>
      split at found
      · simp at found
      · next filled =>
        simp only [Option.some.injEq, Prod.mk.injEq] at found
        obtain ⟨rfl, rfl⟩ := found
        refine ⟨?_, by simpa using filled, fun c => List.mem_takeWhile_imp⟩
        rw [← behind, List.takeWhile_append_dropWhile]
    · simp at found
  · rintro ⟨rfl, filled, are_digits⟩
    have stop : ('$' :: 's' :: rest).takeWhile Char.isDigit = [] := by
      simp [show '$'.isDigit = false by decide]
    have behind : ('$' :: 's' :: rest).dropWhile Char.isDigit = '$' :: 's' :: rest := by
      simp [show '$'.isDigit = false by decide]
    rw [slot?, List.takeWhile_append_of_pos are_digits, List.dropWhile_append_of_pos are_digits,
      stop, behind, List.append_nil]
    simp [filled]

theorem slotIndex?_eq_some_iff {digits : List Char} {index : Nat} :
    slotIndex? digits = some index ↔
      Decimal.ofDigits digits = index + 1 ∧ index < 2 ^ 64 - 1 := by
  have limit : Decimal.wordLimit = 2 ^ 64 := rfl
  rw [slotIndex?, limit]
  split
  · next zero => simp [zero]
  · next number value =>
    rw [value]
    split
    · next small =>
      simp only [Option.some.injEq]
      omega
    · next large =>
      simp only [reduceCtorEq, false_iff]
      omega

theorem segments?_of_slot? {rest digits behind : List Char}
    (found : slot? rest = some (digits, behind)) :
    segments? ('%' :: rest) =
      match slotIndex? digits with
      | some index => (segments? behind).map (.value (some index) :: ·)
      | none => .error (.slotNumber behind) := by
  obtain ⟨rfl, filled, are_digits⟩ := slot?_eq_some_iff.mp found
  obtain ⟨first, front, rfl⟩ := List.exists_cons_of_ne_nil filled
  have first_digit := are_digits first (by simp)
  rw [segments?]
  · split
    · next missing => rw [found] at missing; contradiction
    · next digits' behind' again =>
      rw [found] at again
      simp only [Option.some.injEq, Prod.mk.injEq] at again
      obtain ⟨rfl, rfl⟩ := again
      rfl
  all_goals
    rintro _ ⟨⟩
    simp at first_digit

theorem segments?_slot {digits : List Char} {index : Nat} (filled : digits ≠ [])
    (are_digits : ∀ c ∈ digits, c.isDigit = true) (number : slotIndex? digits = some index)
    (rest : List Char) :
    segments? ('%' :: (digits ++ '$' :: 's' :: rest)) =
      (segments? rest).map (.value (some index) :: ·) := by
  rw [segments?_of_slot? (slot?_eq_some_iff.mpr ⟨rfl, filled, are_digits⟩), number]

/-- A mark that holds no percent sign and nothing that may follow a text does not begin in its
escaped form unless it stands there in the text itself. -/
theorem prefix_of_prefix_escaped {mark cs rest : List Char} (no_percent : '%' ∉ mark)
    (apart : ∀ c ∈ rest.head?, c ∉ mark) (starts : mark <+: escaped cs ++ rest) : mark <+: cs := by
  induction mark generalizing cs with
  | nil => exact List.nil_prefix
  | cons first mark ih =>
      rw [List.mem_cons, not_or] at no_percent
      cases cs with
      | nil =>
          obtain ⟨behind, rfl⟩ := starts
          exact absurd List.mem_cons_self (apart first rfl)
      | cons c cs =>
          by_cases percent : c = '%'
          · rw [percent, escaped_cons_percent, List.cons_append, List.cons_prefix_cons] at starts
            exact absurd starts.1.symm no_percent.1
          · rw [escaped_cons_of_ne percent, List.cons_append, List.cons_prefix_cons] at starts
            rw [List.cons_prefix_cons]
            exact ⟨starts.1, ih no_percent.2
              (fun c head member => apart c head (List.mem_cons_of_mem _ member)) starts.2⟩

theorem segments?_escaped {cs rest : List Char} {segments : List Segment}
    (unmarked : ¬operatorMarker.toList <:+: cs) (boundary : ∀ c ∈ rest.head?, c = '%' ∨ c = '[')
    (read : segments? rest = .ok segments) :
    segments? (escaped cs ++ rest) = .ok (cs.foldr addChar segments) := by
  induction cs with
  | nil => exact read
  | cons c cs ih =>
      have read_rest := ih fun inside => unmarked (List.infix_cons inside)
      by_cases percent : c = '%'
      · rw [percent, escaped_cons_percent, List.cons_append, List.cons_append, segments?_escape,
          read_rest]
        rfl
      · rw [escaped_cons_of_ne percent, List.cons_append, segments?_char percent, read_rest]
        · rfl
        · rw [Option.eq_none_iff_forall_ne_some]
          intro behind starts
          have parts := List.isPrefixOf?_eq_some_iff_append_eq.mp starts
          have marker_eq : operatorMarker.toList = '[' :: "OPERATOR]".toList := by decide
          have tail : "OPERATOR]".toList <+: escaped cs ++ rest := by
            rw [marker_eq, List.cons_append, List.cons.injEq] at parts
            exact ⟨behind, parts.2⟩
          have inside : "OPERATOR]".toList <+: cs := by
            refine prefix_of_prefix_escaped (by decide) (fun c head => ?_) tail
            rcases boundary c head with rfl | rfl <;> decide
          refine unmarked (List.IsPrefix.isInfix ?_)
          rw [marker_eq, List.cons_append, List.cons.injEq] at parts
          rw [marker_eq, ← parts.1, List.cons_prefix_cons]
          exact ⟨rfl, inside⟩

theorem foldr_addChar {cs : List Char} {segments : List Segment} (filled : cs ≠ [])
    (apart : ∀ segment ∈ segments.head?, isLiteral segment = false) :
    cs.foldr addChar segments = .literal (String.ofList cs) :: segments := by
  induction cs with
  | nil => exact absurd rfl filled
  | cons c cs ih =>
      cases cs with
      | nil =>
          cases segments with
          | nil => rfl
          | cons segment rest =>
              have other := apart segment rfl
              cases segment with
              | literal text => contradiction
              | value index => rfl
              | operator => rfl
      | cons next cs =>
          rw [List.foldr_cons, ih (by simp), addChar]
          congr 2
          apply String.toList_injective
          simp

theorem writtenChars_boundary {segments : List Segment}
    (apart : ∀ segment ∈ segments.head?, isLiteral segment = false) :
    ∀ c ∈ (segments.flatMap writtenChars).head?, c = '%' ∨ c = '[' := by
  intro c head
  cases segments with
  | nil => simp at head
  | cons segment rest =>
      have other := apart segment rfl
      rw [List.flatMap_cons] at head
      rcases segment with text | (_ | index) | _
      · contradiction
      · exact .inl (Option.some.inj head).symm
      · exact .inl (Option.some.inj head).symm
      · exact .inr (Option.some.inj head).symm

theorem Legible.tail {segment : Segment} {segments : List Segment}
    (legible : Legible (segment :: segments)) : Legible segments where
  filled member := legible.filled (List.mem_cons_of_mem _ member)
  apart := legible.apart.tail
  unmarked text member := legible.unmarked text (List.mem_cons_of_mem _ member)
  numbered index member := legible.numbered index (List.mem_cons_of_mem _ member)

theorem segments?_written {segments : List Segment} (legible : Legible segments) :
    segments? (segments.flatMap writtenChars) = .ok segments := by
  induction segments with
  | nil => exact segments?_nil
  | cons segment segments ih =>
      have read := ih legible.tail
      rw [List.flatMap_cons]
      match segment with
      | .literal text =>
          have apart : ∀ next ∈ segments.head?, isLiteral next = false := by
            intro next head
            have neighbours := (List.isChain_cons.mp legible.apart).1 next head
            simpa [isLiteral] using neighbours
          have filled : text.toList ≠ [] := by
            intro empty
            rw [String.toList_eq_nil_iff] at empty
            exact legible.filled (by simp [empty])
          rw [writtenChars, segments?_escaped (legible.unmarked text (by simp))
            (writtenChars_boundary apart) read, foldr_addChar filled apart, String.ofList_toList]
      | .value none =>
          rw [writtenChars, List.cons_append, List.cons_append, List.nil_append, segments?_next, read]
          rfl
      | .value (some index) =>
          have number : slotIndex? (Nat.toDigits 10 (index + 1)) = some index :=
            slotIndex?_eq_some_iff.mpr
              ⟨Decimal.ofDigits_toDigits _, legible.numbered index (by simp)⟩
          rw [writtenChars, Decimal.toList_toString, List.cons_append, List.append_assoc]
          rw [List.cons_append, List.cons_append, List.nil_append,
            segments?_slot Nat.toDigits_ne_nil
            (fun c member => Nat.isDigit_of_mem_toDigits (by decide) (by decide) member) number, read]
          rfl
      | .operator =>
          rw [writtenChars, segments?_marker, read]
          rfl

theorem writtenChars_addChar (c : Char) (segments : List Segment) :
    (addChar c segments).flatMap writtenChars = escaped [c] ++ segments.flatMap writtenChars := by
  match segments with
  | .literal text :: rest =>
      simp [addChar, writtenChars, escaped]
  | [] | .value _ :: _ | .operator :: _ => simp [addChar, writtenChars]

@[simp] theorem slotNumbers_nil : slotNumbers [] = [] := by
  rw [slotNumbers]

@[simp] theorem slotNumbers_escape (rest : List Char) :
    slotNumbers ('%' :: '%' :: rest) = slotNumbers rest := by
  rw [slotNumbers]

theorem slotNumbers_cons_of_ne {c : Char} (other : c ≠ '%') (rest : List Char) :
    slotNumbers (c :: rest) = slotNumbers rest := by
  rw [slotNumbers]
  all_goals
    intros
    contradiction

theorem slotNumbers_slot {rest digits behind : List Char}
    (found : slot? rest = some (digits, behind)) :
    slotNumbers ('%' :: rest) = digits :: slotNumbers behind := by
  obtain ⟨rfl, filled, are_digits⟩ := slot?_eq_some_iff.mp found
  obtain ⟨first, front, rfl⟩ := List.exists_cons_of_ne_nil filled
  rw [slotNumbers]
  · split
    · next again =>
      rw [found] at again
      simp only [Option.some.injEq, Prod.mk.injEq] at again
      rw [again.1, again.2]
    · next missing => rw [found] at missing; contradiction
  · rintro _ ⟨⟩
    simpa using are_digits '%' (by simp)

theorem slotNumbers_next (rest : List Char) :
    slotNumbers ('%' :: 's' :: rest) = slotNumbers rest := by
  have missing : slot? ('s' :: rest) = none := by
    rw [slot?, List.dropWhile_cons_of_neg (by decide)]
    rfl
  rw [slotNumbers]
  · split
    · next found => rw [missing] at found; contradiction
    · exact slotNumbers_cons_of_ne (by decide) rest
  · rintro _ ⟨⟩

theorem slotNumbers_marker (rest : List Char) :
    slotNumbers (operatorMarker.toList ++ rest) = slotNumbers rest := by
  simp [toList_operatorMarker, slotNumbers_cons_of_ne]

theorem slot_inj {left right left_rest right_rest : List Char}
    (left_digits : ∀ c ∈ left, c.isDigit = true) (right_digits : ∀ c ∈ right, c.isDigit = true) :
    left ++ '$' :: left_rest = right ++ '$' :: right_rest ↔
      left = right ∧ left_rest = right_rest := by
  constructor
  · intro same
    have fronts := congrArg (List.takeWhile Char.isDigit) same
    have stop {rest : List Char} : ('$' :: rest).takeWhile Char.isDigit = [] :=
      List.takeWhile_cons_of_neg (by decide)
    rw [List.takeWhile_append_of_pos left_digits, List.takeWhile_append_of_pos right_digits, stop,
      stop, List.append_nil, List.append_nil] at fronts
    subst fronts
    simpa using same
  · rintro ⟨rfl, rfl⟩
    rfl

theorem toDigits_of_slotIndex? {digits : List Char} {index : Nat} (filled : digits ≠ [])
    (are_digits : ∀ c ∈ digits, c.isDigit = true) (number : slotIndex? digits = some index) :
    (toString (index + 1)).toList = digits ↔ digits.head? ≠ some '0' := by
  have value := (slotIndex?_eq_some_iff.mp number).1
  rw [Decimal.toList_toString]
  constructor
  · rintro rfl
    exact Decimal.head?_toDigits (Nat.succ_pos index)
  · intro leading
    rw [← value]
    exact (Decimal.toDigits_ofDigits filled are_digits leading).2

theorem flatMap_writtenChars_of_segments? {cs : List Char} {segments : List Segment}
    (read : segments? cs = .ok segments) :
    segments.flatMap writtenChars = cs ↔ ∀ number ∈ slotNumbers cs, number.head? ≠ some '0' := by
  fun_induction segments? cs generalizing segments with
  | case1 =>
      obtain rfl := Except.ok.inj read
      simp
  | case2 rest ih =>
      obtain ⟨inner, inner_read, rfl⟩ := map_eq_ok read
      rw [writtenChars_addChar, slotNumbers_escape, ← ih inner_read]
      simp [escaped_cons_percent]
  | case3 rest ih =>
      obtain ⟨inner, inner_read, rfl⟩ := map_eq_ok read
      rw [slotNumbers_next, ← ih inner_read]
      simp [writtenChars]
  | case4 rest no_escape no_next missing => simp at read
  | case5 rest no_escape no_next digits behind found index number ih =>
      obtain ⟨inner, inner_read, rfl⟩ := map_eq_ok read
      obtain ⟨rfl, filled, are_digits⟩ := slot?_eq_some_iff.mp found
      have written_digits : ∀ c ∈ (toString (index + 1)).toList, c.isDigit = true := by
        intro c member
        rw [Decimal.toList_toString] at member
        exact Nat.isDigit_of_mem_toDigits (by decide) (by decide) member
      rw [slotNumbers_slot found, List.forall_mem_cons, ← ih inner_read,
        ← toDigits_of_slotIndex? filled are_digits number, List.flatMap_cons, writtenChars,
        List.cons_append, List.append_assoc, List.cons_append, List.cons.injEq,
        slot_inj written_digits are_digits]
      simp
  | case6 rest no_escape no_next digits behind found missing => simp at read
  | case7 c rest no_escape no_next no_slot behind found ih =>
      obtain ⟨inner, inner_read, rfl⟩ := map_eq_ok read
      rw [← List.isPrefixOf?_eq_some_iff_append_eq.mp found, slotNumbers_marker, ← ih inner_read]
      simp [writtenChars]
  | case8 c rest no_escape no_next no_slot missing ih =>
      obtain ⟨inner, inner_read, rfl⟩ := map_eq_ok read
      have other : c ≠ '%' := by
        rintro rfl
        exact no_slot rfl
      rw [writtenChars_addChar, slotNumbers_cons_of_ne other, ← ih inner_read,
        escaped_cons_of_ne other]
      simp

theorem read_eq_ok_iff {source : String} {template : Template} :
    Template.read source = .ok template ↔
      template.source = source ∧ segments? source.toList = .ok template.segments := by
  obtain ⟨text, segments⟩ := template
  rw [Template.read]
  split
  · next inner read => simp [read, eq_comm]
  · next fault read => simp [read]

/-- Segments that can be told apart are read back from their written form. Of a text that is read,
the segments are written as the text again unless the number of a slot has a leading zero. -/
theorem read_written_inverse :
    (∀ segments, Legible segments →
      Template.read (written segments) = .ok ⟨written segments, segments⟩) ∧
    ∀ source template, Template.read source = .ok template →
      (written template.segments = source ↔
        ∀ number ∈ slotNumbers source.toList, number.head? ≠ some '0') := by
  constructor
  · intro segments legible
    rw [read_eq_ok_iff, written, String.toList_ofList]
    exact ⟨rfl, segments?_written legible⟩
  · intro source template read
    have segments_read := (read_eq_ok_iff.mp read).2
    rw [← flatMap_writtenChars_of_segments? segments_read, written, ← String.toList_inj,
      String.toList_ofList]

example : (Template.read "%02$s").map (written ·.segments) = .ok "%2$s" := by
  decide +kernel

def crowdedSegments : List Segment :=
  [.literal "100%", .value (some 1), .literal " [", .operator, .literal "%s", .value none]

def crowdedText : String :=
  "100%%%2$s [[OPERATOR]%%s%s"

theorem read_written_of_crowded :
    Template.read crowdedText = .ok ⟨crowdedText, crowdedSegments⟩ ∧
      written crowdedSegments = crowdedText ∧
      Template.read (written crowdedSegments) =
        .ok ⟨written crowdedSegments, crowdedSegments⟩ := by
  have legible : Legible crowdedSegments := by
    refine ⟨by decide, by decide, fun text member => ?_, fun index member => ?_⟩
    · have texts : text = "100%" ∨ text = " [" ∨ text = "%s" := by
        simpa [crowdedSegments] using member
      rcases texts with rfl | rfl | rfl <;> decide
    · have index_eq : index = 1 := by simpa [crowdedSegments] using member
      omega
  have read : Template.read crowdedText = .ok ⟨crowdedText, crowdedSegments⟩ := by decide +kernel
  have numbers_eq : slotNumbers crowdedText.toList = [['2']] := by decide +kernel
  have no_zero : ∀ number ∈ slotNumbers crowdedText.toList, number.head? ≠ some '0' := by
    simp [numbers_eq]
  exact ⟨read, (read_written_inverse.2 _ _ read).mpr no_zero,
    read_written_inverse.1 crowdedSegments legible⟩

end Template

end EventWiki
