import EventWiki.Text.Blank
import EventWiki.Text.Line
import EventWiki.Text.Word
import Mathlib

namespace EventWiki.Text

def CodeRanges.Apart (left right : CodeRanges) : Prop :=
  ∀ first ∈ left, ∀ second ∈ right, first.2 < second.1 ∨ second.2 < first.1

instance (left right : CodeRanges) : Decidable (left.Apart right) :=
  inferInstanceAs (Decidable (∀ _ ∈ _, _))

theorem CodeRanges.Apart.contains_eq_false {left right : CodeRanges} (apart : left.Apart right)
    {c : Char} (inside : left.contains c = true) : right.contains c = false := by
  rw [← Bool.not_eq_true, contains_iff]
  rintro ⟨second, member, low, high⟩
  obtain ⟨first, firstMember, firstLow, firstHigh⟩ := contains_iff.mp inside
  rcases apart first firstMember second member with before | after <;> omega

private theorem isBlank_of_isAsciiWord {c : Char} (word : isAsciiWord c = true) :
    isBlank c = false := by
  have code : 0x30 ≤ c.toNat ∧ c.toNat ≤ 0x7A := by
    simp only [isAsciiWord, Char.isAlphanum, Char.isAlpha, Char.isUpper, Char.isLower,
      Char.isDigit, Bool.or_eq_true, Bool.and_eq_true, decide_eq_true_eq, beq_iff_eq,
      UInt32.le_iff_toNat_le, ge_iff_le] at word
    change (((0x41 ≤ c.toNat ∧ c.toNat ≤ 0x5A) ∨ (0x61 ≤ c.toNat ∧ c.toNat ≤ 0x7A)) ∨
      (0x30 ≤ c.toNat ∧ c.toNat ≤ 0x39)) ∨ c = '_' at word
    rcases word with ((upper | lower) | digit) | rfl
    · omega
    · omega
    · omega
    · decide
  rw [isBlank, ← Bool.not_eq_true, CodeRanges.contains_iff]
  rintro ⟨range, member, low, high⟩
  simp only [blankRanges, List.mem_cons, List.not_mem_nil, or_false] at member
  rcases member with rfl | rfl | rfl | rfl | rfl | rfl | rfl | rfl | rfl | rfl <;>
    simp only at low high <;> omega

theorem isBlank_of_isWord {c : Char} (word : isWord c = true) : isBlank c = false := by
  unfold isWord at word
  split at word
  · exact isBlank_of_isAsciiWord word
  · split at word
    · exact CodeRanges.Apart.contains_eq_false (by decide +kernel) word
    · split at word
      · exact CodeRanges.Apart.contains_eq_false (by decide +kernel) word
      · split at word
        · exact CodeRanges.Apart.contains_eq_false (by decide +kernel) word
        · exact CodeRanges.Apart.contains_eq_false (by decide +kernel) word

theorem dropWhile_eq_self {α : Type} {p : α → Bool} {values : List α}
    (boundary : ∀ value ∈ values.head?, p value = false) : values.dropWhile p = values := by
  cases values with
  | nil => rfl
  | cons value rest => simp [boundary value rfl]

theorem dropAround_eq_self {p : Char → Bool} {cs : List Char}
    (first : ∀ c ∈ cs.head?, p c = false) (last : ∀ c ∈ cs.getLast?, p c = false) :
    dropAround p cs = cs := by
  rw [dropAround, dropWhile_eq_self first, dropEndWhile, dropWhile_eq_self, List.reverse_reverse]
  rwa [List.head?_reverse]

theorem dropAround_sublist (p : Char → Bool) (cs : List Char) :
    List.Sublist (dropAround p cs) cs := by
  have reversed := (List.dropWhile_sublist p (l := (cs.dropWhile p).reverse)).reverse
  rw [List.reverse_reverse] at reversed
  exact reversed.trans (List.dropWhile_sublist p)

theorem mem_of_mem_trim {cs : List Char} {c : Char} (member : c ∈ trim cs) : c ∈ cs :=
  (dropAround_sublist isBlank cs).subset member

theorem trim_eq_self {cs : List Char} (first : ∀ c ∈ cs.head?, isBlank c = false)
    (last : ∀ c ∈ cs.getLast?, isBlank c = false) : trim cs = cs :=
  dropAround_eq_self first last

theorem trim_append_of_visible {front rest : List Char} (filled : front ≠ [])
    (visible : ∀ c ∈ front, isBlank c = false)
    (last : ∀ c ∈ (front ++ rest).getLast?, isBlank c = false) :
    trim (front ++ rest) = front ++ rest := by
  refine trim_eq_self (fun c first => ?_) last
  rw [List.head?_append_of_ne_nil _ filled] at first
  exact visible c (List.mem_of_mem_head? first)

theorem trim_of_visible {cs : List Char} (visible : ∀ c ∈ cs, isBlank c = false) :
    trim cs = cs :=
  trim_eq_self (fun c first => visible c (List.mem_of_mem_head? first))
    fun c last => visible c (List.mem_of_mem_getLast? last)

theorem dropAround_cons {p : Char → Bool} {c : Char} (inside : p c = true) (cs : List Char) :
    dropAround p (c :: cs) = dropAround p cs := by
  simp [dropAround, inside]

theorem dropAround_concat {p : Char → Bool} {c : Char} (inside : p c = true) (cs : List Char) :
    dropAround p (cs ++ [c]) = dropAround p cs := by
  induction cs with
  | nil => simp [dropAround, inside]
  | cons first rest ih =>
      by_cases firstInside : p first = true
      · rw [List.cons_append, dropAround_cons firstInside, dropAround_cons firstInside, ih]
      · rw [dropAround, dropAround, List.cons_append, List.dropWhile_cons_of_neg firstInside,
          List.dropWhile_cons_of_neg firstInside, ← List.cons_append]
        exact dropEndWhile_append_of_all _ (by simpa using inside)

theorem trim_cons_of_blank {c : Char} (blank : isBlank c = true) (cs : List Char) :
    trim (c :: cs) = trim cs :=
  dropAround_cons blank cs

theorem trim_concat_of_blank {c : Char} (blank : isBlank c = true) (cs : List Char) :
    trim (cs ++ [c]) = trim cs :=
  dropAround_concat blank cs

theorem dropEndWhile_append_tail (p : Char → Bool) (cs : List Char) : ∃ tail,
    cs = dropEndWhile p cs ++ tail ∧ ∀ c ∈ tail, p c = true := by
  refine ⟨(cs.reverse.takeWhile p).reverse, ?_, fun c member => ?_⟩
  · rw [dropEndWhile, ← List.reverse_append, List.takeWhile_append_dropWhile,
      List.reverse_reverse]
  · exact List.mem_takeWhile_imp (List.mem_reverse.mp member)

theorem trim_parts (cs : List Char) : ∃ lead tail,
    cs = lead ++ (trim cs ++ tail) ∧ (∀ c ∈ lead, isBlank c = true) ∧
      ∀ c ∈ tail, isBlank c = true := by
  obtain ⟨tail, parts, inside⟩ := dropEndWhile_append_tail isBlank (cs.dropWhile isBlank)
  refine ⟨cs.takeWhile isBlank, tail, ?_, fun c => List.mem_takeWhile_imp, inside⟩
  rw [trim, dropAround, ← parts, List.takeWhile_append_dropWhile]

theorem eq_false_of_mem_head?_dropWhile {p : Char → Bool} {cs : List Char} :
    ∀ c ∈ (cs.dropWhile p).head?, p c = false := by
  intro c first
  have outside := List.head?_dropWhile_not p cs
  rw [Option.mem_def.mp first] at outside
  exact outside

theorem eq_false_of_mem_head?_dropAround {p : Char → Bool} {cs : List Char} :
    ∀ c ∈ (dropAround p cs).head?, p c = false := by
  intro c first
  obtain ⟨tail, parts, _⟩ := dropEndWhile_append_tail p (cs.dropWhile p)
  have outside : c ∈ (cs.dropWhile p).head? := by
    rw [parts]
    exact List.mem_head?_append_of_mem_head? first
  exact eq_false_of_mem_head?_dropWhile c outside

theorem eq_false_of_mem_getLast?_dropAround {p : Char → Bool} {cs : List Char} :
    ∀ c ∈ (dropAround p cs).getLast?, p c = false := by
  intro c last
  rw [dropAround, dropEndWhile, List.getLast?_reverse] at last
  exact eq_false_of_mem_head?_dropWhile c last

theorem dropAround_eq_self_iff {p : Char → Bool} {cs : List Char} : dropAround p cs = cs ↔
    (∀ c ∈ cs.head?, p c = false) ∧ ∀ c ∈ cs.getLast?, p c = false := by
  constructor
  · intro kept
    rw [← kept]
    exact ⟨eq_false_of_mem_head?_dropAround, eq_false_of_mem_getLast?_dropAround⟩
  · exact fun ⟨first, last⟩ => dropAround_eq_self first last

theorem isBlank_of_mem_head?_trim {cs : List Char} :
    ∀ c ∈ (trim cs).head?, isBlank c = false :=
  eq_false_of_mem_head?_dropAround

theorem isBlank_of_mem_getLast?_trim {cs : List Char} :
    ∀ c ∈ (trim cs).getLast?, isBlank c = false :=
  eq_false_of_mem_getLast?_dropAround

@[simp] theorem trim_trim (cs : List Char) : trim (trim cs) = trim cs :=
  trim_eq_self isBlank_of_mem_head?_trim isBlank_of_mem_getLast?_trim

@[simp] theorem trim_dropWhile (cs : List Char) : trim (cs.dropWhile isBlank) = trim cs := by
  rw [trim, trim, dropAround, dropAround, List.dropWhile_idempotent]

theorem trim_append_of_blank {tail : List Char} (blank : ∀ c ∈ tail, isBlank c = true)
    (cs : List Char) : trim (cs ++ tail) = trim cs := by
  induction tail generalizing cs with
  | nil => rw [List.append_nil]
  | cons c tail ih =>
      rw [List.forall_mem_cons] at blank
      rw [List.append_cons, ih blank.2, trim_concat_of_blank blank.1]

theorem trim_blank_append {lead : List Char} (blank : ∀ c ∈ lead, isBlank c = true)
    (cs : List Char) : trim (lead ++ cs) = trim cs := by
  induction lead with
  | nil => rfl
  | cons c lead ih =>
      rw [List.forall_mem_cons] at blank
      rw [List.cons_append, trim_cons_of_blank blank.1, ih blank.2]

theorem trim_eq_nil_iff {cs : List Char} : trim cs = [] ↔ ∀ c ∈ cs, isBlank c = true := by
  constructor
  · intro empty
    obtain ⟨lead, tail, parts, lead_blank, tail_blank⟩ := trim_parts cs
    rw [parts, empty, List.nil_append]
    exact List.forall_mem_append.mpr ⟨lead_blank, tail_blank⟩
  · intro blank
    exact trim_append_of_blank blank []

theorem dropWhile_append_of_head {p : Char → Bool} {right : List Char}
    (outside : ∀ c ∈ right.head?, p c = false) (left : List Char) :
    (left ++ right).dropWhile p = left.dropWhile p ++ right := by
  rw [List.dropWhile_append]
  split
  · next empty => rw [dropWhile_eq_self outside, List.isEmpty_iff.mp empty, List.nil_append]
  · rfl

theorem dropEndWhile_append_of_last {p : Char → Bool} {left : List Char}
    (outside : ∀ c ∈ left.getLast?, p c = false) (right : List Char) :
    dropEndWhile p (left ++ right) = left ++ dropEndWhile p right := by
  rw [← List.head?_reverse] at outside
  rw [dropEndWhile, dropEndWhile, List.reverse_append, dropWhile_append_of_head outside,
    List.reverse_append, List.reverse_reverse]

theorem trim_append_append {middle : List Char} (filled : middle ≠ [])
    (visible : ∀ c ∈ middle, isBlank c = false) (front back : List Char) :
    trim (front ++ (middle ++ back)) =
      front.dropWhile isBlank ++ (middle ++ dropEndWhile isBlank back) := by
  have first : ∀ c ∈ (middle ++ back).head?, isBlank c = false := by
    rw [List.head?_append_of_ne_nil _ filled]
    exact fun c head => visible c (List.mem_of_mem_head? head)
  have last : ∀ c ∈ (front.dropWhile isBlank ++ middle).getLast?, isBlank c = false := by
    rw [List.getLast?_append_of_ne_nil _ filled]
    exact fun c ends => visible c (List.mem_of_mem_getLast? ends)
  rw [trim, dropAround, dropWhile_append_of_head first, ← List.append_assoc,
    dropEndWhile_append_of_last last, List.append_assoc]

theorem trim_concat_of_not_blank {c : Char} (visible : isBlank c = false) (cs : List Char) :
    trim (cs ++ [c]) = cs.dropWhile isBlank ++ [c] := by
  simpa using trim_append_append (List.cons_ne_nil c []) (by simpa using visible) cs []

theorem unquoted_cons_quote (cs : List Char) : unquoted ('"' :: cs) = unquoted cs :=
  dropAround_cons rfl cs

theorem unquoted_concat_quote (cs : List Char) : unquoted (cs ++ ['"']) = unquoted cs :=
  dropAround_concat rfl cs

theorem unquoted_of_not_mem {cs : List Char} (no_quote : '"' ∉ cs) : unquoted cs = cs := by
  have other : ∀ c ∈ cs, (c == '"') = false := by
    intro c member
    simpa using ne_of_mem_of_not_mem member no_quote
  exact dropAround_eq_self (fun c member => other c (List.mem_of_mem_head? member))
    (fun c member => other c (List.mem_of_mem_getLast? member))

theorem splitAt_of_not_mem {separator : Char} {cs : List Char} (absent : separator ∉ cs) :
    splitAt separator cs = [cs] := by
  induction cs with
  | nil => rfl
  | cons c rest ih =>
      rw [List.mem_cons, not_or] at absent
      have restSplit := ih absent.2
      simp only [splitAt] at restSplit
      simp [splitAt, restSplit, Ne.symm absent.1]

theorem lines_of_single {cs : List Char} (nonempty : cs ≠ []) (single : '\n' ∉ cs) :
    lines cs = [cs] := by
  rw [lines, splitAt_of_not_mem single, endLines, if_neg (by simpa using nonempty)]

end EventWiki.Text
