import EventWiki.Proofs.LetterCase
import EventWiki.Proofs.LineNesting

namespace EventWiki.Token

variable {mark : Char} {cs key rest before after : List Char} {kind : String} {token : Token}

theorem cutAt?_eq_some_iff :
    cutAt? mark cs = some (before, after) ↔ cs = before ++ mark :: after ∧ mark ∉ before := by
  induction cs generalizing before with
  | nil => simp [cutAt?]
  | cons c cs ih =>
      by_cases here : c = mark
      · subst here
        simp only [cutAt?, bne_self_eq_false, Bool.false_eq_true, not_false_eq_true,
          List.dropWhile_cons_of_neg, List.takeWhile_cons_of_neg, Option.some.injEq, Prod.mk.injEq]
        constructor
        · rintro ⟨rfl, rfl⟩
          simp
        · rintro ⟨parts, absent⟩
          cases before with
          | nil => simpa using parts
          | cons first before =>
              rw [List.cons_append, List.cons.injEq] at parts
              exact absurd (parts.1 ▸ List.mem_cons_self) absent
      · have later : cutAt? mark (c :: cs) = (cutAt? mark cs).map (Prod.map (c :: ·) id) := by
          simp only [cutAt?, bne_iff_ne.mpr here, List.dropWhile_cons_of_pos,
            List.takeWhile_cons_of_pos]
          cases cs.dropWhile (· != mark) <;> rfl
        rw [later, Option.map_eq_some_iff]
        constructor
        · rintro ⟨⟨front, behind⟩, found, same⟩
          obtain ⟨rfl, rfl⟩ := Prod.mk.inj same
          obtain ⟨rfl, absent⟩ := ih.mp found
          exact ⟨rfl, List.not_mem_cons_of_ne_of_not_mem (Ne.symm here) absent⟩
        · rintro ⟨parts, absent⟩
          cases before with
          | nil => exact absurd (List.cons.inj parts).1 here
          | cons first before =>
              rw [List.cons_append, List.cons.injEq] at parts
              rw [List.mem_cons, not_or] at absent
              exact ⟨(before, after), ih.mpr ⟨parts.2, absent.2⟩,
                by rw [parts.1, Prod.map_apply, id]⟩

theorem cutAt?_eq_none_iff : cutAt? mark cs = none ↔ mark ∉ cs := by
  have all : cs.dropWhile (· != mark) = [] ↔ mark ∉ cs := by
    rw [List.dropWhile_eq_nil_iff]
    simp only [bne_iff_ne]
    exact ⟨fun other member => other mark member rfl,
      fun absent c member same => absent (same ▸ member)⟩
  rw [← all, cutAt?]
  cases cs.dropWhile (· != mark) <;> simp

/-- The sign that cuts a statement: no sign of a higher rank is in the statement, and the sign does
not stand earlier in it. -/
structure CutBy (cs : List Char) (mark : Char) (key rest : List Char) : Prop where
  parts : cs = key ++ mark :: rest
  first : mark ∉ key
  rank : mark = '=' ∨ mark = '<' ∧ '=' ∉ cs ∨ mark = '>' ∧ '=' ∉ cs ∧ '<' ∉ cs

theorem cut?_eq (cs : List Char) :
    cut? cs = ((cutAt? '=' cs).map ('=', ·)).or
      (((cutAt? '<' cs).map ('<', ·)).or ((cutAt? '>' cs).map ('>', ·))) := by
  simp only [cut?, List.findSome?_cons, List.findSome?_nil]
  cases cutAt? '=' cs <;> cases cutAt? '<' cs <;> cases cutAt? '>' cs <;> rfl

theorem cut?_eq_none_iff : cut? cs = none ↔ '=' ∉ cs ∧ '<' ∉ cs ∧ '>' ∉ cs := by
  simp only [cut?_eq, Option.or_eq_none_iff, Option.map_eq_none_iff, cutAt?_eq_none_iff]

theorem cut?_eq_some_iff : cut? cs = some (mark, key, rest) ↔ CutBy cs mark key rest := by
  simp only [cut?_eq, Option.or_eq_some_iff, Option.map_eq_none_iff, Option.map_eq_some_iff,
    cutAt?_eq_none_iff, Prod.mk.injEq]
  constructor
  · rintro (⟨_, found, rfl, rfl⟩ | ⟨no_equal, ⟨_, found, rfl, rfl⟩ | ⟨no_less, _, found, rfl, rfl⟩⟩)
    · obtain ⟨parts, first⟩ := cutAt?_eq_some_iff.mp found
      exact ⟨parts, first, .inl rfl⟩
    · obtain ⟨parts, first⟩ := cutAt?_eq_some_iff.mp found
      exact ⟨parts, first, .inr (.inl ⟨rfl, no_equal⟩)⟩
    · obtain ⟨parts, first⟩ := cutAt?_eq_some_iff.mp found
      exact ⟨parts, first, .inr (.inr ⟨rfl, no_equal, no_less⟩)⟩
  · rintro ⟨parts, first, rfl | ⟨rfl, no_equal⟩ | ⟨rfl, no_equal, no_less⟩⟩
    · exact .inl ⟨_, cutAt?_eq_some_iff.mpr ⟨parts, first⟩, rfl, rfl⟩
    · exact .inr ⟨no_equal, .inl ⟨_, cutAt?_eq_some_iff.mpr ⟨parts, first⟩, rfl, rfl⟩⟩
    · exact .inr ⟨no_equal, .inr ⟨no_less, _, cutAt?_eq_some_iff.mpr ⟨parts, first⟩, rfl, rfl⟩⟩

theorem kind?_eq_some_iff : kind? key = some kind ↔
    kind = String.ofList (Text.trim key) ∧ Text.trim key ≠ [] ∧
      ∀ c ∈ Text.trim key, c ≠ '{' ∧ c ≠ '}' := by
  rw [kind?]
  split
  · next faulty =>
    simp only [reduceCtorEq, false_iff, not_and]
    intro _ filled no_brace
    simp only [Bool.or_eq_true, List.isEmpty_iff, List.any_eq_true, beq_iff_eq] at faulty
    rcases faulty with empty | ⟨c, member, brace⟩
    · exact filled empty
    · exact (not_or.mpr (no_brace c member)) brace
  · next sound =>
    simp only [Bool.or_eq_true, List.isEmpty_iff, List.any_eq_true, beq_iff_eq, not_or,
      not_exists, not_and] at sound
    simp only [Option.some.injEq]
    exact ⟨fun same => ⟨same.symm, sound.1, fun c member => sound.2 c member⟩,
      fun read => read.1.symm⟩

/-- The token of a statement with no sign, or with one. -/
inductive Reads (cs : List Char) : Token → Prop where
  | bare {kind : String} (unsigned : '=' ∉ cs ∧ '<' ∉ cs ∧ '>' ∉ cs)
      (named : kind? cs = some kind) : Reads cs (.bare kind)
  | compared {mark : Char} {key rest : List Char} {kind : String} (cut : CutBy cs mark key rest)
      (named : kind? (comparison mark key).1 = some kind) :
      Reads cs (.make kind (comparison mark key).2 (value? rest))

theorem ofStatement?_eq_some_iff : ofStatement? cs = some token ↔ Reads cs token := by
  rw [ofStatement?]
  constructor
  · intro read
    split at read
    · next uncut =>
      obtain ⟨kind, named, rfl⟩ := Option.map_eq_some_iff.mp read
      exact .bare (cut?_eq_none_iff.mp uncut) named
    · next mark key rest cut =>
      obtain ⟨kind, named, rfl⟩ := Option.map_eq_some_iff.mp read
      exact .compared (cut?_eq_some_iff.mp cut) named
  · rintro (⟨unsigned, named⟩ | ⟨cut, named⟩)
    · rw [cut?_eq_none_iff.mpr unsigned]
      simp [named]
    · rw [cut?_eq_some_iff.mpr cut]
      simp [named]

theorem read_eq_ok_iff {line : Nat} {text : String} :
    Token.read line text = .ok token ↔ Reads (Text.trim text.toList) token := by
  rw [Script.read_ok_iff, Script.tokenOf?, ofStatement?_eq_some_iff]

theorem comparison_sublist (mark : Char) (key : List Char) :
    List.Sublist (comparison mark key).1 key := by
  rw [comparison]
  split
  · split
    · exact List.dropLast_sublist key
    · exact List.dropLast_sublist key
    · exact List.Sublist.refl key
  · exact List.Sublist.refl key

/-- What the kind of a token that was read can be: small letters, trimmed, and without braces. -/
structure IsKind (kind : String) : Prop where
  filled : kind.toList ≠ []
  trimmed : Text.trim kind.toList = kind.toList
  small : ∀ c ∈ kind.toList, Text.IsSmall c
  no_brace : ∀ c ∈ kind.toList, c ≠ '{' ∧ c ≠ '}'

theorem isKind_of_kind? (named : kind? key = some kind) : IsKind (Text.lowerCase kind) := by
  obtain ⟨rfl, filled, no_brace⟩ := kind?_eq_some_iff.mp named
  rw [Text.lowerCase, String.toList_ofList]
  refine ⟨?_, ?_, ?_, ?_⟩ <;> rw [String.toList_ofList]
  · exact Text.lowerAfter_ne_nil filled
  · refine Text.trim_eq_self (fun c first => ?_) fun c last => ?_
    · by_contra blank
      rw [Bool.not_eq_false] at blank
      have before := Text.head?_of_lowerAfter (Text.unpartnered_of_isBlank blank) first
      rw [Text.isBlank_of_mem_head?_trim c before] at blank
      simp at blank
    · by_contra blank
      rw [Bool.not_eq_false] at blank
      have before := Text.getLast?_of_lowerAfter (Text.unpartnered_of_isBlank blank) last
      rw [Text.isBlank_of_mem_getLast?_trim c before] at blank
      simp at blank
  · exact fun c => Text.isSmall_of_mem_lowerAfter
  · refine fun c member => ⟨?_, ?_⟩
    · rintro rfl
      exact (no_brace '{' (Text.mem_of_mem_lowerAfter (by decide) member)).1 rfl
    · rintro rfl
      exact (no_brace '}' (Text.mem_of_mem_lowerAfter (by decide) member)).2 rfl

theorem Reads.isKind (reads : Reads cs token) : IsKind token.kind := by
  cases reads with
  | bare unsigned named => exact isKind_of_kind? named
  | compared cut named => exact isKind_of_kind? named

theorem mem_of_mem_kind (named : kind? key = some kind) {c : Char}
    (unpartnered : Text.unpartneredRanges.contains c = true)
    (member : c ∈ (Text.lowerCase kind).toList) : c ∈ key := by
  obtain ⟨rfl, _⟩ := kind?_eq_some_iff.mp named
  rw [Text.lowerCase, String.toList_ofList, String.toList_ofList] at member
  exact Text.mem_of_mem_trim (Text.mem_of_mem_lowerAfter unpartnered member)

theorem Reads.mem_of_mem_kind (reads : Reads cs token) {c : Char}
    (unpartnered : Text.unpartneredRanges.contains c = true)
    (member : c ∈ token.kind.toList) : c ∈ cs := by
  cases reads with
  | bare unsigned named => exact Token.mem_of_mem_kind named unpartnered member
  | compared cut named =>
      have in_key := (comparison_sublist ..).subset
        (Token.mem_of_mem_kind named unpartnered member)
      rw [cut.parts]
      exact List.mem_append_left _ in_key

end EventWiki.Token
