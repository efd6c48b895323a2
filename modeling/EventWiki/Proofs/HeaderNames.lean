import EventWiki.Proofs.WrittenLines
import EventWiki.Rulebook.Loading

namespace EventWiki.Script

/-! The scan for headers stops at the first sign, while a token is cut at the first equals sign,
wherever that stands. -/

/-- A header, without its brace, in which at most one operator stands. -/
inductive AtMostOneOperator (header : List Char) : Prop where
  | none (unsigned : Unsigned header)
  | one (front : List Char) (comparison : Comparison) (back : List Char)
      (parts : header = front ++ (comparison.symbol ++ back))
      (front_unsigned : Unsigned front) (back_unsigned : Unsigned back)

theorem Unsigned.of_subset {cs part : List Char} (unsigned : Unsigned cs) (inside : part ⊆ cs) :
    Unsigned part where
  no_equal member := unsigned.no_equal (inside member)
  no_less member := unsigned.no_less (inside member)
  no_more member := unsigned.no_more (inside member)

theorem Unsigned.precedes {cs : List Char} (unsigned : Unsigned cs) (comparison : Comparison) :
    comparison.Precedes cs := by
  cases comparison with
  | equal | atMost | atLeast => trivial
  | less => exact unsigned.no_equal
  | more => exact ⟨unsigned.no_equal, unsigned.no_less⟩

theorem Unsigned.headerName_append {front rest : List Char} (unsigned : Unsigned front)
    (stops : ∀ c ∈ rest.head?, c = '=' ∨ c = '<' ∨ c = '>') :
    headerName (front ++ rest) = Text.lowerCase (String.ofList (Text.trim front)) := by
  have inside : ∀ c ∈ front, (c != '=' && c != '<' && c != '>') = true := by
    intro c member
    simp only [Bool.and_eq_true, bne_iff_ne]
    exact ⟨⟨ne_of_mem_of_not_mem member unsigned.no_equal,
      ne_of_mem_of_not_mem member unsigned.no_less⟩, ne_of_mem_of_not_mem member unsigned.no_more⟩
  have rest_out : rest.takeWhile (fun c => c != '=' && c != '<' && c != '>') = [] := by
    cases rest with
    | nil => rfl
    | cons sign rest =>
        rcases stops sign rfl with rfl | rfl | rfl <;> rfl
  rw [headerName, List.takeWhile_append_of_pos inside, rest_out, List.append_nil]

/-- The name of a header with at most one operator is the kind of its token. -/
theorem headerName_eq {header : String} {token : Token}
    (single : AtMostOneOperator header.toList) (read : tokenOf? header = some token) :
    headerName header.toList = token.kind := by
  rw [tokenOf?] at read
  cases single with
  | none unsigned =>
      have trimmed := unsigned.of_subset fun _ => Text.mem_of_mem_trim
      rw [Token.ofStatement?, Token.cut?_eq_none_iff.mpr
        ⟨trimmed.no_equal, trimmed.no_less, trimmed.no_more⟩] at read
      obtain ⟨kind, named, rfl⟩ := Option.map_eq_some_iff.mp read
      obtain ⟨rfl, _⟩ := Token.kind?_eq_some_iff.mp named
      rw [← List.append_nil header.toList, unsigned.headerName_append (by simp), Text.trim_trim,
        List.append_nil]
      rfl
  | one front comparison back parts front_unsigned back_unsigned =>
      have symbol_filled : comparison.symbol ≠ [] := by cases comparison <;> decide
      have symbol_visible : ∀ c ∈ comparison.symbol, Text.isBlank c = false := by
        cases comparison <;> simp [Comparison.symbol] <;> decide
      have symbol_first : ∀ c ∈ comparison.symbol.head?, c = '=' ∨ c = '<' ∨ c = '>' := by
        cases comparison <;> simp [Comparison.symbol]
      have behind : Unsigned (Text.dropEndWhile Text.isBlank back) := by
        refine back_unsigned.of_subset fun c member => ?_
        exact List.mem_reverse.mp ((List.dropWhile_sublist _).subset (List.mem_reverse.mp member))
      -- Trimming the header takes nothing from its operator, which cuts what is left of it.
      obtain ⟨mark, key, cut, compared⟩ := comparison.cut?_eq
        (front_unsigned.of_subset (List.dropWhile_sublist Text.isBlank).subset)
        (behind.precedes comparison)
      rw [parts, Text.trim_append_append symbol_filled symbol_visible, Token.ofStatement?, cut]
        at read
      simp only [compared] at read
      obtain ⟨kind, named, rfl⟩ := Option.map_eq_some_iff.mp read
      obtain ⟨rfl, _⟩ := Token.kind?_eq_some_iff.mp named
      rw [parts, front_unsigned.headerName_append, Text.trim_dropWhile]
      · rfl
      · rwa [List.head?_append_of_ne_nil _ symbol_filled]

end EventWiki.Script
