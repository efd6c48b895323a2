import EventWiki.Proofs.TokenCut

namespace EventWiki.Token

/-! A negated comparison is shown with the sign of its partner, and a value without the quotes
that made it one, so not every token that was read is read back. -/

variable {token : Token} {kind : String} {sign : Char} {value rest : List Char}

theorem IsKind.lowerCase_eq (is_kind : IsKind kind) : Text.lowerCase kind = kind := by
  rw [Text.lowerCase, Text.lowerAfter_of_isSmall is_kind.small, String.ofList_toList]

theorem IsKind.kind?_eq (is_kind : IsKind kind) : kind? kind.toList = some kind := by
  rw [kind?_eq_some_iff, is_kind.trimmed, String.ofList_toList]
  exact ⟨rfl, is_kind.filled, is_kind.no_brace⟩

theorem IsKind.kind?_concat (is_kind : IsKind kind) : kind? (kind.toList ++ [' ']) = some kind := by
  rw [kind?_eq_some_iff, Text.trim_concat_of_blank (by decide), is_kind.trimmed,
    String.ofList_toList]
  exact ⟨rfl, is_kind.filled, is_kind.no_brace⟩

theorem IsKind.make_eq (is_kind : IsKind kind) (operator : Option Operator)
    (value : Option String) : make kind operator value = ⟨kind, operator, value⟩ := by
  rw [make, is_kind.lowerCase_eq]

def shown (kind : String) (sign : Char) (value : List Char) : List Char :=
  kind.toList ++ ' ' :: sign :: ' ' :: value

theorem comparison_concat_space (key : List Char) :
    comparison sign (key ++ [' ']) = (key ++ [' '], Operator.ofSymbol? sign) := by
  rw [comparison]
  split
  · next equal =>
    rw [equal, List.getLast?_concat]
    rfl
  · rfl

theorem reads_shown (is_kind : IsKind kind) (absent : sign ∉ kind.toList) (visible : sign ≠ ' ')
    (rank : sign = '=' ∨ sign = '<' ∧ '=' ∉ shown kind sign value ∨
      sign = '>' ∧ '=' ∉ shown kind sign value ∧ '<' ∉ shown kind sign value) :
    Reads (shown kind sign value) ⟨kind, Operator.ofSymbol? sign, value? (' ' :: value)⟩ := by
  have cut : CutBy (shown kind sign value) sign (kind.toList ++ [' ']) (' ' :: value) := by
    refine ⟨by simp [shown], ?_, rank⟩
    simp [absent, visible]
  have named : kind? (comparison sign (kind.toList ++ [' '])).1 = some kind := by
    rw [comparison_concat_space]
    exact is_kind.kind?_concat
  have reads := Reads.compared cut named
  rwa [comparison_concat_space, is_kind.make_eq] at reads

theorem Reads.unique {cs : List Char} {other : Token} (reads : Reads cs token)
    (again : Reads cs other) : token = other :=
  Option.some.inj ((ofStatement?_eq_some_iff.mpr reads).symm.trans
    (ofStatement?_eq_some_iff.mpr again))

theorem value?_cons_space_iff (filled : value ≠ []) (trimmed : Text.trim value = value) :
    value? (' ' :: value) = some (String.ofList value) ↔
      value.head? ≠ some '"' ∧ value.getLast? ≠ some '"' := by
  rw [value?, Text.trim_cons_of_blank (by decide), trimmed]
  constructor
  · intro read
    have same : Text.trim (Text.unquoted value) = value := by
      split at read
      · simp at read
      · simpa using congrArg String.toList (Option.some.inj read)
    have shorter {inner : List Char} (eq : Text.unquoted value = Text.unquoted inner) :
        value.length ≤ inner.length := by
      rw [← same, eq]
      exact ((Text.dropAround_sublist _ _).trans (Text.dropAround_sublist _ _)).length_le
    constructor
    · intro quote
      obtain ⟨inner, rfl⟩ := List.head?_eq_some_iff.mp quote
      have bound := shorter (Text.unquoted_cons_quote inner)
      simp at bound
    · intro quote
      obtain ⟨inner, rfl⟩ := List.getLast?_eq_some_iff.mp quote
      have bound := shorter (Text.unquoted_concat_quote inner)
      simp at bound
  · rintro ⟨first, last⟩
    have unquoted : Text.unquoted value = value :=
      Text.dropAround_eq_self (fun c head => by
          rw [beq_eq_false_iff_ne]
          rintro rfl
          exact first head)
        fun c head => by
          rw [beq_eq_false_iff_ne]
          rintro rfl
          exact last head
    rw [unquoted, trimmed, if_neg (by simpa using filled)]

theorem filled_of_value? {value : String} (read : value? rest = some value) :
    value.toList ≠ [] ∧ Text.trim value.toList = value.toList ∧ value.toList ⊆ rest := by
  rw [value?] at read
  split at read
  · simp at read
  · next filled =>
    rw [← Option.some.inj read, String.toList_ofList]
    refine ⟨by simpa using filled, Text.trim_trim _, fun c member => ?_⟩
    exact Text.mem_of_mem_trim ((Text.dropAround_sublist _ _).subset (Text.mem_of_mem_trim member))

theorem length_lt_length_trim {front back : List Char} {c : Char} (filled : front ≠ [])
    (first : ∀ c ∈ front.head?, Text.isBlank c = false) (visible : Text.isBlank c = false) :
    front.length < (Text.trim (front ++ c :: back)).length := by
  obtain ⟨tail, parts, blank⟩ :=
    Text.dropEndWhile_append_tail Text.isBlank (front ++ c :: back)
  have kept : (front ++ c :: back).dropWhile Text.isBlank = front ++ c :: back := by
    refine Text.dropWhile_eq_self ?_
    rwa [List.head?_append_of_ne_nil _ filled]
  rw [Text.trim, Text.dropAround, kept]
  by_contra short
  have here : (front ++ c :: back)[front.length]? = some c := by simp
  rw [parts, List.getElem?_append_right (Nat.not_lt.mp short)] at here
  rw [blank c (List.mem_of_getElem? here)] at visible
  simp at visible

theorem length_le_of_kind? {key : List Char} (named : kind? key = some kind) :
    (Text.trim key).length ≤ (Text.lowerCase kind).toList.length := by
  obtain ⟨rfl, _⟩ := kind?_eq_some_iff.mp named
  rw [Text.lowerCase, String.toList_ofList, String.toList_ofList]
  exact Text.length_le_lowerAfter _ _

theorem eq_equal_of_negated {mark : Char} {key : List Char}
    (negated : (comparison mark key).2 = some .notLess ∨ (comparison mark key).2 = some .notMore) :
    mark = '=' := by
  by_contra other
  rw [comparison, if_neg other, Operator.ofSymbol?.eq_def] at negated
  split at negated <;> simp at negated

/-- A comparison that is shown with a bracket is not read as a negated one of the same kind. -/
theorem not_reads_shown_of_negated (is_kind : IsKind kind) (no_equal : '=' ∉ kind.toList)
    (bracket : sign ≠ '=') (visible : Text.isBlank sign = false) (same : token.kind = kind)
    (negated : token.operator = some .notLess ∨ token.operator = some .notMore) :
    ¬ Reads (shown kind sign value) token := by
  intro reads
  cases reads with
  | bare unsigned named => simp [bare] at negated
  | @compared mark key rest name cut named =>
      obtain rfl := eq_equal_of_negated negated
      -- The first equals sign stands in the value, so the key goes on behind the bracket.
      have longer : ∃ behind, behind ≠ [] ∧ key = kind.toList ++ ' ' :: sign :: behind := by
        have parts : key ++ '=' :: rest = (kind.toList ++ [' ', sign]) ++ ' ' :: value := by
          rw [← cut.parts, shown]
          simp
        rcases List.append_eq_append_iff.mp parts with
          ⟨front, inside, tail⟩ | ⟨behind, key_eq, tail⟩
        · cases front with
          | nil => simp at tail
          | cons first front =>
              have equal : '=' ∈ kind.toList ++ [' ', sign] := by
                rw [inside, (List.cons.inj tail).1]
                simp
              simp [no_equal, Ne.symm bracket] at equal
        · refine ⟨behind, ?_, by simpa using key_eq⟩
          rintro rfl
          simp at tail
      obtain ⟨behind, filled, rfl⟩ := longer
      have kept : ∃ back, (comparison '=' (kind.toList ++ ' ' :: sign :: behind)).1 =
          (kind.toList ++ [' ']) ++ sign :: back := by
        have shorter : (kind.toList ++ ' ' :: sign :: behind).dropLast =
            (kind.toList ++ [' ']) ++ sign :: behind.dropLast := by
          simp [List.dropLast_append_of_ne_nil, List.dropLast_cons_of_ne_nil filled]
        rw [comparison, if_pos rfl]
        split
        · exact ⟨_, shorter⟩
        · exact ⟨_, shorter⟩
        · exact ⟨behind, by simp⟩
      obtain ⟨back, key_eq⟩ := kept
      have bound := length_le_of_kind? named
      rw [kind_make] at same
      rw [key_eq, same] at bound
      have first : ∀ c ∈ (kind.toList ++ [' ']).head?, Text.isBlank c = false := by
        rw [List.head?_append_of_ne_nil _ is_kind.filled, ← is_kind.trimmed]
        exact Text.isBlank_of_mem_head?_trim
      have beyond : (kind.toList ++ [' ']).length <
          (Text.trim ((kind.toList ++ [' ']) ++ sign :: back)).length :=
        length_lt_length_trim (by simp) first visible
      rw [List.length_append] at beyond
      omega

/-- A comparison without a value is not read back: its sign is not shown. -/
theorem not_reads_kind (is_kind : IsKind kind) (same : token.kind = kind)
    (compared : token.operator ≠ none) : ¬ Reads kind.toList token := by
  intro reads
  cases reads with
  | bare unsigned named => exact compared rfl
  | @compared mark key rest name cut named =>
      obtain ⟨rfl, _⟩ := kind?_eq_some_iff.mp named
      have inside : List.Sublist (Text.trim (comparison mark key).1) key :=
        (Text.dropAround_sublist _ _).trans (comparison_sublist mark key)
      have small : ∀ c ∈ Text.trim (comparison mark key).1, Text.IsSmall c := fun c member =>
        is_kind.small c (cut.parts ▸ List.mem_append_left _ (inside.subset member))
      have kind_eq : Text.trim (comparison mark key).1 = kind.toList := by
        rw [← same, kind_make, Text.lowerCase, String.toList_ofList, String.toList_ofList,
          Text.lowerAfter_of_isSmall small]
      have bound := inside.length_le
      have length_eq := congrArg List.length cut.parts
      rw [List.length_append, List.length_cons] at length_eq
      rw [kind_eq] at bound
      omega

/-- Whether a token says nothing that it is not shown with. -/
def IsShownWhole (token : Token) : Prop :=
  token.operator = none ∨
    (token.operator = some .equal ∨ token.operator = some .less ∨ token.operator = some .more) ∧
      ∃ value, token.value = some value ∧
        value.toList.head? ≠ some '"' ∧ value.toList.getLast? ≠ some '"'

@[simp] theorem kind_bare (kind : String) : (bare kind).kind = Text.lowerCase kind := rfl

@[simp] theorem display_bare (kind : String) : (bare kind).display = Text.lowerCase kind := rfl

@[simp] theorem display_make_none (kind : String) (operator : Option Operator) :
    (make kind operator none).display = Text.lowerCase kind := rfl

theorem display_value (kind : String) (operator : Operator) (value : String) :
    (Token.mk kind (some operator) (some value)).display =
      kind ++ " " ++ operator.symbol ++ " " ++ value := rfl

theorem toList_display {operator : Operator} (sign_eq : operator.symbol.toList = [sign])
    (kind value : String) :
    (Token.mk kind (some operator) (some value)).display.toList =
      shown kind sign value.toList := by
  rw [display_value, shown]
  simp [sign_eq]

theorem trim_shown (is_kind : IsKind kind) (filled : value ≠ [])
    (trimmed : Text.trim value = value) :
    Text.trim (shown kind sign value) = shown kind sign value := by
  refine Text.trim_eq_self ?_ ?_
  · rw [shown, List.head?_append_of_ne_nil _ is_kind.filled, ← is_kind.trimmed]
    exact Text.isBlank_of_mem_head?_trim
  · have last : (shown kind sign value).getLast? = value.getLast? := by
      have parts : shown kind sign value = (kind.toList ++ [' ', sign, ' ']) ++ value := by
        simp [shown]
      rw [parts, List.getLast?_append_of_ne_nil _ filled]
    rw [last, ← trimmed]
    exact Text.isBlank_of_mem_getLast?_trim

theorem reads_shown_iff {operator : Operator} {value : String} (is_kind : IsKind kind)
    (sign_eq : Operator.ofSymbol? sign = some operator) (absent : sign ∉ kind.toList)
    (rank : sign = '=' ∨ sign = '<' ∧ '=' ∉ shown kind sign value.toList ∨
      sign = '>' ∧ '=' ∉ shown kind sign value.toList ∧ '<' ∉ shown kind sign value.toList)
    (filled : value.toList ≠ []) (trimmed : Text.trim value.toList = value.toList) :
    Reads (shown kind sign value.toList) ⟨kind, some operator, some value⟩ ↔
      value.toList.head? ≠ some '"' ∧ value.toList.getLast? ≠ some '"' := by
  have visible : sign ≠ ' ' := by
    rintro rfl
    simp [Operator.ofSymbol?] at sign_eq
  have reads := reads_shown is_kind absent visible rank
  rw [sign_eq] at reads
  rw [← value?_cons_space_iff filled trimmed, String.ofList_toList]
  constructor
  · intro again
    exact (Token.mk.inj (reads.unique again)).2.2
  · intro kept
    rwa [kept] at reads

theorem read_shown_iff {operator : Operator} {value : String} (is_kind : IsKind kind)
    (plain : operator = .equal ∨ operator = .less ∨ operator = .more)
    (sign_eq : Operator.ofSymbol? sign = some operator)
    (symbol_eq : operator.symbol.toList = [sign]) (absent : sign ∉ kind.toList)
    (rank : sign = '=' ∨ sign = '<' ∧ '=' ∉ shown kind sign value.toList ∨
      sign = '>' ∧ '=' ∉ shown kind sign value.toList ∧ '<' ∉ shown kind sign value.toList)
    (filled : value.toList ≠ []) (trimmed : Text.trim value.toList = value.toList) :
    Reads (Text.trim (Token.mk kind (some operator) (some value)).display.toList)
        ⟨kind, some operator, some value⟩ ↔
      IsShownWhole ⟨kind, some operator, some value⟩ := by
  rw [toList_display symbol_eq, trim_shown is_kind filled trimmed,
    reads_shown_iff is_kind sign_eq absent rank filled trimmed]
  simp [IsShownWhole, plain]

theorem read_shown_negated_iff {operator : Option Operator} {value : String}
    (is_kind : IsKind kind) (negated : operator = some .notLess ∨ operator = some .notMore)
    (no_equal : '=' ∉ kind.toList) (filled : value.toList ≠ [])
    (trimmed : Text.trim value.toList = value.toList) :
    Reads (Text.trim (Token.mk kind operator (some value)).display.toList)
        ⟨kind, operator, some value⟩ ↔
      IsShownWhole ⟨kind, operator, some value⟩ := by
  have symbol : ∃ plain sign, operator = some plain ∧ plain.symbol.toList = [sign] ∧
      sign ≠ '=' ∧ Text.isBlank sign = false := by
    rcases negated with rfl | rfl
    · exact ⟨_, '<', rfl, rfl, by decide, by decide⟩
    · exact ⟨_, '>', rfl, rfl, by decide, by decide⟩
  obtain ⟨plain, sign, operator_eq, symbol_eq, bracket, visible⟩ := symbol
  subst operator_eq
  refine iff_of_false ?_ ?_
  · rw [toList_display symbol_eq, trim_shown is_kind filled trimmed]
    exact not_reads_shown_of_negated is_kind no_equal bracket visible rfl negated
  · rcases negated with negated | negated <;> simp [IsShownWhole, Option.some.inj negated]

theorem CutBy.comparison_ne_none {cs key rest : List Char} {mark : Char}
    (cut : CutBy cs mark key rest) : (comparison mark key).2 ≠ none := by
  rcases cut.rank with rfl | ⟨rfl, _⟩ | ⟨rfl, _⟩
  · rw [comparison, if_pos rfl]
    split <;> simp
  · simp [comparison, Operator.ofSymbol?]
  · simp [comparison, Operator.ofSymbol?]

theorem comparison_equal_cases (key : List Char) :
    (comparison '=' key).2 = some .equal ∨ (comparison '=' key).2 = some .notLess ∨
      (comparison '=' key).2 = some .notMore := by
  rw [comparison, if_pos rfl]
  split <;> simp

theorem reads_display_bare {cs : List Char} {name : String}
    (unsigned : '=' ∉ cs ∧ '<' ∉ cs ∧ '>' ∉ cs) (named : kind? cs = some name) :
    Reads (Text.trim (bare name).display.toList) (bare name) := by
  have is_kind := isKind_of_kind? named
  have kept {c : Char} (unpartnered : Text.unpartneredRanges.contains c = true)
      (absent : c ∉ cs) : c ∉ (Text.lowerCase name).toList :=
    fun member => absent (mem_of_mem_kind named unpartnered member)
  have again := Reads.bare ⟨kept (by decide) unsigned.1, kept (by decide) unsigned.2.1,
    kept (by decide) unsigned.2.2⟩ is_kind.kind?_eq
  rw [bare, is_kind.make_eq] at again
  rw [display_bare, is_kind.trimmed]
  exact again

/-- A token that was read is read again from the text that it is shown with if and only if it has no
comparison, or a plain one and a value without quotes at its ends. -/
theorem read_display_iff {line other : Nat} {text : String}
    (read : Token.read line text = .ok token) :
    Token.read other token.display = .ok token ↔ token.IsShownWhole := by
  rw [read_eq_ok_iff]
  have reads := read_eq_ok_iff.mp read
  have is_kind := reads.isKind
  cases reads with
  | bare unsigned named => exact iff_of_true (reads_display_bare unsigned named) (.inl rfl)
  | @compared mark key rest name cut named =>
      rw [kind_make] at is_kind
      have kept {c : Char} (unpartnered : Text.unpartneredRanges.contains c = true)
          (absent : c ∉ key) : c ∉ (Text.lowerCase name).toList :=
        fun member => absent ((comparison_sublist mark key).subset
          (mem_of_mem_kind named unpartnered member))
      have compared := cut.comparison_ne_none
      cases value_eq : value? rest with
      | none =>
          refine iff_of_false ?_ (by simp [IsShownWhole, make, compared])
          rw [display_make_none, is_kind.trimmed]
          exact not_reads_kind is_kind rfl compared
      | some value =>
          obtain ⟨filled, trimmed, inside⟩ := filled_of_value? value_eq
          have outside {c : Char} (unpartnered : Text.unpartneredRanges.contains c = true)
              (other : c ≠ ' ' ∧ c ≠ mark) (absent : c ∉ Text.trim text.toList) :
              c ∉ shown (Text.lowerCase name) mark value.toList := by
            rw [cut.parts, List.mem_append, List.mem_cons, not_or, not_or] at absent
            have no_value : c ∉ value.toList := fun member => absent.2.2 (inside member)
            simp [shown, kept unpartnered absent.1, other, no_value]
          rcases cut.rank with rfl | ⟨rfl, no_equal⟩ | ⟨rfl, no_equal, no_less⟩
          · have absent := kept (by decide) cut.first
            rcases comparison_equal_cases key with equal | negated
            · rw [equal, make]
              exact read_shown_iff is_kind (.inl rfl) rfl rfl absent (.inl rfl) filled trimmed
            · rw [make]
              exact read_shown_negated_iff is_kind negated absent filled trimmed
          · rw [make, comparison, if_neg (by decide)]
            have absent := kept (by decide) cut.first
            have rank := outside (by decide) (by decide) no_equal
            exact read_shown_iff is_kind (.inr (.inl rfl)) rfl rfl absent (.inr (.inl ⟨rfl, rank⟩))
              filled trimmed
          · rw [make, comparison, if_neg (by decide)]
            have absent := kept (by decide) cut.first
            have rank := outside (by decide) (by decide) no_equal
            have rank' := outside (by decide) (by decide) no_less
            exact read_shown_iff is_kind (.inr (.inr rfl)) rfl rfl absent
              (.inr (.inr ⟨rfl, rank, rank'⟩)) filled trimmed

theorem read_display_of_less :
    Token.read 1 "Prestige < 5" = .ok ⟨"prestige", some .less, some "5"⟩ ∧
      Token.read 1 (Token.mk "prestige" (some .less) (some "5")).display =
        .ok ⟨"prestige", some .less, some "5"⟩ := by
  have read : Token.read 1 "Prestige < 5" = .ok ⟨"prestige", some .less, some "5"⟩ := by
    decide +kernel
  exact ⟨read, (read_display_iff read).mpr
    (.inr ⟨.inr (.inl rfl), "5", rfl, by decide, by decide⟩)⟩

/-- A lower bound is shown as the opposite comparison. -/
theorem read_display_of_notLess :
    Token.read 1 "prestige >= 5" = .ok ⟨"prestige", some .notLess, some "5"⟩ ∧
      (Token.mk "prestige" (some .notLess) (some "5")).display = "prestige < 5" ∧
      Token.read 1 "prestige < 5" ≠ .ok ⟨"prestige", some .notLess, some "5"⟩ := by
  decide +kernel

end EventWiki.Token
