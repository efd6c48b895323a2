import EventWiki.Proofs.DoubleInversion
import EventWiki.Proofs.ReplacedLines
import EventWiki.Proofs.StatementGaps
import EventWiki.Proofs.WrittenComparison

namespace EventWiki

def Token.opposite (token : Token) : Token :=
  { token with operator := token.operator.map Operator.negate }

namespace Token

@[simp] theorem kind_opposite (token : Token) : token.opposite.kind = token.kind := rfl

@[simp] theorem value_opposite (token : Token) : token.opposite.value = token.value := rfl

@[simp] theorem negated_opposite (token : Token) : token.opposite.negated = token.negated := rfl

end Token

namespace Rulebook

variable {book : Rulebook}

@[simp] theorem formatValue_opposite (book : Rulebook) (token : Token) (kind : ValueKind)
    (template : Option Template) :
    book.formatValue token.opposite kind template = book.formatValue token kind template := rfl

/-- The key of the template for a token, but for the exceptions of the block it stands in. -/
def wordingKey (book : Rulebook) (token : Token) : String :=
  (book.variation? token.kind).getD (book.templateKey none token)

/-- A block takes up a comparison like an inversion block in it, and the wording of the comparison
has a place for its operator. -/
structure Compares (book : Rulebook) (block inverter : String) (token : Token) : Prop where
  untitled : book.namingKinds? block = none
  unmerged : book.slots? block = none
  usual : book.isParentException block token.kind = false
  usual_inverted : book.isParentException inverter token.kind = false
  operator_aware : book.isOperatorAware (Text.lowerCase (book.wordingKey token)) = true

theorem substitute_negate (book : Rulebook) (template : Template) (operator : Operator)
    (inverted : Bool) (values : List String) :
    book.substitute template (some operator.negate) inverted values =
      book.substitute template (some operator) (!inverted) values := by
  cases inverted <;> simp [substitute]

theorem formatStatement_of_operatorAware {key : String}
    (operator_aware : book.isOperatorAware (Text.lowerCase key) = true) : ∃ template,
    ∀ operator inverted values, book.formatStatement key operator inverted values =
      .ok (book.substitute template operator inverted values) := by
  obtain ⟨template, found⟩ : ∃ template, book.template? (Text.lowerCase key) = some template := by
    rw [isOperatorAware_eq] at operator_aware
    rw [← Option.isSome_iff_exists]
    exact Option.isSome_of_any operator_aware
  refine ⟨template, fun operator inverted values => ?_⟩
  simp only [formatStatement, operator_aware, Bool.not_true, Bool.and_false, Bool.false_eq_true,
    if_false, found]

theorem localize_opposite {block inverter : String} {token : Token} {operator : Operator}
    (compares : book.Compares block inverter token) (compared : token.operator = some operator)
    (inverted : Bool) :
    book.localize (some block) token.opposite inverted =
      book.localize (some inverter) token (!inverted) := by
  have block_key : book.templateKey (some block) token.opposite = book.templateKey none token :=
    book.templateKey_of_usual (token.opposite) compares.usual
  have inverter_key := book.templateKey_of_usual token compares.usual_inverted
  have operator_eq : token.opposite.operator = some operator.negate := by
    rw [Token.opposite, compared]
    rfl
  obtain ⟨template, format_eq⟩ := formatStatement_of_operatorAware compares.operator_aware
  -- The operator is negated on one side and the inversion on the other, in the same template.
  unfold localize
  rw [wordingKey] at format_eq
  cases variation : book.variation? token.kind with
  | some canonical =>
      rw [variation, Option.getD_some] at format_eq
      simp only [Token.kind_opposite, variation, operator_eq, compared, formatValue_opposite,
        format_eq, substitute_negate]
  | none =>
      rw [variation, Option.getD_none] at format_eq
      simp only [Token.kind_opposite, Token.value_opposite, variation, operator_eq, compared,
        block_key, inverter_key, formatValue_opposite, format_eq, substitute_negate]

theorem role_of_leaf (book : Rulebook) (depth : Nat) {kind : String}
    (upright : isInversion kind = false) :
    book.role depth kind true = if depth ≤ 1 then .hidden else .plain := by
  simp only [role, upright, Bool.false_eq_true, if_false, if_true]

theorem visit_opposite {block inverter : String} {token : Token} {operator : Operator}
    (compares : book.Compares block inverter token) (compared : token.operator = some operator)
    (upright : isInversion token.kind = false) (depth : Nat) (inherited : Bool) :
    book.visit depth block inherited (.mk token.opposite []) =
      book.visit depth inverter (!inherited) (.mk token []) := by
  have inverted_eq : ((!inherited) != token.negated) = !(inherited != token.negated) := by
    cases inherited <;> cases token.negated <;> rfl
  rw [visit, visit, Token.kind_opposite, List.isEmpty_nil, book.role_of_leaf depth upright]
  by_cases shallow : depth ≤ 1
  · simp only [shallow, if_true]
  · simp only [shallow, if_false, Token.negated_opposite, inverted_eq,
      localize_opposite compares compared]

theorem Compares.interchangeable {block inverter token : Token} {operator : Operator}
    (compares : book.Compares block.kind inverter.kind token)
    (compared : token.operator = some operator) (upright : isInversion token.kind = false)
    (inverts : isInversion inverter.kind = true) :
    book.Interchangeable block [.mk inverter [.mk token []]] [.mk token.opposite []] where
  untitled := compares.untitled
  unmerged := compares.unmerged
  isEmpty_eq := rfl
  visitAll_eq depth inherited := by
    rw [visitAll_singleton, visit_inversion inverts, visitAll_singleton, visitAll_singleton,
      visit_opposite compares compared upright]

end Rulebook

namespace Script

inductive Comparison.Opposite : Comparison → Comparison → Prop where
  | less : Opposite .less .atLeast
  | more : Opposite .more .atMost
  | atMost : Opposite .atMost .more
  | atLeast : Opposite .atLeast .less

/-- The same words with the opposite comparison between them. -/
structure ComparisonText.Opposes (text other : ComparisonText) : Prop where
  key_eq : other.lead.key.chars = text.lead.key.chars
  value_eq : other.value.chars = text.value.chars
  opposite : text.lead.comparison.Opposite other.lead.comparison

structure NegatedText where
  header : Lead
  inverts : isInversion (header.token none).kind = true
  front : List Char
  comparison : ComparisonText
  back : List Char
  front_filler : Filler front
  back_filler : Filler back

def NegatedText.chars (negated : NegatedText) : List Char :=
  negated.header.chars ++ '{' :: (negated.front ++
    (negated.comparison.chars ++ (negated.back ++ ['}'])))

theorem Comparison.Opposite.operator_eq {comparison other : Comparison}
    (opposite : comparison.Opposite other) : other.operator = comparison.operator.negate := by
  cases opposite <;> rfl

theorem ComparisonText.Opposes.token_eq {text other : ComparisonText}
    (opposes : text.Opposes other) : other.token = text.token.opposite := by
  simp only [token, Lead.token, Token.opposite, opposes.key_eq, opposes.value_eq,
    opposes.opposite.operator_eq, Token.make, Option.map_some]

theorem NegatedText.sourceStatements_append (negated : NegatedText) (after : List Char) :
    sourceStatements (negated.chars ++ after) =
      (negated.header.chars ++ ['{']) :: negated.comparison.chars :: ['}'] ::
        sourceStatements after := by
  have parts : negated.chars ++ after = negated.header.chars ++ '{' :: (negated.front ++
      (negated.comparison.chars ++ (negated.back ++ '}' :: after))) := by
    simp [chars]
  have opening := negated.header.codeLine.sourceStatements_append_brace (.inl rfl)
    (negated.front ++ (negated.comparison.chars ++ (negated.back ++ '}' :: after)))
  have closing : sourceStatements ('}' :: after) = ['}'] :: sourceStatements after :=
    CodeLine.nil.sourceStatements_append_brace (.inr rfl) after
  rw [parts, opening, negated.header.settled_header.statements_eq,
    negated.front_filler.sourceStatements_append,
    negated.comparison.codeLine.sourceStatements_filler_closing negated.back_filler,
    negated.comparison.settled.statements_eq, closing]
  rfl

theorem NegatedText.steps?_lines (negated : NegatedText) (nest : Nest) :
    nest.steps? [String.ofList (negated.header.chars ++ ['{']),
        String.ofList negated.comparison.chars, String.ofList ['}']] =
      some (nest.add (.mk (negated.header.token none) [.mk negated.comparison.token []])) := by
  have closed : ∀ open_nest : Nest, open_nest.step? (String.ofList ['}']) = open_nest.close? := by
    intro open_nest
    rw [Nest.step?, ofLine_closing]
  rw [Nest.steps?, negated.header.step?_header, Option.bind_some, Nest.steps?,
    negated.comparison.step?_chars, Option.bind_some, Nest.steps?, closed]
  rfl

theorem NegatedText.joinBraces_lines (negated : NegatedText) (lines : List (List Char)) :
    joinBraces ((negated.header.chars ++ ['{']) :: negated.comparison.chars :: ['}'] :: lines) =
      (negated.header.chars ++ ['{']) :: negated.comparison.chars :: ['}'] :: joinBraces lines := by
  have full : takesBrace (negated.header.chars ++ ['{']) = false := by simp [takesBrace]
  rw [joinBraces_cons fun _ => full, joinBraces_cons fun alone => by simp at alone,
    joinBraces_cons fun _ => by decide]

section

variable {before after : String} (own : OnOwnLines before.toList after.toList)
include own

theorem NegatedText.normalize_eq (negated : NegatedText) :
    normalize (before ++ String.ofList negated.chars ++ after) =
      normalize before ++ [String.ofList (negated.header.chars ++ ['{']),
        String.ofList negated.comparison.chars, String.ofList ['}']] ++
        (joinBraces (sourceStatements after.toList)).map String.ofList := by
  rw [own.normalize_eq negated.header.header_ne_brace
    (negated.sourceStatements_append after.toList), negated.joinBraces_lines]
  simp

theorem ComparisonText.normalize_eq (text : ComparisonText)
    (apart : (sourceStatements after.toList).head? ≠ some ['{']) :
    normalize (before ++ String.ofList text.chars ++ after) =
      normalize before ++ [String.ofList text.chars] ++
        (joinBraces (sourceStatements after.toList)).map String.ofList := by
  have statements_eq := own.sourceStatements_after text.codeLine
  rw [text.settled.statements_eq, List.singleton_append] at statements_eq
  rw [own.normalize_eq text.chars_ne_brace statements_eq,
    joinBraces_cons fun alone => absurd alone apart]
  simp

end

theorem parse_opposite {before after kind : String} {negated : NegatedText}
    {plain : ComparisonText} {script : Outline} (opposes : negated.comparison.Opposes plain)
    (own : OnOwnLines before.toList after.toList) (inside : OpenBehind before kind)
    (accepted : parse (before ++ String.ofList negated.chars ++ after) = .ok script) :
    ∃ other, parse (before ++ String.ofList plain.chars ++ after) = .ok other ∧
      Statement.Replaced
        (fun block part changed => block.kind = kind ∧
          part = [.mk (negated.header.token none) [.mk negated.comparison.token []]] ∧
          changed = [.mk negated.comparison.token.opposite []])
        script.toStatement other.toStatement := by
  rw [parse, negated.normalize_eq own] at accepted
  obtain ⟨root, read, _⟩ := outline_ok_iff.mp accepted
  rw [Nest.steps?_append, Nest.steps?_append] at read
  obtain ⟨_, read, after_read⟩ := Option.bind_eq_some_iff.mp read
  obtain ⟨nest, before_read, _⟩ := Option.bind_eq_some_iff.mp read
  have plain_read : nest.steps? [String.ofList plain.chars] =
      some (nest.add (.mk negated.comparison.token.opposite [])) := by
    rw [Nest.steps?, plain.step?_chars, opposes.token_eq]
    rfl
  -- The lines behind were accepted, so the first of them is no brace to join to the comparison.
  rw [parse, plain.normalize_eq own (Nest.head?_of_steps? after_read)]
  exact outline_replaced before_read (negated.steps?_lines nest) plain_read
    ⟨kind_of_openBehind before_read inside, rfl, rfl⟩ accepted

/-- A comparison in an inversion block reads as the opposite comparison without the block, in every
block of a script that makes no exception for it. -/
theorem render_opposite_comparison {before after kind : String} {negated : NegatedText}
    {plain : ComparisonText} {script : Outline} (opposes : negated.comparison.Opposes plain)
    (upright : isInversion negated.comparison.token.kind = false)
    (own : OnOwnLines before.toList after.toList) (inside : OpenBehind before kind)
    (accepted : parse (before ++ String.ofList negated.chars ++ after) = .ok script) :
    ∃ other, parse (before ++ String.ofList plain.chars ++ after) = .ok other ∧
      ∀ book : Rulebook,
        book.Compares kind (negated.header.token none).kind negated.comparison.token →
          ∀ findings, book.render other findings = book.render script findings := by
  obtain ⟨other, read, replaced⟩ := parse_opposite opposes own inside accepted
  refine ⟨other, read, fun book compares findings => ?_⟩
  refine (Rulebook.render_eq_of_replaced (replaced.imp ?_) findings).symm
  rintro block part changed ⟨rfl, rfl, rfl⟩
  exact compares.interchangeable rfl upright negated.inverts

def space : Gap :=
  ⟨[' '], List.all_eq_true.mp (by decide), by decide⟩

def warExhaustion (comparison : Comparison) : ComparisonText where
  lead := ⟨⟨"war_exhaustion".toList, by decide, List.all_eq_true.mp (by decide)⟩,
    space, comparison, space⟩
  value := ⟨"no".toList, by decide, List.all_eq_true.mp (by decide)⟩

def notWarExhaustion : NegatedText where
  header := ⟨⟨"NOT".toList, by decide, List.all_eq_true.mp (by decide)⟩, space, .equal, space⟩
  inverts := by decide +kernel
  front := "\n\t\t\t".toList
  comparison := warExhaustion .less
  back := ' ' :: '#' :: (" rare".toList ++ '\n' :: "\t\t".toList)
  front_filler := filler_of_blank (List.all_eq_true.mp (by decide))
  back_filler := .blank (by decide)
    (.comment (by decide) (filler_of_blank (List.all_eq_true.mp (by decide))))

def beforeWarExhaustion : String :=
  "country_event = \x7b\r\n\ttrigger = \x7b\r\n\t\t"

def afterWarExhaustion : String :=
  " # no war\r\n\t\x7d\r\n\x7d"

def warBook : Rulebook :=
  { Rulebook.empty.withTemplates ((∅ : Dictionary Template).insert "war_exhaustion"
      ⟨"War exhaustion is [OPERATOR] %s",
        [.literal "War exhaustion is ", .operator, .literal " ", .value none]⟩) with
    operatorWords := [(.less, "less than"), (.notLess, "at least")] }

theorem render_warExhaustion : ∃ script other,
    parse (beforeWarExhaustion ++ String.ofList notWarExhaustion.chars ++ afterWarExhaustion) =
        .ok script ∧
      parse (beforeWarExhaustion ++ String.ofList (warExhaustion .atLeast).chars ++
        afterWarExhaustion) = .ok other ∧
      warBook.render other .empty = warBook.render script .empty ∧
      (warBook.render script .empty).1.lines =
        ["\n== country_event ==\n", "\n'''trigger'''\n", "* War exhaustion is less than no"] := by
  have commented : ((afterWarExhaustion.toList.takeWhile (· != '\n')).dropWhile
      Text.isBlank).head? = some '#' := by
    decide +kernel
  have own : OnOwnLines beforeWarExhaustion.toList afterWarExhaustion.toList := by
    refine ⟨List.all_eq_true.mp (by decide +kernel), fun c first => ?_⟩
    rw [commented] at first
    exact (Option.some.inj first).symm
  have refused : parse beforeWarExhaustion = .error (.unclosedBlock "trigger" 2) := by
    decide +kernel
  have accepted : parse
      (beforeWarExhaustion ++ String.ofList notWarExhaustion.chars ++ afterWarExhaustion) = .ok
        ⟨.bare rootKind, #[⟨0, .make "country_event" (some .equal) none⟩,
          ⟨1, .make "trigger" (some .equal) none⟩, ⟨2, .make "not" (some .equal) none⟩,
          ⟨3, .make "war_exhaustion" (some .less) (some "no")⟩]⟩ := by
    decide +kernel
  have compares : warBook.Compares "trigger" (notWarExhaustion.header.token none).kind
      notWarExhaustion.comparison.token :=
    ⟨by decide +kernel, by decide +kernel, by decide +kernel, by decide +kernel, by decide +kernel⟩
  have opposes : notWarExhaustion.comparison.Opposes (warExhaustion .atLeast) := ⟨rfl, rfl, .less⟩
  obtain ⟨other, read, same⟩ := render_opposite_comparison opposes (by decide +kernel) own
    (openBehind_of_error refused) accepted
  exact ⟨_, other, accepted, read, same warBook compares .empty, by decide +kernel⟩

end Script

end EventWiki
