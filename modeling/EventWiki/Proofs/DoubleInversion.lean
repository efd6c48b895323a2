import EventWiki.Proofs.BlockReplacement
import EventWiki.Proofs.NestedEntries

namespace EventWiki.Rulebook

/-! Statements in two inversion blocks read as if these were not there, but for the exceptions of
blocks, which look at the kind of the block itself. -/

variable {book : Rulebook}

/-- A run of statements of a block, and in its place an inversion block with nothing but a second
one in it, which holds the run. -/
structure InvertsTwice (book : Rulebook) (block inner : Token) (run wrapped : List Statement) :
    Prop where
  untitled : book.namingKinds? block.kind = none
  unmerged : book.slots? block.kind = none
  filled : run ≠ []
  inner_inverts : isInversion inner.kind = true
  wrapped_eq : ∃ outer : Token, isInversion outer.kind = true ∧
    wrapped = [.mk outer [.mk inner run]]

/-- A statement that is worded, at some depth, by a template for its own kind. -/
def IsWorded (book : Rulebook) (statement : Statement) : Prop :=
  book.variation? statement.kind = none ∧
    ∃ depth, book.role depth statement.kind statement.isLeaf = .plain

/-- Neither of two kinds of blocks makes an exception for `kind`, or the two are one. -/
def SameExceptions (book : Rulebook) (left right kind : String) : Prop :=
  book.isParentException left kind = true ∨ book.isParentException right kind = true →
    left = right

theorem templateKey_of_usual (book : Rulebook) {parent : String} (token : Token)
    (usual : book.isParentException parent token.kind = false) :
    book.templateKey (some parent) token = book.templateKey none token := by
  simp only [templateKey, usual, Bool.false_eq_true, if_false]

theorem SameExceptions.templateKey_eq {left right : String} {token : Token}
    (same : book.SameExceptions left right token.kind) :
    book.templateKey (some left) token = book.templateKey (some right) token := by
  by_cases exceptional : book.isParentException left token.kind = true ∨
      book.isParentException right token.kind = true
  · rw [same exceptional]
  · rw [not_or, Bool.not_eq_true, Bool.not_eq_true] at exceptional
    rw [book.templateKey_of_usual token exceptional.1, book.templateKey_of_usual token exceptional.2]

/-- The block around a statement matters for the key of its template alone. -/
theorem localize_congr (left right : Option String) {token : Token}
    (key_eq : book.variation? token.kind = none →
      book.templateKey left token = book.templateKey right token) (inverted : Bool) :
    book.localize left token inverted = book.localize right token inverted := by
  unfold localize
  cases variation : book.variation? token.kind with
  | some canonical => rfl
  | none => simp only [key_eq variation]

theorem visit_eq_of_sameExceptions {left right : String} {statement : Statement}
    (same : book.IsWorded statement → book.SameExceptions left right statement.kind)
    (depth : Nat) (inherited : Bool) :
    book.visit depth left inherited statement = book.visit depth right inherited statement := by
  obtain ⟨token, children⟩ := statement
  rw [visit, visit]
  cases role_eq : book.role depth token.kind children.isEmpty with
  | inversion => rfl
  | hidden => rfl
  | merged => rfl
  | named candidates => rfl
  | plain =>
      have wording_eq : book.localize (some left) token (inherited != token.negated) =
          book.localize (some right) token (inherited != token.negated) := by
        apply localize_congr
        exact fun variation => (same ⟨variation, depth, role_eq⟩).templateKey_eq
      simp only [wording_eq]

theorem visit_inversion {token : Token} (inverts : isInversion token.kind = true) (depth : Nat)
    (parent : String) (inherited : Bool) (children : List Statement) :
    book.visit depth parent inherited (.mk token children) =
      book.visitAll depth token.kind (!inherited) none children := by
  rw [visit, role, if_pos inverts]

theorem visitAll_singleton (book : Rulebook) (depth : Nat) (parent : String) (inherited : Bool)
    (statement : Statement) :
    book.visitAll depth parent inherited none [statement] =
      book.visit depth parent inherited statement := by
  rw [visitAll_none, List.map_singleton, Passage.concat_cons, Passage.concat_nil,
    Passage.append_empty]

theorem InvertsTwice.interchangeable {block inner : Token} {run wrapped : List Statement}
    (twice : book.InvertsTwice block inner run wrapped)
    (same : ∀ statement ∈ run, book.IsWorded statement →
      book.SameExceptions block.kind inner.kind statement.kind) :
    book.Interchangeable block run wrapped := by
  obtain ⟨outer, outer_inverts, rfl⟩ := twice.wrapped_eq
  refine ⟨twice.untitled, twice.unmerged, ?_, fun depth inherited => ?_⟩
  · rw [List.isEmpty_eq_false_iff.mpr twice.filled, List.isEmpty_cons]
  · calc
      book.visitAll depth block.kind inherited none run =
          book.visitAll depth inner.kind inherited none run := by
        rw [visitAll_none, visitAll_none]
        congr 1
        apply List.map_congr_left
        intro statement member
        exact visit_eq_of_sameExceptions (same statement member) depth inherited
      _ = book.visit depth outer.kind (!inherited) (.mk inner run) := by
        rw [visit_inversion twice.inner_inverts, Bool.not_not]
      _ = book.visitAll depth block.kind inherited none [.mk outer [.mk inner run]] := by
        rw [visitAll_singleton, visit_inversion outer_inverts, visitAll_singleton]

def inverting (children : List Statement) : Statement :=
  .mk (.make "NOT" (some .equal) none) children

end EventWiki.Rulebook
