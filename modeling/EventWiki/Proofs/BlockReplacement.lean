import EventWiki.Proofs.FlatPage

namespace EventWiki

/-! Scripts that differ in a part of one block, which is neither titled nor merged and has the
same lines in either. -/

/-- The same statements but for a part of one block at any depth, where `replace` relates the token
of the block, the part, and what stands in its place. -/
inductive Statement.Replaced (replace : Token → List Statement → List Statement → Prop) :
    Statement → Statement → Prop where
  | here {token : Token} {part other : List Statement} (front behind : List Statement)
      (replaced : replace token part other) :
      Replaced replace (.mk token (front ++ part ++ behind)) (.mk token (front ++ other ++ behind))
  | inside (token : Token) (front behind : List Statement) {statement other : Statement}
      (replaced : Replaced replace statement other) :
      Replaced replace (.mk token (front ++ statement :: behind))
        (.mk token (front ++ other :: behind))

namespace Rulebook

variable {book : Rulebook}

/-- Statements that a block around them cannot tell apart. -/
structure Alike (book : Rulebook) (statement other : Statement) : Prop where
  token_eq : statement.token = other.token
  visit_eq : ∀ depth parent inherited,
    book.visit depth parent inherited statement = book.visit depth parent inherited other

/-- Parts of a block that leave the same lines in it; nothing else of the block depends on them. -/
structure Interchangeable (book : Rulebook) (block : Token) (part other : List Statement) :
    Prop where
  untitled : book.namingKinds? block.kind = none
  unmerged : book.slots? block.kind = none
  isEmpty_eq : part.isEmpty = other.isEmpty
  visitAll_eq : ∀ depth inherited,
    book.visitAll depth block.kind inherited none part =
      book.visitAll depth block.kind inherited none other

theorem Alike.refl (book : Rulebook) (statement : Statement) : book.Alike statement statement :=
  ⟨rfl, fun _ _ _ => rfl⟩

theorem forall₂_alike_refl (book : Rulebook) (statements : List Statement) :
    List.Forall₂ book.Alike statements statements :=
  List.forall₂_same.mpr fun statement _ => .refl book statement

theorem visitAll_append (book : Rulebook) (depth : Nat) (parent : String) (inherited : Bool)
    (left right : List Statement) :
    book.visitAll depth parent inherited none (left ++ right) =
      book.visitAll depth parent inherited none left ++
        book.visitAll depth parent inherited none right := by
  simp only [visitAll_none, List.map_append, Passage.concat_append]

theorem visitAll_congr {statements others : List Statement}
    (alike : List.Forall₂ book.Alike statements others) (depth : Nat) (parent : String)
    (inherited : Bool) (skipped : Option Nat) :
    book.visitAll depth parent inherited skipped statements =
      book.visitAll depth parent inherited skipped others := by
  induction alike generalizing skipped with
  | nil => rfl
  | cons head tail ih =>
      cases skipped with
      | none => rw [visitAll, visitAll, head.visit_eq, ih]
      | some index =>
          cases index with
          | zero => rw [visitAll, visitAll, ih]
          | succ index => rw [visitAll, visitAll, head.visit_eq, ih]

theorem map_token_of_alike {statements others : List Statement}
    (alike : List.Forall₂ book.Alike statements others) :
    statements.map Statement.token = others.map Statement.token := by
  induction alike with
  | nil => rfl
  | cons head tail ih => rw [List.map_cons, List.map_cons, head.token_eq, ih]

theorem title_congr {statements others : List Statement}
    (tokens_eq : statements.map Statement.token = others.map Statement.token) (kind : String)
    (candidates : List String) :
    book.title kind candidates statements = book.title kind candidates others := by
  -- The statement that names the block is found by its kind and by whether it has a value.
  have index_eq : namingIndex? candidates statements = namingIndex? candidates others := by
    have by_tokens : ∀ children : List Statement, namingIndex? candidates children =
        candidates.findSome? fun candidate => (children.map Statement.token).findIdx? fun token =>
          token.kind == candidate && token.value.isSome := by
      intro children
      simp only [namingIndex?, List.findIdx?_map]
      rfl
    rw [by_tokens, by_tokens, tokens_eq]
  have token_at : ∀ index : Nat,
      statements[index]?.map Statement.token = others[index]?.map Statement.token := by
    intro index
    rw [← List.getElem?_map, ← List.getElem?_map, tokens_eq]
  unfold title
  rw [index_eq]
  cases namingIndex? candidates others with
  | none => rfl
  | some index =>
      have same := token_at index
      cases left : statements[index]? <;> cases right : others[index]? <;>
        simp_all

theorem Alike.block {statements others : List Statement}
    (alike : List.Forall₂ book.Alike statements others) (token : Token) :
    book.Alike (.mk token statements) (.mk token others) := by
  have tokens_eq := map_token_of_alike alike
  have isEmpty_eq : statements.isEmpty = others.isEmpty := by
    rw [← List.isEmpty_map (f := Statement.token), tokens_eq, List.isEmpty_map]
  refine ⟨rfl, fun depth parent inherited => ?_⟩
  rw [visit, visit, isEmpty_eq]
  cases book.role depth token.kind others.isEmpty with
  | inversion => exact visitAll_congr alike ..
  | hidden => rfl
  | merged => simp only [mergedPassage, tokens_eq]
  | named candidates =>
      simp only [title_congr tokens_eq, visitAll_congr alike]
  | plain => simp only [visitAll_congr alike]

theorem Interchangeable.visitAll_around {block : Token} {part other : List Statement}
    (interchangeable : book.Interchangeable block part other) (front behind : List Statement)
    (depth : Nat) (inherited : Bool) :
    book.visitAll depth block.kind inherited none (front ++ part ++ behind) =
      book.visitAll depth block.kind inherited none (front ++ other ++ behind) := by
  rw [visitAll_append, visitAll_append, visitAll_append, visitAll_append,
    interchangeable.visitAll_eq]

theorem role_of_unlisted {kind : String} (untitled : book.namingKinds? kind = none)
    (unmerged : book.slots? kind = none) (depth : Nat) (isLeaf : Bool) :
    book.role depth kind isLeaf = .inversion ∨ book.role depth kind isLeaf = .hidden ∨
      book.role depth kind isLeaf = .plain := by
  simp only [role, untitled, unmerged, Option.isSome_none, Bool.and_false]
  split_ifs <;> simp_all

theorem Interchangeable.alike {block : Token} {part other : List Statement}
    (interchangeable : book.Interchangeable block part other) (front behind : List Statement) :
    book.Alike (.mk block (front ++ part ++ behind)) (.mk block (front ++ other ++ behind)) := by
  have isEmpty_eq : (front ++ part ++ behind).isEmpty = (front ++ other ++ behind).isEmpty := by
    have both_empty : part = [] ↔ other = [] := by
      rw [← List.isEmpty_iff, ← List.isEmpty_iff, interchangeable.isEmpty_eq]
    rw [Bool.eq_iff_iff]
    simp [both_empty]
  refine ⟨rfl, fun depth parent inherited => ?_⟩
  rw [visit, visit, isEmpty_eq]
  rcases role_of_unlisted interchangeable.untitled interchangeable.unmerged depth
    (front ++ other ++ behind).isEmpty with role_eq | role_eq | role_eq
  · simp only [role_eq, interchangeable.visitAll_around]
  · simp only [role_eq]
  · simp only [role_eq, interchangeable.visitAll_around]

theorem alike_of_replaced {statement other : Statement}
    (replaced : Statement.Replaced book.Interchangeable statement other) :
    book.Alike statement other := by
  induction replaced with
  | here front behind interchangeable => exact interchangeable.alike front behind
  | inside token front behind _ ih =>
      -- A block around the part sees statements that are alike, and is alike for the next one.
      exact .block (List.rel_append (forall₂_alike_refl book front)
        (.cons ih (forall₂_alike_refl book behind))) token

theorem passage_eq_of_replaced {statement other : Statement}
    (replaced : Statement.Replaced book.Interchangeable statement other) :
    book.passage statement = book.passage other := by
  cases replaced with
  | here front behind interchangeable => exact interchangeable.visitAll_around ..
  | inside token front behind inner =>
      exact visitAll_congr (List.rel_append (forall₂_alike_refl book front)
        (.cons (alike_of_replaced inner) (forall₂_alike_refl book behind))) ..

/-- A script may be changed in a part of a block that leaves the same lines. -/
theorem render_eq_of_replaced {script other : Outline}
    (replaced : Statement.Replaced book.Interchangeable script.toStatement other.toStatement)
    (findings : Findings) : book.render script findings = book.render other findings := by
  rw [render, render, passage_eq_of_replaced replaced]

end Rulebook

theorem Statement.Replaced.imp {replace weaker : Token → List Statement → List Statement → Prop}
    (implies : ∀ token part other, replace token part other → weaker token part other)
    {statement other : Statement} (replaced : Replaced replace statement other) :
    Replaced weaker statement other := by
  induction replaced with
  | here front behind replaced => exact .here front behind (implies _ _ _ replaced)
  | inside token front behind _ ih => exact .inside token front behind ih

end EventWiki
