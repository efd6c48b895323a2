import EventWiki.Document
import EventWiki.Findings
import EventWiki.Merge
import EventWiki.Outline

namespace EventWiki.Rulebook

/-! The document of a script. Inversion blocks invert what stands directly inside them and leave no
line and no level of their own; every other statement takes the inversion for itself. -/

structure Passage where
  lines : List Document.Line
  missing : List String
  deriving DecidableEq, Repr

namespace Passage

def empty : Passage :=
  ⟨[], []⟩

instance : Append Passage where
  append left right := ⟨left.lines ++ right.lines, left.missing ++ right.missing⟩

def ofFragment (depth : Nat) (fragment : Fragment) : Passage :=
  ⟨Document.Line.atDepth depth fragment.text, fragment.missing.toList⟩

@[simp] theorem lines_append (left right : Passage) :
    (left ++ right).lines = left.lines ++ right.lines := rfl

@[simp] theorem missing_append (left right : Passage) :
    (left ++ right).missing = left.missing ++ right.missing := rfl

end Passage

inductive Role where
  | inversion
  /-- A statement outside a block, or directly inside a block of the outermost level. -/
  | hidden
  | merged
  | named (candidates : List String)
  | plain
  deriving DecidableEq, Repr

/-- Blocks of the outermost level are not merged. -/
def role (book : Rulebook) (depth : Nat) (kind : String) (isLeaf : Bool) : Role :=
  if isInversion kind then .inversion
  else if isLeaf then if depth ≤ 1 then .hidden else .plain
  else if depth ≠ 0 && (book.slots? kind).isSome then .merged
  else
    match book.namingKinds? kind with
    | some candidates => .named candidates
    | none => .plain

/-- The position of the statement that names a block: the first one with a value of the first
candidate kind that has any. -/
def namingIndex? (candidates : List String) (children : List Statement) : Option Nat :=
  candidates.findSome? fun candidate =>
    children.findIdx? fun child => child.kind == candidate && child.token.value.isSome

def title (book : Rulebook) (kind : String) (candidates : List String)
    (children : List Statement) : Fragment × Option Nat :=
  match namingIndex? candidates children with
  | some index =>
      match children[index]? with
      | some child => (⟨book.localizeValue child.token, none⟩, some index)
      | none => (⟨kind, some kind⟩, none)
  | none => (⟨kind, some kind⟩, none)

def mergedPassage (book : Rulebook) (depth : Nat) (block : Token) (children : List Statement)
    (inverted : Bool) : Passage :=
  let merged := book.merge block (children.map Statement.token) inverted
  let effects := (merged.modifier.map book.modifierEffects).getD []
  .ofFragment depth merged.fragment ++
    ⟨effects.flatMap (Document.Line.atDepth (depth + 1)), []⟩

mutual

def visit (book : Rulebook) (depth : Nat) (parent : String) (inherited : Bool) :
    Statement → Passage
  | .mk token children =>
      let inverted := inherited != token.negated
      match book.role depth token.kind children.isEmpty with
      | .inversion => book.visitAll depth token.kind (!inherited) none children
      | .hidden => .empty
      | .merged => book.mergedPassage depth token children inverted
      | .named candidates =>
          let (name, index) := book.title token.kind candidates children
          .ofFragment depth name ++ book.visitAll (depth + 1) token.kind false index children
      | .plain =>
          .ofFragment depth (book.localize (some parent) token inverted) ++
            book.visitAll (depth + 1) token.kind false none children

/-- The lines of the statements of a block, but for the one at position `skipped`. -/
def visitAll (book : Rulebook) (depth : Nat) (parent : String) (inherited : Bool)
    (skipped : Option Nat) : List Statement → Passage
  | [] => .empty
  | statement :: rest =>
      match skipped with
      | some 0 => book.visitAll depth parent inherited none rest
      | some (index + 1) =>
          book.visit depth parent inherited statement ++
            book.visitAll depth parent inherited (some index) rest
      | none =>
          book.visit depth parent inherited statement ++
            book.visitAll depth parent inherited none rest

end

def passage (book : Rulebook) (root : Statement) : Passage :=
  book.visitAll 0 root.kind false none root.children

def render (book : Rulebook) (script : Outline) (findings : Findings) : Document × Findings :=
  let passage := book.passage script.toStatement
  (⟨passage.lines⟩, findings.recordAll passage.missing)

end EventWiki.Rulebook
