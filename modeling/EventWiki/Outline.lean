import EventWiki.Statement

namespace EventWiki

structure Outline.Entry where
  parent : Nat
  token : Token
  deriving DecidableEq, Repr

/-- The statements of a script in the order they were entered, below a root. The root has index
zero, the entries have the indices after it. -/
structure Outline where
  root : Token
  entries : Array Outline.Entry
  deriving DecidableEq, Repr

namespace Outline

def new (root : Token) : Outline :=
  ⟨root, #[]⟩

def push (outline : Outline) (parent : Nat) (token : Token) : Outline :=
  { outline with entries := outline.entries.push ⟨parent, token⟩ }

/-- The number of tokens with the root. -/
def size (outline : Outline) : Nat :=
  outline.entries.size + 1

def token? (outline : Outline) : Nat → Option Token
  | 0 => some outline.root
  | index + 1 => outline.entries[index]?.map Entry.token

def parent? (outline : Outline) : Nat → Option Nat
  | 0 => none
  | index + 1 => outline.entries[index]?.map Entry.parent

def children (outline : Outline) (parent : Nat) : List Nat :=
  (outline.entries.toList.zipIdx 1).filterMap fun (entry, index) =>
    if entry.parent = parent then some index else none

/-- Every token stands under one that was entered before it. -/
def WellFormed (outline : Outline) : Prop :=
  ∀ (index : Nat) (entry : Entry), outline.entries[index]? = some entry → entry.parent ≤ index

abbrev Pending := Array (List Statement)

/-- Completes the token with index `index`: what waits under it becomes its block, and the token
itself waits under its parent, before the statements entered later. -/
def Pending.close (pending : Pending) (index : Nat) (entry : Entry) : Pending :=
  pending.modify entry.parent (.mk entry.token (pending.getD index []) :: ·)

/-- The outline as nested statements. Entries are completed from the last one back, so the block
of each is complete when its turn comes. -/
def toStatement (outline : Outline) : Statement :=
  let pending := (outline.entries.toList.zipIdx 1).foldr
    (fun (entry, index) (pending : Pending) => pending.close index entry)
    (Array.replicate outline.size [])
  .mk outline.root (pending.getD 0 [])

@[simp] theorem size_new (root : Token) : (new root).size = 1 := rfl

@[simp] theorem size_push (outline : Outline) (parent : Nat) (token : Token) :
    (outline.push parent token).size = outline.size + 1 := by
  simp [size, push]

@[simp] theorem root_push (outline : Outline) (parent : Nat) (token : Token) :
    (outline.push parent token).root = outline.root := rfl

theorem wellFormed_new (root : Token) : (new root).WellFormed := by
  intro index entry h
  simp [new] at h

theorem WellFormed.push {outline : Outline} (h : outline.WellFormed) {parent : Nat}
    (hparent : parent < outline.size) (token : Token) :
    (outline.push parent token).WellFormed := by
  intro index entry hentry
  simp only [Outline.push, Array.getElem?_push] at hentry
  split at hentry
  · simp only [Option.some.injEq] at hentry
    subst hentry
    simp only [size] at hparent
    simp only
    omega
  · exact h index entry hentry

end Outline

end EventWiki
