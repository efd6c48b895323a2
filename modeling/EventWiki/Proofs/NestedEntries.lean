import EventWiki.Proofs.OutlineTree

namespace EventWiki

mutual

/-- The entries of a statement under `parent` when `index` is the next index. -/
def Statement.entries (parent index : Nat) : Statement → List Outline.Entry
  | .mk token children => ⟨parent, token⟩ :: Statement.entriesAll index (index + 1) children

def Statement.entriesAll (parent index : Nat) : List Statement → List Outline.Entry
  | [] => []
  | statement :: rest =>
      statement.entries parent index ++
        Statement.entriesAll parent (index + (statement.entries parent index).length) rest

end

namespace Outline

def enterAll (outline : Outline) (entries : List Entry) : Outline :=
  entries.foldl (fun outline entry => outline.push entry.parent entry.token) outline

@[simp] theorem enterAll_nil (outline : Outline) : outline.enterAll [] = outline := rfl

@[simp] theorem enterAll_cons (outline : Outline) (entry : Entry) (entries : List Entry) :
    outline.enterAll (entry :: entries) =
      (outline.push entry.parent entry.token).enterAll entries := rfl

theorem enterAll_append (outline : Outline) (left right : List Entry) :
    outline.enterAll (left ++ right) = (outline.enterAll left).enterAll right :=
  List.foldl_append

@[simp] theorem root_enterAll (outline : Outline) (entries : List Entry) :
    (outline.enterAll entries).root = outline.root := by
  induction entries generalizing outline with
  | nil => rfl
  | cons entry entries ih => rw [enterAll_cons, ih, root_push]

theorem toList_entries_enterAll (outline : Outline) (entries : List Entry) :
    (outline.enterAll entries).entries.toList = outline.entries.toList ++ entries := by
  induction entries generalizing outline with
  | nil => simp
  | cons entry entries ih => simp [ih, push]

@[simp] theorem size_enterAll (outline : Outline) (entries : List Entry) :
    (outline.enterAll entries).size = outline.size + entries.length := by
  induction entries generalizing outline with
  | nil => rfl
  | cons entry entries ih =>
      rw [enterAll_cons, ih, size_push, List.length_cons]
      omega

def Pending.closeAll (pending : Pending) (index : Nat) (entries : List Entry) : Pending :=
  (entries.zipIdx index).foldr (fun (entry, index) pending => Pending.close pending index entry)
    pending

namespace Pending

variable {pending : Pending} {parent index : Nat}

theorem closeAll_cons (pending : Pending) (index : Nat) (entry : Entry) (entries : List Entry) :
    pending.closeAll index (entry :: entries) =
      (pending.closeAll (index + 1) entries).close index entry := rfl

theorem closeAll_append (pending : Pending) (index : Nat) (left right : List Entry) :
    pending.closeAll index (left ++ right) =
      (pending.closeAll (index + left.length) right).closeAll index left := by
  simp only [closeAll, List.zipIdx_append, List.foldr_append]

@[simp] theorem size_closeAll (pending : Pending) (index : Nat) (entries : List Entry) :
    (pending.closeAll index entries).size = pending.size := by
  induction entries generalizing index with
  | nil => rfl
  | cons entry entries ih => rw [closeAll_cons, size_close, ih]

def Vacant (pending : Pending) (index count : Nat) : Prop :=
  ∀ position, index ≤ position → position < index + count → pending.getD position [] = []

/-- Under all indices but `count` from `index` on, the same waits as in `pending`, and in addition
`statements` wait under `parent`. -/
def Gains (result pending : Pending) (parent index count : Nat)
    (statements : List Statement) : Prop :=
  ∀ position, position < index ∨ index + count ≤ position →
    result.getD position [] =
      if position = parent then statements ++ pending.getD position []
      else pending.getD position []

mutual

theorem closeAll_entries (statement : Statement) (pending : Pending) (parent index : Nat)
    (above : parent < index)
    (fits : index + (statement.entries parent index).length ≤ pending.size)
    (vacant : pending.Vacant index (statement.entries parent index).length) :
    (pending.closeAll index (statement.entries parent index)).Gains pending parent index
      (statement.entries parent index).length [statement] := by
  obtain ⟨token, children⟩ := statement
  simp only [Statement.entries, List.length_cons] at fits vacant ⊢
  have inner := closeAll_entriesAll children pending index (index + 1) (Nat.lt_succ_self index)
    (by omega) (fun position first last => vacant position (by omega) (by omega))
  have block : (pending.closeAll (index + 1)
      (Statement.entriesAll index (index + 1) children)).getD index [] = children := by
    rw [inner index (by omega), if_pos rfl, vacant index (by omega) (by omega), List.append_nil]
  have bound : parent < pending.size := by omega
  intro position outside
  have apart : position ≠ index := by omega
  rw [closeAll_cons, getD_close _ _ _ (by rwa [size_closeAll]), block,
    inner position (by omega), if_neg apart]
  simp only [eq_comm, List.singleton_append]

theorem closeAll_entriesAll (statements : List Statement) (pending : Pending)
    (parent index : Nat) (above : parent < index)
    (fits : index + (Statement.entriesAll parent index statements).length ≤ pending.size)
    (vacant : pending.Vacant index (Statement.entriesAll parent index statements).length) :
    (pending.closeAll index (Statement.entriesAll parent index statements)).Gains pending parent
      index (Statement.entriesAll parent index statements).length statements := by
  cases statements with
  | nil =>
      intro position outside
      simp [Statement.entriesAll, closeAll]
  | cons statement rest =>
      simp only [Statement.entriesAll, List.length_append] at fits vacant ⊢
      -- the later statements are completed first and leave the entries of this one vacant
      have behind := closeAll_entriesAll rest pending parent
        (index + (statement.entries parent index).length) (by omega) (by omega)
        (fun position first last => vacant position (by omega) (by omega))
      have still_vacant : Vacant (pending.closeAll
          (index + (statement.entries parent index).length)
          (Statement.entriesAll parent (index + (statement.entries parent index).length) rest))
          index (statement.entries parent index).length := by
        intro position first last
        have apart : position ≠ parent := by omega
        rw [behind position (by omega), if_neg apart]
        exact vacant position first (by omega)
      have first := closeAll_entries statement _ parent index above
        (by rw [size_closeAll]; omega) still_vacant
      intro position outside
      rw [closeAll_append, first position (by omega), behind position (by omega)]
      split <;> simp

end

end Pending

theorem getD_replicate_nil (count position : Nat) :
    (Array.replicate count ([] : List Statement)).getD position [] = [] := by
  rw [Array.getD_eq_getD_getElem?, Array.getElem?_replicate]
  split <;> rfl

/-- Entering nested statements under a new root and reading the outline gives them back. -/
theorem toStatement_enterAll (root : Token) (statements : List Statement) :
    ((new root).enterAll (Statement.entriesAll 0 1 statements)).toStatement =
      .mk root statements := by
  have closed : ((new root).enterAll (Statement.entriesAll 0 1 statements)).toStatement =
      .mk root ((Pending.closeAll
        (Array.replicate (1 + (Statement.entriesAll 0 1 statements).length) []) 1
          (Statement.entriesAll 0 1 statements)).getD 0 []) := by
    rw [toStatement, root_enterAll, toList_entries_enterAll, size_enterAll]
    rfl
  have gains := Pending.closeAll_entriesAll statements
    (Array.replicate (1 + (Statement.entriesAll 0 1 statements).length) []) 0 1 Nat.one_pos
    (by simp) (fun position _ _ => getD_replicate_nil _ position)
  rw [closed, gains 0 (by omega), if_pos rfl, getD_replicate_nil, List.append_nil]

def ofStatement (statement : Statement) : Outline :=
  (new statement.token).enterAll (Statement.entriesAll 0 1 statement.children)

@[simp] theorem toStatement_ofStatement (statement : Statement) :
    (ofStatement statement).toStatement = statement := by
  cases statement with
  | mk token children => exact toStatement_enterAll token children

mutual

theorem Built.enterStatement (statement : Statement) {outline : Outline} (built : outline.Built)
    {parent : Nat} (known : parent < outline.size) :
    (outline.enterAll (statement.entries parent outline.size)).Built := by
  obtain ⟨token, children⟩ := statement
  have entered : outline.size < (outline.push parent token).size := by
    rw [size_push]
    exact Nat.lt_succ_self _
  have below := (built.push known token).enterStatements children entered
  rwa [size_push] at below

theorem Built.enterStatements (statements : List Statement) {outline : Outline}
    (built : outline.Built) {parent : Nat} (known : parent < outline.size) :
    (outline.enterAll (Statement.entriesAll parent outline.size statements)).Built := by
  cases statements with
  | nil => exact built
  | cons statement rest =>
      have still_known :
          parent < (outline.enterAll (statement.entries parent outline.size)).size := by
        rw [size_enterAll]
        exact Nat.lt_add_right _ known
      have behind := (built.enterStatement statement known).enterStatements rest still_known
      rw [Statement.entriesAll, enterAll_append]
      rwa [size_enterAll] at behind

end

end Outline

end EventWiki
