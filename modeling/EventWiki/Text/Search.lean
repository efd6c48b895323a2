namespace EventWiki.Text

/-- The text before the first occurrence of a pattern, and the text behind it. -/
def cutAtFirst? (pattern : List Char) : List Char → Option (List Char × List Char)
  | [] => if pattern.isEmpty then some ([], []) else none
  | c :: rest =>
      match pattern.isPrefixOf? (c :: rest) with
      | some behind => some ([], behind)
      | none => (cutAtFirst? pattern rest).map fun (before, behind) => (c :: before, behind)

def contains (pattern cs : List Char) : Bool :=
  (cutAtFirst? pattern cs).isSome

def byteSize (cs : List Char) : Nat :=
  cs.foldr (fun c size => c.utf8Size + size) 0

@[simp] theorem byteSize_nil : byteSize [] = 0 := rfl

@[simp] theorem byteSize_cons (c : Char) (cs : List Char) :
    byteSize (c :: cs) = c.utf8Size + byteSize cs := rfl

@[simp] theorem byteSize_append (left right : List Char) :
    byteSize (left ++ right) = byteSize left + byteSize right := by
  induction left with
  | nil => simp
  | cons c left ih => simp [ih, Nat.add_assoc]

@[simp] theorem isPrefixOf?_nil (cs : List Char) : [].isPrefixOf? cs = some cs := rfl

@[simp] theorem isPrefixOf?_cons_nil (p : Char) (pattern : List Char) :
    (p :: pattern).isPrefixOf? [] = none := rfl

theorem isPrefixOf?_cons_cons (p c : Char) (pattern cs : List Char) :
    (p :: pattern).isPrefixOf? (c :: cs) = if p == c then pattern.isPrefixOf? cs else none := rfl

private theorem eq_append_of_isPrefixOf? {pattern cs behind : List Char}
    (h : pattern.isPrefixOf? cs = some behind) : cs = pattern ++ behind := by
  induction pattern generalizing cs with
  | nil => simpa using h
  | cons p pattern ih =>
    cases cs with
    | nil => simp at h
    | cons c cs =>
      rw [isPrefixOf?_cons_cons] at h
      split at h
      · next heq => rw [ih h, eq_of_beq heq, List.cons_append]
      · contradiction

theorem eq_append_of_cutAtFirst? {pattern cs before behind : List Char}
    (h : cutAtFirst? pattern cs = some (before, behind)) :
    cs = before ++ pattern ++ behind := by
  induction cs generalizing before with
  | nil =>
    simp only [cutAtFirst?] at h
    split at h <;> simp_all
  | cons c rest ih =>
    simp only [cutAtFirst?] at h
    split at h
    · next tail htail =>
      simp only [Option.some.injEq, Prod.mk.injEq] at h
      obtain ⟨rfl, rfl⟩ := h
      simpa using eq_append_of_isPrefixOf? htail
    · obtain ⟨⟨front, tail⟩, htail, heq⟩ := Option.map_eq_some_iff.mp h
      simp only [Prod.mk.injEq] at heq
      obtain ⟨rfl, rfl⟩ := heq
      simp [ih htail]

end EventWiki.Text
