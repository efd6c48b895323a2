import EventWiki.Proofs.BraceCut
import EventWiki.Proofs.WrittenCut
import EventWiki.Text.Search

namespace EventWiki.Script

/-! The boundaries between the statements of a line, searched for from the left in a copy of the
line whose quotations are masked byte for byte. -/

/-- The text with a mask for every byte that stands inside quotes. -/
def masked (quoted : Bool) : List Char → List Char
  | [] => []
  | c :: rest =>
      if c = '"' then c :: masked (!quoted) rest
      else if quoted then List.replicate c.utf8Size '_' ++ masked quoted rest
      else c :: masked quoted rest

def endsValueChar (c : Char) : Bool :=
  Text.isWord c || c == '.' || c == '"'

def isComparisonChar (c : Char) : Bool :=
  ['=', '<', '>'].contains c

/-- The gap of the boundary that a text begins with, and what is behind the boundary. -/
def boundary? : List Char → Option (List Char × List Char)
  | [] => none
  | value :: rest =>
      let gap := rest.takeWhile Text.isBlank
      let next := rest.dropWhile Text.isBlank
      let key := next.takeWhile isKeyChar
      match (next.dropWhile isKeyChar).dropWhile Text.isBlank with
      | [] => none
      | mark :: behind =>
          if endsValueChar value && !gap.isEmpty && !key.isEmpty && isComparisonChar mark then
            some (gap, behind)
          else none

/-- A text that begins with a boundary, its gap, and what is behind the boundary. -/
inductive Boundary : List Char → List Char → List Char → Prop where
  | mk {value mark : Char} {gap key space : List Char} (behind : List Char)
      (ends : endsValueChar value = true)
      (gap_filled : gap ≠ []) (gap_blank : ∀ c ∈ gap, Text.isBlank c = true)
      (key_filled : key ≠ []) (key_chars : ∀ c ∈ key, isKeyChar c = true)
      (space_blank : ∀ c ∈ space, Text.isBlank c = true)
      (compares : isComparisonChar mark = true) :
      Boundary (value :: (gap ++ (key ++ (space ++ mark :: behind)))) gap behind

theorem takeWhile_dropWhile_append {α : Type} {p : α → Bool} {front rest : List α}
    (inside : ∀ a ∈ front, p a = true) (outside : ∀ a ∈ rest.head?, p a = false) :
    (front ++ rest).takeWhile p = front ∧ (front ++ rest).dropWhile p = rest := by
  rw [List.takeWhile_append_of_pos inside, List.dropWhile_append_of_pos inside]
  cases rest with
  | nil => simp
  | cons a rest =>
      have first := outside a rfl
      simp [first]

theorem isComparisonChar_quiet {c : Char} (compares : isComparisonChar c = true) :
    Text.isBlank c = false ∧ isKeyChar c = false := by
  simp only [isComparisonChar, List.contains_iff_mem, List.mem_cons, List.not_mem_nil,
    or_false] at compares
  rcases compares with rfl | rfl | rfl <;> decide

theorem boundary_of_eq_some {text gap behind : List Char}
    (found : boundary? text = some (gap, behind)) : Boundary text gap behind := by
  cases text with
  | nil => simp [boundary?] at found
  | cons value rest =>
      simp only [boundary?] at found
      split at found
      · simp at found
      · next mark behind' stop =>
        split at found
        · next whole =>
          simp only [Bool.and_eq_true, Bool.not_eq_true', List.isEmpty_eq_false_iff] at whole
          obtain ⟨⟨⟨ends, gap_filled⟩, key_filled⟩, compares⟩ := whole
          simp only [Option.some.injEq, Prod.mk.injEq] at found
          obtain ⟨rfl, rfl⟩ := found
          have parts := Boundary.mk behind' ends gap_filled (fun _ => List.mem_takeWhile_imp)
            key_filled (fun _ => List.mem_takeWhile_imp)
            (fun _ => List.mem_takeWhile_imp (l :=
              (rest.dropWhile Text.isBlank).dropWhile isKeyChar)) compares
          rwa [← stop, List.takeWhile_append_dropWhile, List.takeWhile_append_dropWhile,
            List.takeWhile_append_dropWhile] at parts
        · simp at found

/-- The characters of a gap, of a key and of a comparison are apart, so there is one way only to
take a boundary apart. -/
theorem Boundary.eq_some {text gap behind : List Char} (boundary : Boundary text gap behind) :
    boundary? text = some (gap, behind) := by
  obtain @⟨value, mark, gap, key, space, behind, ends, gap_filled, gap_blank, key_filled,
    key_chars, space_blank, compares⟩ := boundary
  obtain ⟨mark_visible, mark_no_key⟩ := isComparisonChar_quiet compares
  have behind_key : ∀ c ∈ (space ++ mark :: behind).head?, isKeyChar c = false := by
    cases space with
    | nil => simpa using mark_no_key
    | cons c space =>
        rw [List.forall_mem_cons] at space_blank
        rintro _ ⟨⟩
        rw [← Bool.not_eq_true]
        intro key_char
        simp [isBlank_of_isKeyChar key_char] at space_blank
  have behind_gap : ∀ c ∈ (key ++ (space ++ mark :: behind)).head?, Text.isBlank c = false := by
    cases key with
    | nil => contradiction
    | cons c key =>
        rintro _ ⟨⟩
        exact isBlank_of_isKeyChar (key_chars c List.mem_cons_self)
  have behind_space : ∀ c ∈ (mark :: behind).head?, Text.isBlank c = false := by
    simpa using mark_visible
  obtain ⟨take_gap, drop_gap⟩ := takeWhile_dropWhile_append gap_blank behind_gap
  obtain ⟨take_key, drop_key⟩ := takeWhile_dropWhile_append key_chars behind_key
  obtain ⟨-, drop_space⟩ := takeWhile_dropWhile_append space_blank behind_space
  simp [boundary?, take_gap, drop_gap, take_key, drop_key, drop_space, ends, gap_filled,
    key_filled, compares]

theorem boundary?_eq_some_iff {text gap behind : List Char} :
    boundary? text = some (gap, behind) ↔ Boundary text gap behind :=
  ⟨boundary_of_eq_some, Boundary.eq_some⟩

theorem Boundary.length_lt {text gap behind : List Char} (boundary : Boundary text gap behind) :
    behind.length < text.length := by
  cases boundary
  simp only [List.length_cons, List.length_append]
  omega

/-- The places of the gaps of all boundaries. Behind a boundary the search goes on. -/
def gaps (offset : Nat) : List Char → List (Nat × Nat)
  | [] => []
  | c :: rest =>
      match _found : boundary? (c :: rest) with
      | some (gap, behind) =>
          (offset + c.utf8Size, offset + c.utf8Size + Text.byteSize gap) ::
            gaps (offset + (Text.byteSize (c :: rest) - Text.byteSize behind)) behind
      | none => gaps (offset + c.utf8Size) rest
termination_by text => text.length
decreasing_by
  · exact (boundary_of_eq_some _found).length_lt
  · exact Nat.lt_succ_self _

theorem gaps_of_boundary {c : Char} {rest gap behind : List Char}
    (found : boundary? (c :: rest) = some (gap, behind)) (offset : Nat) :
    gaps offset (c :: rest) =
      (offset + c.utf8Size, offset + c.utf8Size + Text.byteSize gap) ::
        gaps (offset + (Text.byteSize (c :: rest) - Text.byteSize behind)) behind := by
  rw [gaps]
  split
  · next found' =>
    rw [found, Option.some.injEq, Prod.mk.injEq] at found'
    rw [found'.1, found'.2]
  · next missing => simp [found] at missing

theorem gaps_of_none {c : Char} {rest : List Char} (missing : boundary? (c :: rest) = none)
    (offset : Nat) : gaps offset (c :: rest) = gaps (offset + c.utf8Size) rest := by
  rw [gaps]
  split
  · next found => simp [missing] at found
  · rfl

theorem boundary?_of_no_gap {value : Char} {rest : List Char}
    (no_gap : ∀ c ∈ rest.head?, Text.isBlank c = false) : boundary? (value :: rest) = none := by
  rw [Option.eq_none_iff_forall_ne_some]
  rintro ⟨gap, behind⟩ found
  obtain @⟨_, _, gap, _, _, _, _, gap_filled, gap_blank, _⟩ := boundary_of_eq_some found
  cases gap with
  | nil => contradiction
  | cons c gap =>
      rw [List.forall_mem_cons] at gap_blank
      have visible := no_gap c rfl
      rw [gap_blank.1] at visible
      contradiction

namespace Glyph

def masked (glyph : Glyph) : List Char :=
  if glyph.quoted then List.replicate glyph.char.utf8Size '_' else [glyph.char]

def isQuoting (glyph : Glyph) : Bool :=
  glyph.quoted || glyph.char == '"'

end Glyph

def maskedLine (line : List Glyph) : List Char :=
  line.flatMap Glyph.masked

theorem masked_eq (quoted : Bool) (cs : List Char) :
    masked quoted cs = maskedLine (glyphs quoted cs) := by
  induction cs generalizing quoted with
  | nil => rfl
  | cons c rest ih =>
      rw [masked, glyphs]
      split
      · rw [ih]
        rfl
      · cases quoted <;> simp [maskedLine, Glyph.masked, ih]

@[simp] theorem byteSize_masked (glyph : Glyph) :
    Text.byteSize glyph.masked = glyph.char.utf8Size := by
  have mask : '_'.utf8Size = 1 := by decide
  rw [Glyph.masked]
  split
  · induction glyph.char.utf8Size with
    | zero => rfl
    | succ size ih => rw [List.replicate_succ, Text.byteSize_cons, ih, mask, Nat.add_comm]
  · simp

theorem byteSize_maskedLine (line : List Glyph) :
    Text.byteSize (maskedLine line) = Text.byteSize (line.map Glyph.char) := by
  induction line with
  | nil => rfl
  | cons glyph line ih =>
      rw [maskedLine, List.flatMap_cons, ← maskedLine, Text.byteSize_append, byteSize_masked, ih]
      rfl

theorem Glyph.exists_masked_eq (glyph : Glyph) :
    ∃ later, glyph.masked = (if glyph.quoted then '_' else glyph.char) :: later := by
  obtain ⟨size, size_eq⟩ := Nat.exists_eq_succ_of_ne_zero (Nat.ne_of_gt glyph.char.utf8Size_pos)
  rw [Glyph.masked]
  split
  · exact ⟨List.replicate size '_', by rw [size_eq, List.replicate_succ]⟩
  · exact ⟨[], rfl⟩

/-- Quoted characters stand beside quoted characters and quotes. -/
def Neighbours (left right : Glyph) : Prop :=
  (right.quoted = true → left.isQuoting = true) ∧ (left.quoted = true → right.isQuoting = true)

theorem head_glyphs {quoted : Bool} {cs : List Char} :
    ∀ glyph ∈ (glyphs quoted cs).head?,
      (glyph.quoted = true → quoted = true) ∧ (quoted = true → glyph.isQuoting = true) := by
  cases cs with
  | nil => simp [glyphs]
  | cons c rest =>
      rw [glyphs]
      split
      · next quote => simp [Glyph.isQuoting, quote]
      · simp +contextual [Glyph.isQuoting]

theorem isChain_glyphs (quoted : Bool) (cs : List Char) :
    (glyphs quoted cs).IsChain Neighbours := by
  induction cs generalizing quoted with
  | nil => exact .nil
  | cons c rest ih =>
      rw [glyphs]
      split
      · next quote =>
        refine List.isChain_cons.mpr ⟨fun next _ => ?_, ih _⟩
        simp [Neighbours, Glyph.isQuoting, quote]
      · refine List.isChain_cons.mpr ⟨fun next first => ?_, ih _⟩
        obtain ⟨inside, quoting⟩ := head_glyphs next first
        refine ⟨fun next_quoted => ?_, quoting⟩
        simp [Glyph.isQuoting, inside next_quoted]

theorem exists_isChain_dropWhile {q : Glyph → Bool}
    (apart : ∀ glyph : Glyph, q glyph = true → glyph.isQuoting = false) {first : Glyph}
    {line : List Glyph} (chain : (first :: line).IsChain Neighbours)
    (outside : first.isQuoting = false) :
    ∃ last, last.isQuoting = false ∧ (last :: line.dropWhile q).IsChain Neighbours := by
  induction line generalizing first with
  | nil => exact ⟨first, outside, chain⟩
  | cons glyph line ih =>
      cases inside : q glyph with
      | true =>
          rw [List.dropWhile_cons_of_pos inside]
          exact ih chain.of_cons (apart glyph inside)
      | false =>
          rw [List.dropWhile_cons_of_neg (by simp [inside])]
          exact ⟨first, outside, chain⟩

theorem run_maskedLine {p : Char → Bool} {q : Glyph → Bool}
    (same : ∀ c quoted, q ⟨c, quoted⟩ = (!quoted && p c)) {line : List Glyph}
    (stops : ∀ glyph ∈ (line.dropWhile q).head?, glyph.quoted = true → p '_' = false) :
    (maskedLine line).takeWhile p = (line.takeWhile q).map Glyph.char ∧
      (maskedLine line).dropWhile p = maskedLine (line.dropWhile q) := by
  induction line with
  | nil => simp [maskedLine]
  | cons glyph line ih =>
      obtain ⟨c, quoted⟩ := glyph
      have expand : maskedLine (⟨c, quoted⟩ :: line) =
          Glyph.masked ⟨c, quoted⟩ ++ maskedLine line := rfl
      cases inside : q ⟨c, quoted⟩ with
      | true =>
          rw [List.dropWhile_cons_of_pos inside] at stops ⊢
          rw [List.takeWhile_cons_of_pos inside]
          rw [same, Bool.and_eq_true, Bool.not_eq_true'] at inside
          obtain ⟨rfl, accepted⟩ := inside
          rw [expand]
          simp [Glyph.masked, accepted, ih stops]
      | false =>
          rw [List.dropWhile_cons_of_neg (by simp [inside])] at stops ⊢
          rw [List.takeWhile_cons_of_neg (by simp [inside])]
          have stopped : ∀ d ∈ (maskedLine (⟨c, quoted⟩ :: line)).head?, p d = false := by
            obtain ⟨later, mask⟩ := Glyph.exists_masked_eq ⟨c, quoted⟩
            rw [expand, mask]
            rintro _ ⟨⟩
            cases quoted with
            | false => exact (same c false).symm.trans inside
            | true => exact stops _ rfl rfl
          exact takeWhile_dropWhile_append (List.forall_mem_nil _) stopped

theorem Glyph.isQuoting_of_isGap (glyph : Glyph) (gap : glyph.isGap = true) :
    glyph.isQuoting = false := by
  simp only [isGap, Bool.and_eq_true, Bool.not_eq_true'] at gap
  rw [isQuoting, gap.1, Bool.false_or, beq_eq_false_iff_ne]
  intro quote
  rw [quote] at gap
  exact absurd gap.2 (by decide)

theorem Glyph.isKey_iff {glyph : Glyph} :
    glyph.isKey = true ↔ glyph.quoted = false ∧ isKeyChar glyph.char = true := by
  rw [← Bool.not_eq_true', ← Bool.and_eq_true]
  rfl

theorem Glyph.isComparison_iff {glyph : Glyph} :
    glyph.isComparison = true ↔ glyph.quoted = false ∧ isComparisonChar glyph.char = true := by
  rw [← Bool.not_eq_true', ← Bool.and_eq_true]
  rfl

theorem Glyph.isQuoting_of_isKey (glyph : Glyph) (key : glyph.isKey = true) :
    glyph.isQuoting = false := by
  obtain ⟨unquoted, key_char⟩ := isKey_iff.mp key
  rw [isQuoting, unquoted, Bool.false_or, beq_eq_false_iff_ne]
  intro quote
  rw [quote] at key_char
  exact absurd key_char (by decide)

/-- A boundary of a line behind the end of a value. -/
structure GlyphBoundary (rest gap key space : List Glyph) (mark : Glyph) (behind : List Glyph) :
    Prop where
  parts : rest = gap ++ (key ++ (space ++ mark :: behind))
  gap_filled : gap ≠ []
  gap_blank : ∀ glyph ∈ gap, glyph.isGap = true
  key_filled : key ≠ []
  key_chars : ∀ glyph ∈ key, glyph.isKey = true
  space_blank : ∀ glyph ∈ space, glyph.isGap = true
  compares : mark.isComparison = true

theorem takeWhile_ne_nil_iff {p : Glyph → Bool} {line : List Glyph} :
    line.takeWhile p ≠ [] ↔ line.head?.any p = true := by
  cases line <;> simp [List.takeWhile_cons]

theorem exists_glyphBoundary {rest : List Glyph} (starts : startsStatement rest = true) :
    ∃ gap key space mark behind, GlyphBoundary rest gap key space mark behind := by
  rw [startsStatement, startsComparison, Bool.and_eq_true, Bool.and_eq_true] at starts
  obtain ⟨gap_first, key_first, compares⟩ := starts
  generalize stop : ((rest.dropWhile Glyph.isGap).dropWhile Glyph.isKey).dropWhile
    Glyph.isGap = stopped at compares
  cases stopped with
  | nil => simp at compares
  | cons mark behind =>
      refine ⟨rest.takeWhile Glyph.isGap, (rest.dropWhile Glyph.isGap).takeWhile Glyph.isKey,
        ((rest.dropWhile Glyph.isGap).dropWhile Glyph.isKey).takeWhile Glyph.isGap, mark, behind,
        ?_, takeWhile_ne_nil_iff.mpr gap_first, fun _ => List.mem_takeWhile_imp,
        takeWhile_ne_nil_iff.mpr key_first, fun _ => List.mem_takeWhile_imp,
        fun _ => List.mem_takeWhile_imp, compares⟩
      rw [← stop, List.takeWhile_append_dropWhile, List.takeWhile_append_dropWhile,
        List.takeWhile_append_dropWhile]

theorem maskedLine_cons {glyph : Glyph} (unquoted : glyph.quoted = false) (rest : List Glyph) :
    maskedLine (glyph :: rest) = glyph.char :: maskedLine rest := by
  rw [maskedLine, List.flatMap_cons, Glyph.masked, unquoted]
  rfl

theorem maskedLine_of_unquoted {line : List Glyph}
    (unquoted : ∀ glyph ∈ line, glyph.quoted = false) :
    maskedLine line = line.map Glyph.char := by
  induction line with
  | nil => rfl
  | cons glyph line ih =>
      rw [List.forall_mem_cons] at unquoted
      rw [maskedLine_cons unquoted.1, ih unquoted.2, List.map_cons]

theorem maskedLine_append (left right : List Glyph) :
    maskedLine (left ++ right) = maskedLine left ++ maskedLine right := by
  rw [maskedLine, List.flatMap_append]
  rfl

theorem GlyphBoundary.boundary? {rest gap key space behind : List Glyph} {mark value : Glyph}
    (boundary : GlyphBoundary rest gap key space mark behind) (ends : value.endsValue = true) :
    Script.boundary? (value.char :: maskedLine rest) =
      some (gap.map Glyph.char, maskedLine behind) := by
  obtain ⟨rfl, gap_filled, gap_blank, key_filled, key_chars, space_blank, compares⟩ := boundary
  simp only [Glyph.endsValue, Glyph.isGap, Glyph.isKey, Glyph.isComparison, Bool.and_eq_true,
    Bool.not_eq_true'] at ends gap_blank key_chars space_blank compares
  have mask : maskedLine (gap ++ (key ++ (space ++ mark :: behind))) =
      gap.map Glyph.char ++ (key.map Glyph.char ++ (space.map Glyph.char ++
        mark.char :: maskedLine behind)) := by
    have mark_mask : maskedLine [mark] = [mark.char] :=
      maskedLine_of_unquoted (by simpa using compares.1)
    rw [maskedLine_append, maskedLine_append, maskedLine_append, ← List.singleton_append,
      maskedLine_append, mark_mask, maskedLine_of_unquoted fun glyph inside =>
        (gap_blank glyph inside).1, maskedLine_of_unquoted fun glyph inside =>
        (key_chars glyph inside).1, maskedLine_of_unquoted fun glyph inside =>
        (space_blank glyph inside).1]
    rfl
  rw [mask]
  refine (Boundary.mk _ ends.2 (by simpa using gap_filled) ?_ (by simpa using key_filled) ?_ ?_
    compares.2).eq_some
  · exact List.forall_mem_map.mpr fun glyph inside => (gap_blank glyph inside).2
  · exact List.forall_mem_map.mpr fun glyph inside => (key_chars glyph inside).2
  · exact List.forall_mem_map.mpr fun glyph inside => (space_blank glyph inside).2

theorem run_gap (line : List Glyph) :
    (maskedLine line).takeWhile Text.isBlank = (line.takeWhile Glyph.isGap).map Glyph.char ∧
      (maskedLine line).dropWhile Text.isBlank = maskedLine (line.dropWhile Glyph.isGap) :=
  run_maskedLine (fun _ _ => rfl) fun _ _ _ => by decide

/-- Behind a gap nothing is quoted before the next quote, so the mask has the key of the line. -/
theorem run_key {line : List Glyph} (chain : line.IsChain Neighbours)
    (gap : line.head?.any Glyph.isGap = true) :
    (maskedLine (line.dropWhile Glyph.isGap)).takeWhile isKeyChar =
        ((line.dropWhile Glyph.isGap).takeWhile Glyph.isKey).map Glyph.char ∧
      (maskedLine (line.dropWhile Glyph.isGap)).dropWhile isKeyChar =
        maskedLine ((line.dropWhile Glyph.isGap).dropWhile Glyph.isKey) := by
  cases line with
  | nil => simp at gap
  | cons first line =>
      have first_gap : first.isGap = true := gap
      rw [List.dropWhile_cons_of_pos first_gap]
      obtain ⟨last, outside, chain⟩ := exists_isChain_dropWhile Glyph.isQuoting_of_isGap chain
        (first.isQuoting_of_isGap first_gap)
      obtain ⟨last, outside, chain⟩ := exists_isChain_dropWhile Glyph.isQuoting_of_isKey chain
        outside
      refine run_maskedLine (fun _ _ => rfl) fun glyph next quoted => ?_
      rw [((List.isChain_cons.mp chain).1 glyph next).1 quoted] at outside
      contradiction

theorem isComparison_of_mask {line : List Glyph} {mark : Char} {behind : List Char}
    (mask : maskedLine line = mark :: behind) (compares : isComparisonChar mark = true) :
    line.head?.any Glyph.isComparison = true := by
  cases line with
  | nil => simp [maskedLine] at mask
  | cons glyph line =>
      obtain ⟨later, masked_eq⟩ := glyph.exists_masked_eq
      obtain ⟨c, quoted⟩ := glyph
      rw [maskedLine, List.flatMap_cons, masked_eq, List.cons_append, List.cons.injEq] at mask
      rw [← mask.1] at compares
      cases quoted with
      | false => exact compares
      | true => exact absurd (show isComparisonChar '_' = true from compares) (by decide)

theorem startsStatement_of_boundary? {value : Char} {rest : List Glyph}
    (chain : rest.IsChain Neighbours) {gap behind : List Char}
    (found : boundary? (value :: maskedLine rest) = some (gap, behind)) :
    endsValueChar value = true ∧ startsStatement rest = true := by
  obtain ⟨take_gap, drop_gap⟩ := run_gap rest
  simp only [boundary?, take_gap, drop_gap] at found
  split at found
  · simp at found
  · next mark later stop =>
    split at found
    · next whole =>
      simp only [Bool.and_eq_true, Bool.not_eq_true', List.isEmpty_eq_false_iff, ne_eq,
        List.map_eq_nil_iff] at whole
      obtain ⟨⟨⟨ends, gap_filled⟩, key_filled⟩, compares⟩ := whole
      have gap_first := takeWhile_ne_nil_iff.mp gap_filled
      obtain ⟨take_key, drop_key⟩ := run_key chain gap_first
      rw [take_key, List.map_eq_nil_iff] at key_filled
      rw [drop_key, (run_gap _).2] at stop
      have compared := isComparison_of_mask stop compares
      rw [startsStatement, startsComparison, gap_first, takeWhile_ne_nil_iff.mp key_filled,
        compared]
      exact ⟨ends, rfl⟩
    · simp at found

theorem gaps_mask {text : List Char} (no_gap : ∀ c ∈ text.head?, Text.isBlank c = false)
    (size offset : Nat) :
    gaps offset (List.replicate size '_' ++ text) = gaps (offset + size) text := by
  induction size generalizing offset with
  | zero => rfl
  | succ size ih =>
      have mask_size : '_'.utf8Size = 1 := by decide
      have missing : boundary? ('_' :: (List.replicate size '_' ++ text)) = none := by
        apply boundary?_of_no_gap
        cases size with
        | zero => exact no_gap
        | succ size =>
            rw [List.replicate_succ]
            rintro _ ⟨⟩
            decide
      rw [List.replicate_succ, List.cons_append, gaps_of_none missing, ih, mask_size]
      congr 1
      omega

theorem gaps_of_quoted {glyph : Glyph} {rest : List Glyph} (quoted : glyph.quoted = true)
    (chain : (glyph :: rest).IsChain Neighbours) (offset : Nat) :
    gaps offset (maskedLine (glyph :: rest)) =
      gaps (offset + glyph.char.utf8Size) (maskedLine rest) := by
  have no_gap : ∀ c ∈ (maskedLine rest).head?, Text.isBlank c = false := by
    cases rest with
    | nil => simp [maskedLine]
    | cons next rest =>
        obtain ⟨later, mask⟩ := next.exists_masked_eq
        have quoting := (List.isChain_cons_cons.mp chain).1.2 quoted
        rw [maskedLine, List.flatMap_cons, mask]
        rintro _ ⟨⟩
        split
        · decide
        · next unquoted =>
          obtain same : next.char = '"' := by simpa [Glyph.isQuoting, unquoted] using quoting
          rw [same]
          decide
  rw [maskedLine, List.flatMap_cons, ← maskedLine, Glyph.masked, if_pos quoted, gaps_mask no_gap]

theorem gaps_of_runs {glyph : Glyph} {rest : List Glyph} (unquoted : glyph.quoted = false)
    (chain : (glyph :: rest).IsChain Neighbours)
    (runs : (glyph.endsValue && startsStatement rest) = false) (offset : Nat) :
    gaps offset (maskedLine (glyph :: rest)) =
      gaps (offset + glyph.char.utf8Size) (maskedLine rest) := by
  have missing : boundary? (glyph.char :: maskedLine rest) = none := by
    rw [Option.eq_none_iff_forall_ne_some]
    rintro ⟨gap, behind⟩ found
    obtain ⟨ends, starts⟩ := startsStatement_of_boundary? chain.of_cons found
    have value : glyph.endsValue = true := by
      rw [Glyph.endsValue, unquoted]
      exact ends
    simp [value, starts] at runs
  rw [maskedLine_cons unquoted, gaps_of_none missing]

theorem gaps_of_glyphBoundary {glyph mark : Glyph} {rest gap key space behind : List Glyph}
    (ends : glyph.endsValue = true) (boundary : GlyphBoundary rest gap key space mark behind)
    (offset : Nat) :
    gaps offset (maskedLine (glyph :: rest)) =
      (offset + glyph.char.utf8Size,
          offset + glyph.char.utf8Size + Text.byteSize (gap.map Glyph.char)) ::
        gaps (offset + glyph.char.utf8Size + Text.byteSize (gap.map Glyph.char) +
          Text.byteSize ((key ++ (space ++ [mark])).map Glyph.char)) (maskedLine behind) := by
  have unquoted : glyph.quoted = false := by
    rw [Glyph.endsValue, Bool.and_eq_true, Bool.not_eq_true'] at ends
    exact ends.1
  rw [maskedLine_cons unquoted, gaps_of_boundary (boundary.boundary? ends)]
  have size : Text.byteSize (glyph.char :: maskedLine rest) - Text.byteSize (maskedLine behind) =
      glyph.char.utf8Size + Text.byteSize (gap.map Glyph.char) +
        Text.byteSize ((key ++ (space ++ [mark])).map Glyph.char) := by
    rw [Text.byteSize_cons, byteSize_maskedLine, byteSize_maskedLine, boundary.parts]
    simp only [List.map_append, List.map_cons, List.map_nil, Text.byteSize_append,
      Text.byteSize_cons, Text.byteSize_nil]
    omega
  rw [size]
  simp only [Nat.add_assoc]

end EventWiki.Script
