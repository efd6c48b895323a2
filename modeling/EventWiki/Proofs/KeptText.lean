import EventWiki.Proofs.BraceCut
import EventWiki.Proofs.BraceJoin

namespace EventWiki.Script

/-- The characters of a text that `keep` admits, told whether a quotation is open before them. -/
def sift (keep : Bool → Char → Bool) (quoted : Bool) : List Char → List Char
  | [] => []
  | c :: rest =>
      let behind := sift keep (if c = '"' then !quoted else quoted) rest
      if keep quoted c then c :: behind else behind

def visible (cs : List Char) : List Char :=
  cs.filter fun c => !Text.isBlank c

/-- A text without its blanks outside quotes. -/
def dense (cs : List Char) : List Char :=
  sift (fun quoted c => quoted || !Text.isBlank c) false cs

def textOf (lines : List String) : List Char :=
  lines.flatMap String.toList

theorem sift_append (keep : Bool → Char → Bool) (quoted : Bool) (left right : List Char) :
    sift keep quoted (left ++ right) =
      sift keep quoted left ++ sift keep (quotedAfter quoted left) right := by
  induction left generalizing quoted with
  | nil => rfl
  | cons c left ih =>
      simp only [List.cons_append, sift, quotedAfter, ih]
      split <;> rfl

theorem sift_append_of_closed {keep : Bool → Char → Bool} {left : List Char}
    (closed : Closed left) (right : List Char) :
    sift keep false (left ++ right) = sift keep false left ++ sift keep false right := by
  rw [sift_append, quotedAfter_of_closed closed]

theorem sift_flatten {keep : Bool → Char → Bool} {texts : List (List Char)}
    (closed : ∀ text ∈ texts, Closed text) :
    sift keep false texts.flatten = texts.flatMap (sift keep false) := by
  induction texts with
  | nil => rfl
  | cons text texts ih =>
      rw [List.forall_mem_cons] at closed
      rw [List.flatten_cons, sift_append_of_closed closed.1, ih closed.2, List.flatMap_cons]

theorem sift_eq_nil {keep : Bool → Char → Bool} {cs : List Char} (no_quote : '"' ∉ cs)
    (refused : ∀ c ∈ cs, keep false c = false) : sift keep false cs = [] := by
  induction cs with
  | nil => rfl
  | cons c cs ih =>
      rw [List.mem_cons, not_or] at no_quote
      rw [List.forall_mem_cons] at refused
      simp [sift, Ne.symm no_quote.1, refused.1, ih no_quote.2 refused.2]

theorem sift_trim {keep : Bool → Char → Bool}
    (refused : ∀ c, Text.isBlank c = true → keep false c = false) {text : List Char}
    (closed : Closed text) : sift keep false (Text.trim text) = sift keep false text := by
  obtain ⟨lead, tail, parts, lead_blank, tail_blank⟩ := Text.trim_parts text
  have nothing : ∀ {cs : List Char}, (∀ c ∈ cs, Text.isBlank c = true) →
      sift keep false cs = [] :=
    fun blank => sift_eq_nil (not_mem_of_blank blank) fun c member => refused c (blank c member)
  conv_rhs =>
    rw [parts, sift_append_of_closed (closed_of_blank lead_blank),
      sift_append_of_closed (closed_trim_iff.mpr closed), nothing lead_blank, nothing tail_blank]
  simp

theorem visible_trim (text : List Char) : visible (Text.trim text) = visible text := by
  obtain ⟨lead, tail, parts, lead_blank, tail_blank⟩ := Text.trim_parts text
  have nothing : ∀ {cs : List Char}, (∀ c ∈ cs, Text.isBlank c = true) → visible cs = [] := by
    intro cs blank
    simpa [visible] using blank
  conv_rhs =>
    rw [parts, visible, List.filter_append, List.filter_append, ← visible, ← visible, ← visible,
      nothing lead_blank, nothing tail_blank]
  simp

theorem flatMap_statements {f code : List Char → List Char} {line : List Char}
    {texts : List (List Char)} (cut_into : CutInto (codeOf line) texts) (empty : f [] = [])
    (trim : ∀ text ∈ texts, f (Text.trim text) = code text) :
    (statements line).flatMap f = texts.flatMap code := by
  rw [cut_into.statements_eq]
  clear cut_into
  induction texts with
  | nil => rfl
  | cons text texts ih =>
      rw [List.forall_mem_cons] at trim
      rw [List.map_cons, List.filter_cons, List.flatMap_cons, ← trim.1, ← ih trim.2]
      split
      · rfl
      · next none =>
          have trimmed : Text.trim text = [] := by simpa using none
          rw [trimmed, empty, List.nil_append]

theorem flatMap_statements_of_closed {f : List Char → List Char} {keep : Bool → Char → Bool}
    {line : List Char} (closed : Closed (codeOf line)) (empty : f [] = [])
    (trim : ∀ text, Whole (glyphs false text) → Closed text →
      f (Text.trim text) = sift keep false text) :
    (statements line).flatMap f = sift keep false (codeOf line) := by
  obtain ⟨texts, cut_into⟩ := exists_cutInto (codeOf line)
  have texts_closed := cut_into.closed closed
  rw [flatMap_statements cut_into empty fun text member =>
    trim text (cut_into.whole text member) (texts_closed text member), ← sift_flatten texts_closed,
    cut_into.flatten_eq]

/-- Where each line says `code` of its code, and a joined brace what it says alone, all statement
lines say the same together. -/
theorem flatMap_joinBraces_statements {f code : List Char → List Char} {lines : List (List Char)}
    (join : ∀ statement ∈ lines.flatMap statements, takesBrace statement = true →
      f (statement ++ [' ', '{']) = f statement ++ f ['{'])
    (kept : ∀ line ∈ lines, (statements line).flatMap f = code (codeOf line)) :
    (joinBraces (lines.flatMap statements)).flatMap f = (lines.map codeOf).flatMap code := by
  rw [flatMap_joinBraces join, List.flatMap_assoc, List.flatMap_map]
  exact List.flatMap_congr kept

theorem visible_append (left right : List Char) :
    visible (left ++ right) = visible left ++ visible right :=
  List.filter_append ..

theorem visible_flatten (texts : List (List Char)) :
    visible texts.flatten = texts.flatMap visible := by
  rw [visible, List.filter_flatten]
  rfl

theorem dense_flatten {texts : List (List Char)} (closed : ∀ text ∈ texts, Closed text) :
    dense texts.flatten = texts.flatMap dense :=
  sift_flatten closed

theorem dense_trim {text : List Char} (closed : Closed text) :
    dense (Text.trim text) = dense text :=
  sift_trim (by simp) closed

theorem visible_statements (line : List Char) :
    (statements line).flatMap visible = visible (codeOf line) := by
  obtain ⟨texts, cut_into⟩ := exists_cutInto (codeOf line)
  rw [flatMap_statements cut_into rfl fun text _ => visible_trim text, ← visible_flatten,
    cut_into.flatten_eq]

theorem dense_statements {line : List Char} (closed : Closed (codeOf line)) :
    (statements line).flatMap dense = dense (codeOf line) := by
  apply flatMap_statements_of_closed closed
  · rfl
  · intro text _ text_closed
    exact dense_trim text_closed

theorem closed_of_mem_statements {line statement : List Char} (closed : Closed (codeOf line))
    (member : statement ∈ statements line) : Closed statement := by
  obtain ⟨texts, cut_into⟩ := exists_cutInto (codeOf line)
  obtain ⟨text, text_member, rfl, _⟩ := cut_into.exists_of_mem_statements member
  exact closed_trim_iff.mpr (cut_into.closed closed text text_member)

theorem Closed.join {line : List Char} (closed : Closed line) : Closed (line ++ [' ', '{']) :=
  (closed_append_iff_left (by decide)).mpr closed

theorem textOf_normalize (source : String) : textOf (normalize source) =
    (joinBraces ((Text.lines source.toList).flatMap statements)).flatten := by
  rw [textOf, normalize, List.flatMap_map]
  simp [List.flatMap_id']

/-- Statement lines keep the code of every physical line, up to blanks. -/
theorem normalize_keeps_text {source : String} {codes : List (List Char)}
    (cut_source : List.Forall₂ IsCodeOf (Text.lines source.toList) codes) :
    visible (textOf (normalize source)) = visible codes.flatten ∧
      ((∀ code ∈ codes, Closed code) →
        dense (textOf (normalize source)) = dense codes.flatten) := by
  obtain rfl := forall₂_isCodeOf_iff.mp cut_source
  rw [textOf_normalize]
  refine ⟨?_, fun codes_closed => ?_⟩
  · rw [visible_flatten, visible_flatten]
    refine flatMap_joinBraces_statements (fun statement _ _ => ?_) fun line _ =>
      visible_statements line
    exact visible_append statement [' ', '{']
  · rw [List.forall_mem_map] at codes_closed
    have statements_closed : ∀ statement ∈ (Text.lines source.toList).flatMap statements,
        Closed statement := by
      intro statement member
      obtain ⟨line, line_member, member⟩ := List.mem_flatMap.mp member
      exact closed_of_mem_statements (codes_closed line line_member) member
    have lines_closed := forall_mem_joinBraces statements_closed fun _ closed _ => closed.join
    rw [dense_flatten lines_closed, dense_flatten (List.forall_mem_map.mpr codes_closed)]
    refine flatMap_joinBraces_statements (fun statement member _ => ?_) fun line member =>
      dense_statements (codes_closed line member)
    exact sift_append_of_closed (statements_closed statement member) [' ', '{']

def quotedSource : String :=
  "text  = \"#1  \x7b\" tag= x\n\x7b \x7d # \x7d"

def quotedCodes : List (List Char) :=
  ["text  = \"#1  \x7b\" tag= x".toList, "\x7b \x7d ".toList]

theorem normalize_keeps_quotedSource :
    List.Forall₂ IsCodeOf (Text.lines quotedSource.toList) quotedCodes ∧
      (∀ code ∈ quotedCodes, Closed code) ∧
      visible (textOf (normalize quotedSource)) = visible quotedCodes.flatten ∧
      dense (textOf (normalize quotedSource)) = dense quotedCodes.flatten := by
  have cut_source : List.Forall₂ IsCodeOf (Text.lines quotedSource.toList) quotedCodes :=
    forall₂_isCodeOf_iff.mpr (by decide +kernel)
  have closed : ∀ code ∈ quotedCodes, Closed code := by decide +kernel
  obtain ⟨all_visible, all_dense⟩ := normalize_keeps_text cut_source
  exact ⟨cut_source, closed, all_visible, all_dense closed⟩

end EventWiki.Script
