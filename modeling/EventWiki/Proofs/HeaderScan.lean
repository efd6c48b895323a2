import EventWiki.Proofs.FindingLines
import EventWiki.Proofs.HeaderNames

namespace EventWiki

/-! The scan for headers only counts braces, and never below zero. -/

namespace Outline

variable {outline : Outline} {index above : Nat} {token : Token}

namespace WellFormed

def depth (wellFormed : outline.WellFormed) (index : Nat) : Nat :=
  (wellFormed.ancestors index).length

theorem ancestors_of_root (wellFormed : outline.WellFormed) : wellFormed.ancestors 0 = [] := by
  rw [ancestors]
  split <;> simp_all

theorem ancestors_push (wellFormed : outline.WellFormed)
    (pushed : (outline.push above token).WellFormed) (bound : index < outline.size) :
    pushed.ancestors index = wellFormed.ancestors index := by
  induction index using Nat.strong_induction_on with
  | _ index ih =>
      cases index with
      | zero => rw [ancestors_of_root, ancestors_of_root]
      | succ index =>
          obtain ⟨parent, link⟩ := exists_parent bound
          have kept := parent?_push_of_parent? link above token
          by_cases top : parent = 0
          · subst top
            rw [wellFormed.ancestors_of_top link, pushed.ancestors_of_top kept]
          · have before := wellFormed.parent_lt link
            rw [wellFormed.ancestors_of_child link top, pushed.ancestors_of_child kept top,
              ih parent before (Nat.lt_trans before bound)]

theorem depth_push (wellFormed : outline.WellFormed)
    (pushed : (outline.push above token).WellFormed) (bound : index < outline.size) :
    pushed.depth index = wellFormed.depth index := by
  rw [depth, depth, wellFormed.ancestors_push pushed bound]

end WellFormed

end Outline

namespace Script

theorem ancestors_of_linked {outline : Outline} (wellFormed : outline.WellFormed)
    {blocks : List OpenBlock} (linked : Linked outline blocks) {index : Nat}
    (link : outline.parent? index = some ((blocks.head?.map OpenBlock.index).getD 0)) :
    wellFormed.ancestors index = blocks.map OpenBlock.index := by
  induction blocks generalizing index with
  | nil => exact wellFormed.ancestors_of_top link
  | cons block blocks ih =>
      simp only [List.head?_cons, Option.map_some, Option.getD_some] at link
      have inner : block.index ≠ 0 := by
        intro root
        have parent_eq := linked.1
        rw [root, Outline.parent?_zero] at parent_eq
        contradiction
      rw [wellFormed.ancestors_of_child link inner, ih linked.2 linked.1, List.map_cons]

def nestingBehind (nesting : Nat) (line : String) : Nat :=
  if line.toList.getLast? = some '{' then nesting + 1
  else if line.toList = ['}'] then nesting - 1
  else nesting

def headerOf (level nesting : Nat) (line : String) : List String :=
  if line.toList.getLast? = some '{' ∧ nesting = level then [headerName line.toList.dropLast]
  else []

theorem headersFrom_cons (level nesting : Nat) (line : String) (rest : List String) :
    headersFrom level nesting (line :: rest) =
      headerOf level nesting line ++ headersFrom level (nestingBehind nesting line) rest := by
  rw [headersFrom, headerOf, nestingBehind]
  by_cases opens : line.toList.getLast? = some '{'
  · by_cases here : nesting = level <;> simp [opens, here]
  · by_cases closes : line.toList = ['}'] <;> simp [opens, closes]

theorem headersFrom_append (level nesting : Nat) (before after : List String) :
    headersFrom level nesting (before ++ after) = headersFrom level nesting before ++
      headersFrom level (before.foldl nestingBehind nesting) after := by
  induction before generalizing nesting with
  | nil => rfl
  | cons line before ih =>
      rw [List.cons_append, headersFrom_cons, headersFrom_cons, ih, List.append_assoc,
        List.foldl_cons]

theorem headersFrom_concat (level nesting : Nat) (done : List String) (line : String) :
    headersFrom level nesting (done ++ [line]) = headersFrom level nesting done ++
      headerOf level (done.foldl nestingBehind nesting) line := by
  rw [headersFrom_append, headersFrom_cons, headersFrom, List.append_nil]

/-- A closing brace more, at a place where no block is open for the scan. -/
inductive StrayClosing : List String → List String → Prop where
  | insert (before after : List String) (unnested : before.foldl nestingBehind 0 = 0) :
      StrayClosing (before ++ after) (before ++ "\x7d" :: after)

theorem StrayClosing.headersFrom_eq {lines more : List String} (stray : StrayClosing lines more)
    (level : Nat) : headersFrom level 0 more = headersFrom level 0 lines := by
  cases stray with
  | insert before after unnested =>
      rw [headersFrom_append, headersFrom_append, unnested, headersFrom_cons]
      rfl

theorem headersFrom_of_strayClosings {lines more : List String}
    (strays : Relation.ReflTransGen StrayClosing lines more) (level : Nat) :
    headersFrom level 0 more = headersFrom level 0 lines := by
  induction strays with
  | refl => rfl
  | tail _ stray ih => rw [stray.headersFrom_eq, ih]

/-- The line of a node. There is one node below the root for each line that is no closing brace. -/
def nodeLine? (lines : List String) : Nat → Option String
  | 0 => none
  | node + 1 => (lines.filter fun line => !(LineRole.ofLine line).closes)[node]?

def opensBlock (lines : List String) (node : Nat) : Bool :=
  (nodeLine? lines node).any fun line => line.toList.getLast? = some '{'

/-- The kinds of the nodes at a depth whose lines end in opening braces, in depth-first order. -/
def headerKinds {outline : Outline} (wellFormed : outline.WellFormed) (lines : List String)
    (depth : Nat) : List String :=
  ((wellFormed.preorder 0).filter fun node =>
    decide (wellFormed.depth node = depth) && opensBlock lines node).map
      fun node => (outline.tokenAt node).kind

theorem nodeLine?_concat_of_closes {line : String} (closes : (LineRole.ofLine line).closes = true)
    (done : List String) (node : Nat) : nodeLine? (done ++ [line]) node = nodeLine? done node := by
  cases node with
  | zero => rfl
  | succ node => simp [nodeLine?, List.filter_append, closes]

theorem nodeLine?_concat_of_le {done : List String} {node : Nat} (early : node ≤ tokenCount done)
    (line : String) : nodeLine? (done ++ [line]) node = nodeLine? done node := by
  cases node with
  | zero => rfl
  | succ node =>
      rw [tokenCount, List.countP_eq_length_filter] at early
      rw [nodeLine?, nodeLine?, List.filter_append, List.getElem?_append_left early]

theorem nodeLine?_concat_last {line : String} (stays : (LineRole.ofLine line).closes = false)
    (done : List String) : nodeLine? (done ++ [line]) (tokenCount done + 1) = some line := by
  rw [nodeLine?, tokenCount, List.countP_eq_length_filter, List.filter_append,
    List.getElem?_append_right (Nat.le_refl _)]
  simp [stays]

theorem headerKinds_concat_of_closes {outline : Outline} {line : String}
    (closes : (LineRole.ofLine line).closes = true) (wellFormed : outline.WellFormed)
    (done : List String) (depth : Nat) :
    headerKinds wellFormed (done ++ [line]) depth = headerKinds wellFormed done depth := by
  simp only [headerKinds, opensBlock, nodeLine?_concat_of_closes closes]

theorem headerKinds_push {outline : Outline} {above : Nat} {token : Token} {done : List String}
    {line : String} (wellFormed : outline.WellFormed)
    (pushed : (outline.push above token).WellFormed) (ordered : outline.DepthFirst)
    (pushed_ordered : (outline.push above token).DepthFirst)
    (size_eq : outline.size = tokenCount done + 1)
    (stays : (LineRole.ofLine line).closes = false) (depth : Nat) :
    headerKinds pushed (done ++ [line]) depth = headerKinds wellFormed done depth ++
      if line.toList.getLast? = some '{' ∧ pushed.depth outline.size = depth then [token.kind]
      else [] := by
  have nodes : pushed.preorder 0 = wellFormed.preorder 0 ++ [outline.size] := by
    rw [pushed.preorder_root pushed_ordered, wellFormed.preorder_root ordered, Outline.size_push,
      List.range_succ]
  have early : ∀ node ∈ wellFormed.preorder 0, node < outline.size := by
    rw [wellFormed.preorder_root ordered]
    exact fun node => List.mem_range.mp
  rw [headerKinds, nodes, List.filter_append, List.map_append, headerKinds]
  congr 1
  · have selected : ∀ node ∈ wellFormed.preorder 0,
        (decide (pushed.depth node = depth) && opensBlock (done ++ [line]) node) =
          (decide (wellFormed.depth node = depth) && opensBlock done node) := by
      intro node member
      have bound := early node member
      rw [wellFormed.depth_push pushed bound, opensBlock, opensBlock,
        nodeLine?_concat_of_le (by omega)]
    rw [List.filter_congr selected]
    refine List.map_congr_left fun node member => ?_
    rw [Outline.tokenAt_push, if_neg (Nat.ne_of_lt (early node (List.mem_of_mem_filter member)))]
  · have own_line : opensBlock (done ++ [line]) outline.size =
        decide (line.toList.getLast? = some '{') := by
      rw [opensBlock, size_eq, nodeLine?_concat_last stays, Option.any_some]
    by_cases opens : line.toList.getLast? = some '{'
    · by_cases here : pushed.depth outline.size = depth <;>
        simp [own_line, opens, here, Outline.tokenAt_push]
    · simp [own_line, opens]

structure PlainlyHeaded (line : String) : Prop where
  trimmed : Text.trim line.toList = line.toList
  single : ∀ header, line.toList = header ++ ['{'] → AtMostOneOperator header

namespace PlainlyHeaded

variable {line text : String}

theorem ofLine_eq (plain : PlainlyHeaded line) :
    LineRole.ofLine line =
      if line.toList = ['}'] then .close
      else if line.toList.getLast? = some '{' then .header (String.ofList line.toList.dropLast)
      else .leaf line := by
  rw [LineRole.ofLine, plain.trimmed, String.ofList_toList]

theorem of_close (plain : PlainlyHeaded line) (role : LineRole.ofLine line = .close) :
    line.toList = ['}'] := by
  rw [plain.ofLine_eq] at role
  split at role
  · assumption
  · split at role <;> contradiction

theorem of_header (plain : PlainlyHeaded line) (role : LineRole.ofLine line = .header text) :
    line.toList = text.toList ++ ['{'] := by
  rw [plain.ofLine_eq] at role
  split at role
  · contradiction
  · split at role
    · next opens =>
      obtain ⟨header, parts⟩ := List.getLast?_eq_some_iff.mp opens
      rw [← LineRole.header.inj role, parts, List.dropLast_concat, String.toList_ofList]
    · contradiction

theorem of_leaf (plain : PlainlyHeaded line) (role : LineRole.ofLine line = .leaf text) :
    line.toList.getLast? ≠ some '{' ∧ line.toList ≠ ['}'] := by
  rw [plain.ofLine_eq] at role
  split at role
  · contradiction
  · next stays =>
    split at role
    · contradiction
    · next unopened => exact ⟨unopened, stays⟩

end PlainlyHeaded

/-- The scan has the nesting of the open blocks and has collected the kinds of all headers. -/
structure Reading.Scans (reading : Reading) (done : List String) : Prop where
  nests : reading.Nests done
  nesting_eq : done.foldl nestingBehind 0 = reading.blocks.length
  collected : ∀ (wellFormed : reading.outline.WellFormed) (level : Nat),
    headersFrom level 0 done = headerKinds wellFormed done level

namespace Reading.Scans

variable {reading next : Reading} {done : List String} {line : String} {token : Token}

theorem start : Reading.start.Scans [] where
  nests := .start
  nesting_eq := rfl
  collected := by
    intro wellFormed level
    rw [headerKinds, wellFormed.preorder_root Nests.start.ordered]
    simp [Reading.start, opensBlock, nodeLine?, headersFrom]

theorem depth_push (scans : reading.Scans done)
    (pushed : (reading.outline.push reading.parent token).WellFormed) :
    pushed.depth reading.outline.size = reading.blocks.length := by
  have link : (reading.outline.push reading.parent token).parent? reading.outline.size =
      some reading.parent := (Outline.parent?_push ..).trans (if_pos rfl)
  rw [Outline.WellFormed.depth,
    ancestors_of_linked pushed (scans.nests.linked.push reading.parent token) link,
    List.length_map]

theorem push (scans : reading.Scans done) (nests : next.Nests (done ++ [line]))
    (outline_eq : next.outline = reading.outline.push reading.parent token)
    (stays : (LineRole.ofLine line).closes = false)
    (nesting_eq : nestingBehind reading.blocks.length line = next.blocks.length)
    (named : ∀ level, headerOf level reading.blocks.length line =
      if line.toList.getLast? = some '{' ∧ reading.blocks.length = level then [token.kind]
      else []) : next.Scans (done ++ [line]) where
  nests := nests
  nesting_eq := by rw [List.foldl_append, scans.nesting_eq, List.foldl_cons, List.foldl_nil,
    nesting_eq]
  collected := by
    obtain ⟨outline, blocks⟩ := next
    obtain rfl : outline = reading.outline.push reading.parent token := outline_eq
    intro pushed level
    have wellFormed := scans.nests.built.wellFormed
    rw [headerKinds_push wellFormed pushed scans.nests.ordered nests.ordered
      scans.nests.tracks.size_eq stays, scans.depth_push pushed, headersFrom_concat,
      scans.nesting_eq, scans.collected wellFormed, named]

theorem step (scans : reading.Scans done) (plain : PlainlyHeaded line)
    (stepped : reading.step line (done.length + 1) = .ok next) : next.Scans (done ++ [line]) := by
  have nests := scans.nests.step stepped
  cases step_ok stepped with
  | @close role block blocks stack =>
      have chars := plain.of_close role
      refine ⟨nests, ?_, fun wellFormed level => ?_⟩
      · rw [List.foldl_append, scans.nesting_eq, stack]
        simp [nestingBehind, chars]
      · rw [headersFrom_concat, headerKinds_concat_of_closes (by rw [role]; rfl),
          scans.collected wellFormed]
        simp [headerOf, chars]
  | @header text role token read =>
      have chars := plain.of_header role
      refine scans.push nests rfl (by rw [role]; rfl) ?_ fun level => ?_
      · simp [nestingBehind, chars, addBlock]
      · rw [headerOf, ← headerName_eq (plain.single text.toList chars) read, chars,
          List.dropLast_concat]
  | @leaf text role token read =>
      obtain ⟨unopened, unclosed⟩ := plain.of_leaf role
      refine scans.push nests rfl (by rw [role]; rfl) ?_ fun level => ?_
      · simp [nestingBehind, unopened, unclosed, addLeaf]
      · simp [headerOf, unopened]

end Reading.Scans

/-- The scan collects the kinds of the nodes whose lines open blocks, at every level, and closing
braces that it does not need change nothing. -/
theorem headers_eq_headerKinds :
    (∀ (source : String) (result : Outline), parse source = .ok result →
      (∀ line ∈ normalize source, ∀ header, line.toList = header ++ ['{'] →
        AtMostOneOperator header) →
      ∃ wellFormed : result.WellFormed, ∀ level,
        headers source level = headerKinds wellFormed (normalize source) level) ∧
    ∀ lines more, Relation.ReflTransGen StrayClosing lines more → ∀ level,
      headersFrom level 0 more = headersFrom level 0 lines := by
  refine ⟨fun source result parsed single => ?_, fun _ _ => headersFrom_of_strayClosings⟩
  have plain : ∀ line ∈ normalize source, PlainlyHeaded line := fun line member =>
    ⟨(settled_of_mem_normalize member).trimmed, single line member⟩
  obtain ⟨reading, scans, rfl⟩ := outline_induction (motive := Reading.Scans) parsed .start
    fun line member _ _ _ scans => scans.step (plain line member)
  exact ⟨scans.nests.built.wellFormed, scans.collected _⟩

def choiceScript : String :=
  "Event = \x7b\n  limit >= \x7b year = 1 \x7d\n  Option\n  \x7b\n  \x7d\n\x7d\n"

def choiceLines : List String :=
  ["Event = \x7b", "limit >= \x7b", "year = 1", "\x7d", "Option \x7b", "\x7d", "\x7d"]

theorem headers_eq_headerKinds_of_choice :
    ∃ result, parse choiceScript = .ok result ∧
      (∃ wellFormed : result.WellFormed, ∀ level,
        headers choiceScript level = headerKinds wellFormed (normalize choiceScript) level) ∧
      headers choiceScript 1 = ["limit", "option"] ∧
      ∀ level, headersFrom level 0 ("\x7d" :: choiceLines) = headersFrom level 0 choiceLines := by
  have parsed : parse choiceScript =
      .ok ⟨.bare rootKind,
        #[⟨0, .make "event" (some .equal) none⟩, ⟨1, .make "limit" (some .notLess) none⟩,
          ⟨2, .make "year" (some .equal) (some "1")⟩, ⟨1, .bare "option"⟩]⟩ := by
    decide +kernel
  have lines_eq : normalize choiceScript = choiceLines := by decide +kernel
  have header_eq : ∀ cs header : List Char, cs = header ++ ['{'] → header = cs.dropLast := by
    rintro _ header rfl
    rw [List.dropLast_concat]
  have single : ∀ line ∈ normalize choiceScript, ∀ header, line.toList = header ++ ['{'] →
      AtMostOneOperator header := by
    intro line member header parts
    obtain rfl := header_eq _ _ parts
    have opens : line.toList.getLast? = some '{' := by rw [parts, List.getLast?_concat]
    rw [lines_eq] at member
    simp only [choiceLines, List.mem_cons, List.not_mem_nil, or_false] at member
    rcases member with rfl | rfl | rfl | rfl | rfl | rfl | rfl
    · exact .one "Event ".toList .equal [' '] (by decide) ⟨by decide, by decide, by decide⟩
        ⟨by decide, by decide, by decide⟩
    · exact .one "limit ".toList .atLeast [' '] (by decide) ⟨by decide, by decide, by decide⟩
        ⟨by decide, by decide, by decide⟩
    · exact absurd opens (by decide)
    · exact absurd opens (by decide)
    · exact .none ⟨by decide, by decide, by decide⟩
    · exact absurd opens (by decide)
    · exact absurd opens (by decide)
  exact ⟨_, parsed, headers_eq_headerKinds.1 _ _ parsed single, by decide +kernel,
    headers_eq_headerKinds.2 _ _ (.single (.insert [] choiceLines rfl))⟩

end Script

end EventWiki
