import EventWiki.Proofs.PlainText
import EventWiki.Text.LowerCase

namespace EventWiki.Text

variable {before cs rest : List Char} {c x : Char}

def bitsOf (codes : List Nat) : Nat :=
  codes.foldl (fun bits code => bits ||| 1 <<< code) 0

theorem testBit_bitsOf {codes : List Nat} {code : Nat} :
    (bitsOf codes).testBit code = true ↔ code ∈ codes := by
  induction codes using List.reverseRecOn with
  | nil => simp [bitsOf]
  | append_singleton codes last ih =>
      rw [bitsOf, List.foldl_append, ← bitsOf, List.foldl_cons, List.foldl_nil, Nat.testBit_or,
        Bool.or_eq_true, ih, Nat.one_shiftLeft, Nat.testBit_two_pow, decide_eq_true_iff,
        List.mem_append, List.mem_singleton, eq_comm]

theorem disjoint_of_bitsOf {codes others : List Nat} (apart : bitsOf codes &&& bitsOf others = 0)
    {code : Nat} (member : code ∈ codes) : code ∉ others := by
  intro other
  have both := congrArg (Nat.testBit · code) apart
  simp [testBit_bitsOf.mpr member, testBit_bitsOf.mpr other] at both

namespace CaseRun

def partners (run : CaseRun) : Nat × Nat :=
  (run.lower, run.lower + (run.last - run.first))

def codes (run : CaseRun) : List Nat :=
  (List.range ((run.last - run.first) / run.step + 1)).map fun index =>
    run.first + run.step * index

theorem lower?_eq_some_iff {run : CaseRun} {code lower : Nat} :
    run.lower? code = some lower ↔ (run.first ≤ code ∧ code ≤ run.last) ∧
      (code - run.first) % run.step = 0 ∧ run.lower + (code - run.first) = lower := by
  rw [lower?]
  split
  · next inside => simp_all
  · next outside =>
    simp only [reduceCtorEq, false_iff]
    rintro ⟨⟨low, high⟩, even, _⟩
    simp [low, high, even] at outside

theorem mem_codes_of_lower? {run : CaseRun} {code lower : Nat}
    (lowers : run.lower? code = some lower) : code ∈ run.codes := by
  obtain ⟨⟨low, high⟩, place, _⟩ := lower?_eq_some_iff.mp lowers
  have whole := Nat.div_add_mod (code - run.first) run.step
  have bound : (code - run.first) / run.step ≤ (run.last - run.first) / run.step :=
    Nat.div_le_div_right (by omega)
  exact List.mem_map.mpr
    ⟨(code - run.first) / run.step, List.mem_range.mpr (by omega), by omega⟩

theorem lower?_eq_none_of_lower? {run other : CaseRun} (member : run ∈ caseRuns)
    (other_member : other ∈ caseRuns) {code lower : Nat} (lowers : run.lower? code = some lower) :
    other.lower? lower = none := by
  -- There are too many pairs of runs to look at each, but all codes fit into two sets of bits.
  have apart : bitsOf (caseRuns.flatMap codes) &&& bitsOf (caseRuns.flatMap fun run =>
      run.codes.map fun code => run.lower + (code - run.first)) = 0 := by
    decide +kernel
  rw [Option.eq_none_iff_forall_ne_some]
  intro again lowers_again
  refine disjoint_of_bitsOf apart
    (List.mem_flatMap.mpr ⟨other, other_member, mem_codes_of_lower? lowers_again⟩) ?_
  refine List.mem_flatMap.mpr ⟨run, member, List.mem_map.mpr ⟨code, mem_codes_of_lower? lowers, ?_⟩⟩
  exact (lower?_eq_some_iff.mp lowers).2.2

/-- What lower-casing a run relies on: its partners are characters, and no capitals that are treated
apart. -/
structure IsSettled (run : CaseRun) : Prop where
  valid : run.partners.2 < 0xD800 ∨ 0xDFFF < run.partners.1 ∧ run.partners.2 < 0x110000
  ascii : 0x80 ≤ run.partners.1 ∨ 0x61 ≤ run.partners.1 ∧ run.partners.2 ≤ 0x7A
  not_dotted : run.partners.2 < 0x130 ∨ 0x130 < run.partners.1
  not_sigma : run.partners.2 < 0x3A3 ∨ 0x3A3 < run.partners.1

theorem isSettled_of_mem {run : CaseRun} (member : run ∈ caseRuns) : run.IsSettled := by
  have valid : ∀ run ∈ caseRuns, run.partners.2 < 0xD800 ∨
      0xDFFF < run.partners.1 ∧ run.partners.2 < 0x110000 := by
    decide +kernel
  have ascii : ∀ run ∈ caseRuns, 0x80 ≤ run.partners.1 ∨
      0x61 ≤ run.partners.1 ∧ run.partners.2 ≤ 0x7A := by
    decide +kernel
  have not_dotted : ∀ run ∈ caseRuns, run.partners.2 < 0x130 ∨ 0x130 < run.partners.1 := by
    decide +kernel
  have not_sigma : ∀ run ∈ caseRuns, run.partners.2 < 0x3A3 ∨ 0x3A3 < run.partners.1 := by
    decide +kernel
  exact ⟨valid run member, ascii run member, not_dotted run member, not_sigma run member⟩

end CaseRun

/-- A character that lower-casing leaves as it is, wherever it stands. -/
def IsSmall (c : Char) : Prop :=
  c ≠ 'Σ' ∧ lowerChar c = [c]

instance (c : Char) : Decidable (IsSmall c) :=
  inferInstanceAs (Decidable (_ ∧ _))

def partnerRanges : CodeRanges :=
  [(0x61, 0x7A), (0x307, 0x307), (0x3C2, 0x3C3)] ++ caseRuns.map CaseRun.partners

/-- The ASCII characters that are not small letters, and the blanks. -/
def unpartneredRanges : CodeRanges :=
  [(0, 0x60), (0x7B, 0x7F)] ++ blankRanges

theorem unpartnered_apart : unpartneredRanges.Apart partnerRanges := by
  decide +kernel

theorem unpartnered_of_isBlank (blank : isBlank c = true) :
    unpartneredRanges.contains c = true := by
  rw [unpartneredRanges, CodeRanges.contains, List.any_append, Bool.or_eq_true]
  exact .inr blank

theorem toLower_ascii (ascii : c.toNat < 0x80) :
    IsSmall c.toLower ∧ (c.toLower = c ∨ partnerRanges.contains c.toLower = true) := by
  have each : ∀ code < 0x80, IsSmall (Char.ofNat code).toLower ∧
      ((Char.ofNat code).toLower = Char.ofNat code ∨
        partnerRanges.contains (Char.ofNat code).toLower = true) := by
    decide +kernel
  have own := each c.toNat ascii
  rwa [Char.ofNat_toNat] at own

theorem CaseRun.mem_partners {run : CaseRun} {code lower : Nat}
    (lowers : run.lower? code = some lower) :
    run.partners.1 ≤ lower ∧ lower ≤ run.partners.2 := by
  obtain ⟨⟨low, high⟩, _, rfl⟩ := lower?_eq_some_iff.mp lowers
  simp only [partners]
  omega

theorem toNat_ofNat_of_lower? {run : CaseRun} (member : run ∈ caseRuns) {code lower : Nat}
    (lowers : run.lower? code = some lower) : (Char.ofNat lower).toNat = lower := by
  obtain ⟨low, high⟩ := CaseRun.mem_partners lowers
  refine (Char.toNat_ofNat lower).trans (if_pos ?_)
  rcases (CaseRun.isSettled_of_mem member).valid with below | ⟨above, bound⟩
  · exact .inl (by omega)
  · exact .inr ⟨by omega, by omega⟩

theorem isSmall_of_lower? {run : CaseRun} (member : run ∈ caseRuns) {code lower : Nat}
    (lowers : run.lower? code = some lower) :
    IsSmall (Char.ofNat lower) ∧ partnerRanges.contains (Char.ofNat lower) = true := by
  have settled := CaseRun.isSettled_of_mem member
  obtain ⟨low, high⟩ := CaseRun.mem_partners lowers
  have value := toNat_ofNat_of_lower? member lowers
  constructor
  · constructor
    · intro sigma
      have same : lower = 0x3A3 := by
        rw [← value, sigma]
        rfl
      rcases settled.not_sigma with below | above <;> omega
    · rw [lowerChar, value]
      split
      · next ascii =>
        have small : ∀ letter < 26, (Char.ofNat (0x61 + letter)).toLower =
            Char.ofNat (0x61 + letter) := by
          decide
        have letter := small (lower - 0x61) (by rcases settled.ascii with beyond | ⟨_, _⟩ <;> omega)
        rwa [Nat.add_sub_of_le (by rcases settled.ascii with beyond | ⟨_, _⟩ <;> omega),
          ← List.singleton_inj] at letter
      · rw [if_neg (by rcases settled.not_dotted with below | above <;> omega)]
        have unlowered : caseRuns.findSome? (·.lower? lower) = none :=
          List.findSome?_eq_none_iff.mpr fun other other_member =>
            CaseRun.lower?_eq_none_of_lower? member other_member lowers
        rw [unlowered]
  · rw [CodeRanges.contains_iff, value]
    exact ⟨run.partners, List.mem_append_right _ (List.mem_map_of_mem member), low, high⟩

theorem isSmall_apart : ∀ c ∈ ['i', '\u0307', 'ς', 'σ'],
    IsSmall c ∧ partnerRanges.contains c = true := by
  simp only [List.forall_mem_cons]
  refine ⟨?_, ?_, ?_, ?_, by simp⟩ <;> exact ⟨by decide +kernel, by decide +kernel⟩

theorem mem_lowerChar (other : c ≠ 'Σ') (member : x ∈ lowerChar c) :
    IsSmall x ∧ (x = c ∨ partnerRanges.contains x = true) := by
  rw [lowerChar] at member
  split at member
  · next ascii =>
    rw [List.mem_singleton.mp member]
    exact toLower_ascii ascii
  · next beyond =>
    split at member
    · simp only [List.mem_cons, List.not_mem_nil, or_false] at member
      rcases member with rfl | rfl
      · exact (isSmall_apart _ (by decide)).imp_right .inr
      · exact (isSmall_apart _ (by decide)).imp_right .inr
    · next not_dotted =>
      split at member
      · next code found =>
        obtain ⟨run, run_member, lowers⟩ := List.exists_of_findSome?_eq_some found
        rw [List.mem_singleton.mp member]
        exact (isSmall_of_lower? run_member lowers).imp_right .inr
      · next unlowered =>
        rw [List.mem_singleton.mp member]
        refine ⟨⟨other, ?_⟩, .inl rfl⟩
        rw [lowerChar, if_neg beyond, if_neg not_dotted, unlowered]

def loweredAt (before : List Char) (c : Char) (rest : List Char) : List Char :=
  if c = 'Σ' then [if meetsCased before && !meetsCased rest then 'ς' else 'σ'] else lowerChar c

theorem lowerAfter_cons (before : List Char) (c : Char) (rest : List Char) :
    lowerAfter before (c :: rest) = loweredAt before c rest ++ lowerAfter (c :: before) rest := rfl

theorem loweredAt_ne_nil (before : List Char) (c : Char) (rest : List Char) :
    loweredAt before c rest ≠ [] := by
  rw [loweredAt, lowerChar]
  split
  · simp
  · split
    · simp
    · split
      · simp
      · split <;> simp

theorem mem_loweredAt (member : x ∈ loweredAt before c rest) :
    IsSmall x ∧ (x = c ∨ partnerRanges.contains x = true) := by
  rw [loweredAt] at member
  split at member
  · rw [List.mem_singleton] at member
    split at member
    · rw [member]
      exact (isSmall_apart _ (by decide)).imp_right .inr
    · rw [member]
      exact (isSmall_apart _ (by decide)).imp_right .inr
  · next other => exact mem_lowerChar other member

theorem isSmall_of_mem_lowerAfter (member : x ∈ lowerAfter before cs) : IsSmall x := by
  induction cs generalizing before with
  | nil => simp at member
  | cons c rest ih =>
      rw [lowerAfter_cons, List.mem_append] at member
      rcases member with here | later
      · exact (mem_loweredAt here).1
      · exact ih later

theorem lowerAfter_of_isSmall (small : ∀ c ∈ cs, IsSmall c) : lowerAfter before cs = cs := by
  induction cs generalizing before with
  | nil => rfl
  | cons c rest ih =>
      rw [List.forall_mem_cons] at small
      rw [lowerAfter_cons, loweredAt, if_neg small.1.1, small.1.2, ih small.2,
        List.singleton_append]

theorem length_le_lowerAfter (before cs : List Char) :
    cs.length ≤ (lowerAfter before cs).length := by
  induction cs generalizing before with
  | nil => exact Nat.zero_le _
  | cons c rest ih =>
      have one := List.length_pos_of_ne_nil (loweredAt_ne_nil before c rest)
      have others := ih (c :: before)
      rw [lowerAfter_cons, List.length_append, List.length_cons]
      omega

theorem lowerAfter_ne_nil (filled : cs ≠ []) : lowerAfter before cs ≠ [] :=
  List.ne_nil_of_length_pos
    (Nat.lt_of_lt_of_le (List.length_pos_of_ne_nil filled) (length_le_lowerAfter before cs))

@[simp] theorem lowerCase_lowerCase (text : String) :
    lowerCase (lowerCase text) = lowerCase text := by
  rw [lowerCase, lowerCase, String.toList_ofList,
    lowerAfter_of_isSmall fun _ => isSmall_of_mem_lowerAfter]

theorem eq_of_mem_loweredAt (unpartnered : unpartneredRanges.contains x = true)
    (member : x ∈ loweredAt before c rest) : x = c := by
  rcases (mem_loweredAt member).2 with same | partner
  · exact same
  · rw [unpartnered_apart.contains_eq_false unpartnered] at partner
    simp at partner

theorem mem_of_mem_lowerAfter (unpartnered : unpartneredRanges.contains x = true)
    (member : x ∈ lowerAfter before cs) : x ∈ cs := by
  induction cs generalizing before with
  | nil => simp at member
  | cons c rest ih =>
      rw [lowerAfter_cons, List.mem_append] at member
      rcases member with here | later
      · rw [eq_of_mem_loweredAt unpartnered here]
        exact List.mem_cons_self
      · exact List.mem_cons_of_mem c (ih later)

theorem head?_of_lowerAfter (unpartnered : unpartneredRanges.contains x = true)
    (first : x ∈ (lowerAfter before cs).head?) : x ∈ cs.head? := by
  cases cs with
  | nil => simp at first
  | cons c rest =>
      rw [lowerAfter_cons, List.head?_append_of_ne_nil _ (loweredAt_ne_nil _ _ _)] at first
      rw [eq_of_mem_loweredAt unpartnered (List.mem_of_mem_head? first)]
      rfl

theorem exists_lowerAfter_concat (before cs : List Char) (c : Char) :
    ∃ front earlier, lowerAfter before (cs ++ [c]) = front ++ loweredAt earlier c [] := by
  induction cs generalizing before with
  | nil => exact ⟨[], before, by simp [lowerAfter_cons]⟩
  | cons first cs ih =>
      obtain ⟨front, earlier, parts⟩ := ih (first :: before)
      refine ⟨loweredAt before first (cs ++ [c]) ++ front, earlier, ?_⟩
      rw [List.cons_append, lowerAfter_cons, parts, List.append_assoc]

theorem getLast?_of_lowerAfter (unpartnered : unpartneredRanges.contains x = true)
    (last : x ∈ (lowerAfter before cs).getLast?) : x ∈ cs.getLast? := by
  induction cs using List.reverseRecOn with
  | nil => simp at last
  | append_singleton cs c _ =>
      obtain ⟨front, earlier, parts⟩ := exists_lowerAfter_concat before cs c
      rw [parts, List.getLast?_append_of_ne_nil _ (loweredAt_ne_nil _ _ _)] at last
      rw [eq_of_mem_loweredAt unpartnered (List.mem_of_mem_getLast? last), List.getLast?_concat]
      rfl

end EventWiki.Text
