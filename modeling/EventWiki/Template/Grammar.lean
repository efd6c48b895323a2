import EventWiki.Decimal.Whole
import EventWiki.ScriptError
import EventWiki.Template

namespace EventWiki.Template

/-! The written form of a template: a doubled percent sign is a percent sign, `%s` is a slot for
the next value, `%2$s` a slot for the second one, the operator marker is the operator, and every
other character but a percent sign stands for itself. -/

inductive Fault where
  /-- What `rest` begins with starts nothing. -/
  | stray (rest : List Char)
  /-- The number of the slot before `rest` is zero or too large. -/
  | slotNumber (rest : List Char)
  deriving DecidableEq, Repr

namespace Fault

def rest : Fault → List Char
  | stray rest => rest
  | slotNumber rest => rest

/-- A parser error that gives no context, as the parser library shows it. -/
def noContext : String := "Parsing Failure: ContextError \x7b context: [], cause: None \x7d"

def message : Fault → String
  | stray rest => "unexpected character: '" ++ String.singleton (rest.headD '?') ++ "'"
  | slotNumber _ => "parse error: " ++ noContext

end Fault

/-- The digits of a numbered slot behind its percent sign, and the text behind the slot. -/
def slot? (cs : List Char) : Option (List Char × List Char) :=
  let digits := cs.takeWhile Char.isDigit
  match cs.dropWhile Char.isDigit with
  | '$' :: 's' :: rest => if digits.isEmpty then none else some (digits, rest)
  | _ => none

def slotIndex? (digits : List Char) : Option Nat :=
  match Decimal.ofDigits digits with
  | 0 => none
  | index + 1 => if index + 1 < Decimal.wordLimit then some index else none

/-- Puts a character in front; neighbouring characters form one literal. -/
def addChar (c : Char) : List Segment → List Segment
  | .literal text :: rest => .literal (String.singleton c ++ text) :: rest
  | rest => .literal (String.singleton c) :: rest

theorem length_of_slot? {cs digits rest : List Char} (h : slot? cs = some (digits, rest)) :
    rest.length < cs.length := by
  simp only [slot?] at h
  split at h
  · next tail heq =>
    split at h
    · simp at h
    · simp only [Option.some.injEq, Prod.mk.injEq] at h
      obtain ⟨-, rfl⟩ := h
      have hlength := (List.dropWhile_sublist (p := Char.isDigit) (l := cs)).length_le
      rw [heq] at hlength
      simp only [List.length_cons] at hlength
      omega
  · simp at h

theorem length_of_marker {cs rest : List Char}
    (h : operatorMarker.toList.isPrefixOf? cs = some rest) : rest.length < cs.length := by
  have hcut : Text.cutAtFirst? operatorMarker.toList cs = some ([], rest) := by
    cases cs with
    | nil => simp [operatorMarker] at h
    | cons c cs => simp [Text.cutAtFirst?, h]
  rw [Text.eq_append_of_cutAtFirst? hcut]
  simp [operatorMarker]
  omega

def segments? : List Char → Except Fault (List Segment)
  | [] => .ok []
  | '%' :: '%' :: rest => (segments? rest).map (addChar '%')
  | '%' :: 's' :: rest => (segments? rest).map (.value none :: ·)
  | '%' :: rest =>
      match _h : slot? rest with
      | none => .error (.stray ('%' :: rest))
      | some (digits, behind) =>
          match slotIndex? digits with
          | some index => (segments? behind).map (.value (some index) :: ·)
          | none => .error (.slotNumber behind)
  | c :: rest =>
      match _h : operatorMarker.toList.isPrefixOf? (c :: rest) with
      | some behind => (segments? behind).map (.operator :: ·)
      | none => (segments? rest).map (addChar c)
termination_by cs => cs.length
decreasing_by
  · simp only [List.length_cons]; omega
  · simp only [List.length_cons]; omega
  · exact Nat.lt_succ_of_lt (length_of_slot? _h)
  · exact length_of_marker _h
  · exact Nat.lt_succ_self _

@[simp] theorem segments?_nil : segments? [] = .ok [] := by
  rw [segments?]

@[simp] theorem segments?_escape (rest : List Char) :
    segments? ('%' :: '%' :: rest) = (segments? rest).map (addChar '%') := by
  rw [segments?]

@[simp] theorem segments?_next (rest : List Char) :
    segments? ('%' :: 's' :: rest) = (segments? rest).map (.value none :: ·) := by
  rw [segments?]

theorem segments?_marker (rest : List Char) :
    segments? (operatorMarker.toList ++ rest) = (segments? rest).map (.operator :: ·) := by
  have hmarker : operatorMarker.toList.isPrefixOf? (operatorMarker.toList ++ rest) = some rest := by
    simp [operatorMarker, Text.isPrefixOf?_cons_cons]
  have hcons : operatorMarker.toList ++ rest = '[' :: (operatorMarker.toList.tail ++ rest) := by
    simp [operatorMarker]
  rw [hcons] at hmarker ⊢
  rw [segments?]
  · split
    · next behind heq =>
      rw [hmarker] at heq
      simp only [Option.some.injEq] at heq
      rw [heq]
    · next heq => simp [hmarker] at heq
  all_goals simp

theorem segments?_char {c : Char} {rest : List Char} (hpercent : c ≠ '%')
    (hmarker : operatorMarker.toList.isPrefixOf? (c :: rest) = none) :
    segments? (c :: rest) = (segments? rest).map (addChar c) := by
  rw [segments?]
  · split
    · next behind heq => simp [hmarker] at heq
    · rfl
  all_goals
    intros
    exact hpercent ‹_›

/-- Reads a template. A fault is placed at the byte where the rest of the text begins. -/
def read (source : String) : Except ScriptError Template :=
  let cs := source.toList
  match segments? cs with
  | .ok segments => .ok ⟨source, segments⟩
  | .error fault =>
      .error (.badWording 1 (Text.byteSize cs - Text.byteSize fault.rest + 1) fault.message)

end EventWiki.Template
