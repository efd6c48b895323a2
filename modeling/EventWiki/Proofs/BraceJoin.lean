import EventWiki.Script.StatementLine
import Mathlib

namespace EventWiki.Script

variable {lines : List (List Char)}

theorem joinBraces_cons {line : List Char} {rest : List (List Char)}
    (apart : rest.head? = some ['{'] → takesBrace line = false) :
    joinBraces (line :: rest) = line :: joinBraces rest := by
  cases rest with
  | nil => rfl
  | cons next rest =>
      rw [joinBraces, if_neg]
      simp only [Bool.and_eq_true, decide_eq_true_eq, not_and]
      rintro rfl
      simp [apart rfl]

theorem joinBraces_append {rest : List (List Char)} (apart : rest.head? ≠ some ['{']) :
    joinBraces (lines ++ rest) = joinBraces lines ++ joinBraces rest := by
  induction lines using joinBraces.induct with
  | case1 line next behind joined ih =>
      rw [List.cons_append, List.cons_append, joinBraces, joinBraces, if_pos joined, if_pos joined,
        ih, List.cons_append]
  | case2 line next behind refused ih =>
      rw [List.cons_append, List.cons_append, joinBraces, joinBraces, if_neg refused,
        if_neg refused, ← List.cons_append, ih, List.cons_append]
  | case3 line => exact joinBraces_cons fun alone => absurd alone apart
  | case4 => rfl

theorem forall_mem_joinBraces {p : List Char → Prop} (all : ∀ line ∈ lines, p line)
    (join : ∀ line, p line → takesBrace line = true → p (line ++ [' ', '{'])) :
    ∀ line ∈ joinBraces lines, p line := by
  induction lines using joinBraces.induct with
  | case1 line next rest joined ih =>
      simp only [List.forall_mem_cons] at all
      rw [joinBraces, if_pos joined, List.forall_mem_cons]
      rw [Bool.and_eq_true] at joined
      exact ⟨join line all.1 joined.2, ih all.2.2⟩
  | case2 line next rest apart ih =>
      rw [List.forall_mem_cons] at all
      rw [joinBraces, if_neg apart, List.forall_mem_cons]
      exact ⟨all.1, ih all.2⟩
  | case3 line => exact all
  | case4 => exact all

theorem flatMap_joinBraces {β : Type} {f : List Char → List β}
    (join : ∀ line ∈ lines, takesBrace line = true →
      f (line ++ [' ', '{']) = f line ++ f ['{']) :
    (joinBraces lines).flatMap f = lines.flatMap f := by
  induction lines using joinBraces.induct with
  | case1 line next rest joined ih =>
      simp only [List.forall_mem_cons] at join
      rw [joinBraces, if_pos joined, List.flatMap_cons, ih join.2.2]
      simp only [Bool.and_eq_true, decide_eq_true_eq] at joined
      rw [join.1 joined.2, List.flatMap_cons, List.flatMap_cons, List.append_assoc, joined.1]
  | case2 line next rest apart ih =>
      rw [List.forall_mem_cons] at join
      rw [joinBraces, if_neg apart, List.flatMap_cons, ih join.2]
      rfl
  | case3 line => rfl
  | case4 => rfl

theorem takesBrace_joined (line : List Char) : takesBrace (line ++ [' ', '{']) = false := by
  simp [takesBrace]

theorem head?_joinBraces (alone : (joinBraces lines).head? = some ['{']) :
    lines.head? = some ['{'] := by
  cases lines using joinBraces.fun_cases with
  | case1 line next rest joined =>
      rw [joinBraces, if_pos joined, List.head?_cons, Option.some_inj] at alone
      have short := congrArg List.length alone
      simp only [List.length_append, List.length_cons, List.length_nil] at short
      omega
  | case2 line next rest apart => simpa [joinBraces, apart] using alone
  | case3 line => exact alone
  | case4 => exact alone

theorem joinBraces_joinBraces (lines : List (List Char)) :
    joinBraces (joinBraces lines) = joinBraces lines := by
  induction lines using joinBraces.induct with
  | case1 line next rest joined ih =>
      rw [joinBraces, if_pos joined, joinBraces_cons fun _ => takesBrace_joined line, ih]
  | case2 line next rest apart ih =>
      rw [joinBraces, if_neg apart, joinBraces_cons, ih]
      intro alone
      obtain rfl : next = ['{'] := by simpa using head?_joinBraces alone
      simpa using apart
  | case3 line => rfl
  | case4 => rfl

end EventWiki.Script
