import Mathlib

namespace EventWiki

theorem bind_eq_ok {ε α β : Type} {result : Except ε α} {next : α → Except ε β} {value : β}
    (ok : (result >>= next) = .ok value) :
    ∃ found, result = .ok found ∧ next found = .ok value := by
  cases result with
  | error error => simp [bind, Except.bind] at ok
  | ok found => exact ⟨found, rfl, ok⟩

theorem map_eq_ok {ε α β : Type} {result : Except ε α} {change : α → β} {value : β}
    (ok : result.map change = .ok value) : ∃ found, result = .ok found ∧ change found = value := by
  cases result with
  | error error => simp [Except.map] at ok
  | ok found => exact ⟨found, rfl, Except.ok.inj ok⟩

theorem exists_of_mem_mapM {ε α β : Type} {read : α → Except ε β} {items : List α}
    {results : List β} (ok : items.mapM read = .ok results) {result : β}
    (member : result ∈ results) : ∃ item ∈ items, read item = .ok result := by
  induction items generalizing results with
  | nil =>
      obtain rfl := Except.ok.inj ok
      simp at member
  | cons item rest ih =>
      rw [List.mapM_cons] at ok
      obtain ⟨first, read_first, ok⟩ := bind_eq_ok ok
      obtain ⟨others, read_others, ok⟩ := bind_eq_ok ok
      obtain rfl := Except.ok.inj ok
      rcases List.mem_cons.mp member with rfl | member
      · exact ⟨item, List.mem_cons_self, read_first⟩
      · obtain ⟨other, inside, read_other⟩ := ih read_others member
        exact ⟨other, List.mem_cons_of_mem item inside, read_other⟩

theorem map_eq_map_of_mapM {ε α β γ : Type} {read : α → Except ε β} {shown : β → γ} {told : α → γ}
    (same : ∀ item result, read item = .ok result → shown result = told item) {items : List α}
    {results : List β} (ok : items.mapM read = .ok results) :
    results.map shown = items.map told := by
  induction items generalizing results with
  | nil =>
      obtain rfl := Except.ok.inj ok
      rfl
  | cons item rest ih =>
      rw [List.mapM_cons] at ok
      obtain ⟨first, read_first, ok⟩ := bind_eq_ok ok
      obtain ⟨others, read_others, ok⟩ := bind_eq_ok ok
      obtain rfl := Except.ok.inj ok
      rw [List.map_cons, List.map_cons, same item first read_first, ih read_others]

end EventWiki
