import EventWiki.Proofs.CheckedResults
import EventWiki.Proofs.LetterCase
import EventWiki.Rulebook.Draft

namespace EventWiki.Rulebook

variable {α β γ : Type} {key : String}

/-- The value of the last entry whose key is this one in lower case. -/
def latest? (entries : List (String × α)) (key : String) : Option α :=
  (entries.reverse.find? fun entry => Text.lowerCase entry.1 == key).map Prod.snd

@[simp] theorem latest?_nil (key : String) : latest? ([] : List (String × α)) key = none := rfl

theorem latest?_concat (entries : List (String × α)) (name : String) (value : α) (key : String) :
    latest? (entries ++ [(name, value)]) key =
      if Text.lowerCase name = key then some value else latest? entries key := by
  rw [latest?, List.reverse_concat, List.find?_cons]
  by_cases here : Text.lowerCase name = key
  · simp [here]
  · rw [if_neg here, beq_eq_false_iff_ne.mpr here]
    rfl

theorem latest?_append (left right : List (String × α)) (key : String) :
    latest? (left ++ right) key = (latest? right key).or (latest? left key) := by
  rw [latest?, List.reverse_append, List.find?_append, Option.map_or]
  rfl

theorem latest?_map (change : α → β) (entries : List (String × α)) (key : String) :
    latest? (entries.map (Prod.map id change)) key = (latest? entries key).map change := by
  induction entries using List.reverseRecOn with
  | nil => rfl
  | append_singleton entries entry ih =>
      rw [List.map_append, List.map_singleton, Prod.map, latest?_concat, latest?_concat, ih]
      split <;> simp_all

theorem map_latest?_congr {results : List (String × β)} {entries : List (String × α)}
    {result : β → γ} {value : α → γ}
    (same : results.map (Prod.map id result) = entries.map (Prod.map id value)) (key : String) :
    (latest? results key).map result = (latest? entries key).map value := by
  rw [← latest?_map, same, latest?_map]

namespace Draft

theorem getElem?_enter (dictionary : Dictionary α) (entries : List (String × α)) (key : String) :
    (enter dictionary entries)[key]? = (latest? entries key).or dictionary[key]? := by
  induction entries using List.reverseRecOn with
  | nil => rfl
  | append_singleton entries entry ih =>
      rw [getElem?_enter_concat, ih, latest?_concat]
      split <;> rfl

theorem getElem?_enter_empty (entries : List (String × α)) (key : String) :
    (enter ∅ entries)[key]? = latest? entries key := by
  rw [getElem?_enter, Std.TreeMap.getElem?_emptyc, Option.or_none]

theorem read_of_readTemplate {source : String} {template : Template}
    (read : readTemplate key source = .ok template) : Template.read source = .ok template := by
  rw [readTemplate] at read
  split at read
  · contradiction
  · exact read

theorem map_ok_of_readAll {unread : List (String × String)} {templates : List (String × Template)}
    (read : readAll unread = .ok templates) :
    templates.map (Prod.map id Except.ok) = unread.map (Prod.map id Template.read) := by
  induction unread generalizing templates with
  | nil =>
      obtain rfl := Except.ok.inj read
      rfl
  | cons entry rest ih =>
      obtain ⟨first, first_read, read⟩ := bind_eq_ok read
      obtain ⟨others, others_read, read⟩ := bind_eq_ok read
      obtain rfl := Except.ok.inj read
      rw [List.map_cons, List.map_cons, ih others_read, Prod.map, Prod.map,
        read_of_readTemplate first_read]

theorem exists_read_of_readAll {unread : List (String × String)}
    {templates : List (String × Template)} (read : readAll unread = .ok templates) :
    ∀ entry ∈ templates, ∃ source, Template.read source = .ok entry.2 := by
  intro entry member
  have listed : (entry.1, .ok entry.2) ∈ unread.map (Prod.map id Template.read) := by
    rw [← map_ok_of_readAll read]
    exact List.mem_map_of_mem member
  obtain ⟨⟨_, source⟩, _, same⟩ := List.mem_map.mp listed
  exact ⟨source, (Prod.mk.inj same).2⟩

theorem build_ok_iff {draft : Draft} {book : Rulebook} :
    draft.build = .ok book ↔ ∃ templates, readAll draft.unread = .ok templates ∧
      book = draft.book.withTemplates (enter draft.templates templates) := by
  rw [build]
  cases readAll draft.unread with
  | error error => simp [bind, Except.bind]
  | ok templates => simp [bind, Except.bind, pure, Except.pure, eq_comm]

/-- The last template that was added unread counts, and without one the last that was added read. -/
theorem template?_of_build {draft : Draft} {book : Rulebook} (built : draft.build = .ok book)
    (key : String) :
    (book.template? key).map .ok =
      ((latest? draft.unread (Text.lowerCase key)).map Template.read).or
        (draft.templates[Text.lowerCase key]?.map .ok) := by
  obtain ⟨templates, read, rfl⟩ := build_ok_iff.mp built
  change ((enter draft.templates templates)[Text.lowerCase key]?).map Except.ok = _
  rw [getElem?_enter, Option.map_or, map_latest?_congr (map_ok_of_readAll read)]

end Draft

end EventWiki.Rulebook
