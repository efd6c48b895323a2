import EventWiki.Rulebook.Basic
import EventWiki.Template.Grammar

namespace EventWiki.Rulebook

/-! A later entry replaces an earlier one for the same key, except that the children of parent
exceptions add up. -/

structure Draft where
  /-- Templates that have not been read, in the order they were added. -/
  unread : List (String × String)
  templates : Dictionary Template
  book : Rulebook

namespace Draft

def empty : Draft :=
  ⟨[], ∅, Rulebook.empty⟩

/-- Enters values under the lower-case forms of their keys. -/
def enter {α : Type} (dictionary : Dictionary α) (entries : List (String × α)) : Dictionary α :=
  entries.foldl (fun known (key, value) => known.insert (Text.lowerCase key) value) dictionary

def lowerAll (items : List String) : List String :=
  items.map Text.lowerCase

def addTemplates (draft : Draft) (entries : List (String × String)) : Draft :=
  { draft with unread := draft.unread ++ entries }

def addReadTemplates (draft : Draft) (entries : List (String × Template)) : Draft :=
  { draft with templates := enter draft.templates entries }

def addOperatorWords (draft : Draft) (entries : List (Operator × String)) : Draft :=
  { draft with book.operatorWords := entries.reverse ++ draft.book.operatorWords }

def addValueKinds (draft : Draft) (entries : List (String × ValueKind)) : Draft :=
  { draft with book.valueKinds := enter draft.book.valueKinds entries }

def addNamedBlocks (draft : Draft) (entries : List (String × List String)) : Draft :=
  { draft with
    book.namedBlocks := enter draft.book.namedBlocks
      (entries.map fun (kind, names) => (kind, lowerAll names)) }

def addMergedBlocks (draft : Draft) (entries : List (String × List String)) : Draft :=
  { draft with
    book.mergedBlocks := enter draft.book.mergedBlocks
      (entries.map fun (kind, slots) => (kind, lowerAll slots)) }

def addParentExceptions (draft : Draft) (entries : List (String × List String)) : Draft :=
  { draft with
    book.parentExceptions := entries.foldl
      (fun known (parent, children) =>
        let parent := Text.lowerCase parent
        known.insert parent (known.getD parent [] ++ lowerAll children))
      draft.book.parentExceptions }

def addVariations (draft : Draft) (entries : List (String × String)) : Draft :=
  { draft with
    book.variations := enter draft.book.variations
      (entries.map fun (kind, canonical) => (kind, Text.lowerCase canonical)) }

def addLocalisation (draft : Draft) (entries : List (String × String)) : Draft :=
  { draft with book.localisation := enter draft.book.localisation entries }

def addRegions (draft : Draft) (regions : List String) : Draft :=
  { draft with book.regions := draft.book.regions ++ lowerAll regions }

/-- Reads a template; what is wrong with it is reported under its key. -/
def readTemplate (key source : String) : Except ScriptError Template :=
  match Template.read source with
  | .error (.badWording line column reason) =>
      .error (.badWording line column s!"template '{key}': {reason}")
  | result => result

def readAll : List (String × String) → Except ScriptError (List (String × Template))
  | [] => .ok []
  | (key, source) :: rest => do
      let template ← readTemplate key source
      let templates ← readAll rest
      return (key, template) :: templates

/-- The finished rulebook. Templates that were added unread replace those that were added read. -/
def build (draft : Draft) : Except ScriptError Rulebook := do
  let templates ← readAll draft.unread
  return draft.book.withTemplates (enter draft.templates templates)

@[simp] theorem enter_nil {α : Type} (dictionary : Dictionary α) :
    enter dictionary [] = dictionary := rfl

theorem enter_append {α : Type} (dictionary : Dictionary α) (left right : List (String × α)) :
    enter dictionary (left ++ right) = enter (enter dictionary left) right := by
  simp [enter]

theorem getElem?_enter_concat {α : Type} (dictionary : Dictionary α)
    (entries : List (String × α)) (key : String) (value : α) (other : String) :
    (enter dictionary (entries ++ [(key, value)]))[other]? =
      if Text.lowerCase key = other then some value else (enter dictionary entries)[other]? := by
  simp [enter, Std.TreeMap.getElem?_insert]

theorem mem_or_getElem?_of_enter {α : Type} {dictionary : Dictionary α}
    {entries : List (String × α)} {key : String} {value : α}
    (h : (enter dictionary entries)[key]? = some value) :
    (∃ own, (own, value) ∈ entries) ∨ dictionary[key]? = some value := by
  induction entries generalizing dictionary with
  | nil => exact .inr h
  | cons entry rest ih =>
    rcases ih h with ⟨own, hmem⟩ | hknown
    · exact .inl ⟨own, List.mem_cons_of_mem _ hmem⟩
    · rw [Std.TreeMap.getElem?_insert] at hknown
      split at hknown
      · exact .inl ⟨entry.1, by simp [← Option.some.inj hknown]⟩
      · exact .inr hknown

end Draft

end EventWiki.Rulebook
