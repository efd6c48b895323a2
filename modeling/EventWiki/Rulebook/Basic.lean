import EventWiki.Operator
import EventWiki.Template
import EventWiki.Vocabulary
import Std.Data.TreeMap
import Std.Data.TreeSet

namespace EventWiki

abbrev Dictionary (α : Type) := Std.TreeMap String α

def keysWith (property : Template → Bool) (templates : Dictionary Template) :
    Std.TreeSet String :=
  .ofList ((templates.toList.filter fun (_, template) => property template).map Prod.fst)

theorem contains_keysWith (property : Template → Bool) (templates : Dictionary Template)
    (key : String) :
    (keysWith property templates).contains key = templates[key]?.any property := by
  rw [Bool.eq_iff_iff, Std.TreeSet.contains_iff_mem, Option.any_eq_true]
  simp only [keysWith, Std.TreeSet.mem_ofList, List.contains_iff_mem, List.mem_map,
    List.mem_filter, Std.TreeMap.mem_toList_iff_getElem?_eq_some, Prod.exists, exists_and_right,
    exists_eq_right]

/-- What is known about the kinds of statements and the names of the game. Keys are lower case. -/
structure Rulebook where
  templates : Dictionary Template
  operatorAware : Std.TreeSet String
  sectionHeaders : Std.TreeSet String
  /-- The latest word of an operator comes first. -/
  operatorWords : List (Operator × String)
  valueKinds : Dictionary ValueKind
  /-- For a block, the kinds of statements that may name it, the best one first. -/
  namedBlocks : Dictionary (List String)
  /-- For a block that reads as one statement, the slots of its template. -/
  mergedBlocks : Dictionary (List String)
  /-- For a block, the kinds of statements that have a wording of their own inside it. -/
  parentExceptions : Dictionary (List String)
  /-- For a kind of statement, the kind whose template words it. -/
  variations : Dictionary String
  modifiers : Dictionary (List String)
  localisation : Dictionary String
  regions : List String
  contains_operatorAware : ∀ key,
    operatorAware.contains key = templates[key]?.any Template.hasOperator
  contains_sectionHeaders : ∀ key,
    sectionHeaders.contains key = templates[key]?.any Template.isSectionHeader

namespace Rulebook

def empty : Rulebook where
  templates := ∅
  operatorAware := ∅
  sectionHeaders := ∅
  operatorWords := []
  valueKinds := ∅
  namedBlocks := ∅
  mergedBlocks := ∅
  parentExceptions := ∅
  variations := ∅
  modifiers := ∅
  localisation := ∅
  regions := []
  contains_operatorAware := by simp
  contains_sectionHeaders := by simp

def withTemplates (book : Rulebook) (templates : Dictionary Template) : Rulebook :=
  { book with
    templates
    operatorAware := keysWith Template.hasOperator templates
    sectionHeaders := keysWith Template.isSectionHeader templates
    contains_operatorAware := contains_keysWith _ templates
    contains_sectionHeaders := contains_keysWith _ templates }

/-! Templates, localisation and modifiers are looked up in any letter case; all other entries are
looked up as they are, since the kinds of tokens are lower case. -/

def template? (book : Rulebook) (key : String) : Option Template :=
  book.templates[Text.lowerCase key]?

def hasTemplate (book : Rulebook) (key : String) : Bool :=
  (book.template? key).isSome

def templateKeys (book : Rulebook) : List String :=
  book.templates.keys

def isOperatorAware (book : Rulebook) (key : String) : Bool :=
  book.operatorAware.contains (Text.lowerCase key)

def isSectionHeader (book : Rulebook) (key : String) : Bool :=
  book.sectionHeaders.contains (Text.lowerCase key)

def operatorWord? (book : Rulebook) (operator : Operator) : Option String :=
  book.operatorWords.lookup operator

def valueKind? (book : Rulebook) (kind : String) : Option ValueKind :=
  book.valueKinds[kind]?

def namingKinds? (book : Rulebook) (kind : String) : Option (List String) :=
  book.namedBlocks[kind]?

def slots? (book : Rulebook) (kind : String) : Option (List String) :=
  book.mergedBlocks[kind]?

def isParentException (book : Rulebook) (parent child : String) : Bool :=
  (book.parentExceptions.getD parent []).contains child

def variation? (book : Rulebook) (kind : String) : Option String :=
  book.variations[kind]?

def modifierEffects (book : Rulebook) (name : String) : List String :=
  book.modifiers.getD (Text.lowerCase name) []

def localisation? (book : Rulebook) (key : String) : Option String :=
  book.localisation[Text.lowerCase key]?

def isRegion (book : Rulebook) (kind : String) : Bool :=
  book.regions.contains kind

def withModifiers (book : Rulebook) (modifiers : List (String × List String)) : Rulebook :=
  { book with
    modifiers := modifiers.foldl
      (fun known (name, effects) => known.insert (Text.lowerCase name) effects)
      book.modifiers }

theorem isOperatorAware_eq (book : Rulebook) (key : String) :
    book.isOperatorAware key = (book.template? key).any Template.hasOperator :=
  book.contains_operatorAware (Text.lowerCase key)

theorem isSectionHeader_eq (book : Rulebook) (key : String) :
    book.isSectionHeader key = (book.template? key).any Template.isSectionHeader :=
  book.contains_sectionHeaders (Text.lowerCase key)

end Rulebook

end EventWiki
