import EventWiki.Statement
import EventWiki.Wording

namespace EventWiki.Rulebook

/-! Blocks that read as one statement: every slot of the template takes its value from a statement
of the block. -/

inductive SlotFilling where
  | direct (token : Token)
  /-- The kind of the statement is a variation of the slot, and fills a slot of its own. -/
  | variation (token : Token)
  deriving DecidableEq, Repr

def filling? (book : Rulebook) (slot : String) (token : Token) : Option SlotFilling :=
  if token.kind = slot then some (.direct token)
  else if book.variation? token.kind = some slot then some (.variation token)
  else none

structure MergeState where
  values : List String
  operator : Option Operator
  inverted : Bool
  modifier : Option String
  deriving DecidableEq, Repr

/-- An empty slot for a duration is the rest of the campaign. -/
def emptySlot (slot : String) : String :=
  if slot = durationSlot then Phrase.restOfCampaign else ""

/-- The operator and the negation of a filling pass to the merged statement. -/
def MergeState.take (state : MergeState) (token : Token) : MergeState :=
  { state with
    operator :=
      match token.operator with
      | some .equal | none => state.operator
      | some operator => some operator
    inverted := state.inverted != token.negated }

def fillSlot (book : Rulebook) (tokens : List Token) (state : MergeState) (slot : String) :
    MergeState :=
  match tokens.findSome? (book.filling? slot) with
  | some (.direct token) =>
      { state.take token with
        values := state.values ++ [book.localizeValue token]
        modifier := if slot = modifierSlot then token.value else state.modifier }
  | some (.variation token) =>
      { state.take token with
        values := state.values ++ [book.nameOf token.kind, book.localizeValue token] }
  | none => { state with values := state.values ++ [emptySlot slot] }

structure Merged where
  fragment : Fragment
  modifier : Option String
  deriving DecidableEq, Repr

def merge (book : Rulebook) (block : Token) (tokens : List Token) (inverted : Bool) : Merged :=
  let slots := (book.slots? block.kind).getD []
  let state := slots.foldl (book.fillSlot tokens) ⟨[], block.operator, inverted, none⟩
  match book.formatStatement block.kind state.operator state.inverted state.values with
  | .ok text => ⟨⟨text, none⟩, state.modifier⟩
  | .error missing =>
      let present := state.values.filter (!·.isEmpty)
      ⟨⟨block.kind ++ ": " ++ String.intercalate ", " present, some missing⟩, state.modifier⟩

end EventWiki.Rulebook
