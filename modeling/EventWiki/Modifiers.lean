import EventWiki.Findings
import EventWiki.Merge
import EventWiki.Outline

namespace EventWiki.Rulebook

/-- An effect that begins with a digit gets a plus sign. -/
def signed (effect : String) : String :=
  if effect.toList.head?.any Char.isDigit then "+" ++ effect else effect

def effectsOf (book : Rulebook) (block : Statement) : List Fragment :=
  block.children.map fun effect => book.localize (some block.kind) effect.token false

/-- The effects of the modifiers that a script defines, under the kinds of their blocks, with the
missing keys added to `findings`. The last block of a kind counts. -/
def expandModifiers (book : Rulebook) (script : Outline) (findings : Findings) :
    Dictionary (List String) × Findings :=
  let expanded := script.toStatement.children.map fun block => (block.kind, book.effectsOf block)
  (expanded.foldl
    (fun known (name, effects) =>
      known.insert name
        (((effects.map Fragment.text).filter (!·.isEmpty)).map signed))
    ∅,
    findings.recordAll (expanded.flatMap fun (_, effects) => effects.filterMap Fragment.missing))

end EventWiki.Rulebook
