import EventWiki.Text.CaseTable

namespace EventWiki.Text

/-! Lower-casing by the default case mapping. A capital sigma at the end of a word becomes the
final small sigma; every other character is mapped on its own. -/

def lowerChar (c : Char) : List Char :=
  if c.toNat < 0x80 then [c.toLower]
  else if c.toNat = 0x130 then ['i', '\u0307']
  else
    match caseRuns.findSome? (·.lower? c.toNat) with
    | some code => [Char.ofNat code]
    | none => [c]

def isCased (c : Char) : Bool :=
  c.isAlpha || casedRanges.contains c

def isCaseIgnorable (c : Char) : Bool :=
  [0x27, 0x2E, 0x3A, 0x5E, 0x60].contains c.toNat || caseIgnorableRanges.contains c

def meetsCased (cs : List Char) : Bool :=
  (cs.dropWhile isCaseIgnorable).head?.any isCased

/-- Lower-cases a text that stands behind `before`, which is given in reverse. -/
def lowerAfter (before : List Char) : List Char → List Char
  | [] => []
  | c :: rest =>
      let lower :=
        if c = 'Σ' then [if meetsCased before && !meetsCased rest then 'ς' else 'σ']
        else lowerChar c
      lower ++ lowerAfter (c :: before) rest

def lowerCase (text : String) : String :=
  String.ofList (lowerAfter [] text.toList)

/-- The letters A to Z alone are folded. -/
def asciiFold (text : String) : String :=
  text.map Char.toLower

def eqIgnoringAsciiCase (left right : String) : Bool :=
  asciiFold left == asciiFold right

@[simp] theorem lowerAfter_nil (before : List Char) : lowerAfter before [] = [] := rfl

end EventWiki.Text
