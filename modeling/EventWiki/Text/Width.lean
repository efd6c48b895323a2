import EventWiki.Text.WidthTable

namespace EventWiki.Text

/-! Some characters merge with what stands behind them, so a text is measured from its end. -/

/-- The end of a pair of letters that may be written as one. A letter is `joined` if a joiner
stands before it. -/
inductive LigatureEnd where
  | arabicAlef
  | hebrewLamed (joined : Bool)
  | khmerLetter
  | bugineseYa (joined : Bool)
  | bugineseVowelYa
  | tifinaghLetter (joined : Bool)
  | tifinaghJoiner
  | lisuTone
  | turkicI (joined : Bool)
  deriving DecidableEq, Repr

inductive Behind where
  | nothing
  | lineFeed
  | emoji
  | skinColor
  | indicator
  | indicators
  /-- An emoji with a joiner before it, and what may stand before the joiner. -/
  | joinedEmoji
  | joinedKeycap
  | joinedIndicator
  | joinedIndicators (even : Bool)
  | joinedTagLetters (count : Nat)
  | joinedTagDigits (count : Nat)
  /-- Kirat Rai vowels of one kind, two of which are one sign. -/
  | vowels (even : Bool)
  | ligature (last : LigatureEnd)
  deriving DecidableEq, Repr

inductive Selector where
  | text
  | emoji
  | fullWidth
  deriving DecidableEq, Repr

/-- What follows a character, and the selector between them. -/
structure Context where
  behind : Behind
  selector : Option Selector
  deriving DecidableEq, Repr

def joiner : Char := '\u200D'

def isZeroWidth (c : Char) : Bool :=
  if c.toNat < 0x2000 then zeroWidthLow.contains c
  else if c.toNat < 0x10000 then zeroWidthHigh.contains c
  else zeroWidthSupplementary.contains c

def charWidth (c : Char) : Nat :=
  if c.toNat ≤ 0xA0 then 1
  else if c = '\u17D8' then 3
  else if c = '\u17A4' then 2
  else if isZeroWidth c then 0
  else if wideRanges.contains c then 2
  else 1

/-- Arabic letters merge across marks that are not seen as letters. -/
def isTransparent (c : Char) : Bool :=
  isZeroWidth c && !joinBreakingRanges.contains c

def isIndicator (c : Char) : Bool :=
  0x1F1E6 ≤ c.toNat && c.toNat ≤ 0x1F1FF

def isSkinColor (c : Char) : Bool :=
  0x1F3FB ≤ c.toNat && c.toNat ≤ 0x1F3FF

def isTagLetter (c : Char) : Bool :=
  0xE0061 ≤ c.toNat && c.toNat ≤ 0xE007A

def isTagDigit (c : Char) : Bool :=
  0xE0030 ≤ c.toNat && c.toNat ≤ 0xE0039

/-- Emoji that a selector narrows to text. Enclosed ideographs stay wide. -/
def narrowsAsText (c : Char) : Bool :=
  selectableRanges.contains c && emojiRanges.contains c
    && !(0x1F200 ≤ c.toNat && c.toNat ≤ 0x1F2FF)

def isQuote (c : Char) : Bool :=
  ['‘', '’', '“', '”'].contains c

namespace LigatureEnd

def join : LigatureEnd → LigatureEnd
  | hebrewLamed _ => hebrewLamed true
  | bugineseYa _ => bugineseYa true
  | tifinaghLetter _ => tifinaghLetter true
  | turkicI _ => turkicI true
  | last => last

/-- The columns that a character adds where it merges with the letters behind it, and what the two
are to the character before them. -/
def merge? (last : LigatureEnd) (c : Char) : Option (Int × Behind) :=
  match last with
  | arabicAlef =>
      if lamRanges.contains c then some (0, .nothing)
      else if isTransparent c then some (0, .ligature arabicAlef)
      else none
  | hebrewLamed joined => if joined && c == '\u05D0' then some (0, .nothing) else none
  | khmerLetter => if c = '\u17D2' then some (-1, .nothing) else none
  | bugineseYa joined =>
      if joined && c == '\u1A17' then some (0, .ligature bugineseVowelYa) else none
  | bugineseVowelYa => if c = '\u1A15' then some (0, .nothing) else none
  | tifinaghLetter joined =>
      if c = '\u2D7F' then some (1, .ligature tifinaghJoiner)
      else if joined && tifinaghRanges.contains c then some (0, .nothing)
      else none
  | tifinaghJoiner => if tifinaghRanges.contains c then some (-1, .nothing) else none
  | lisuTone => if 0xA4F8 ≤ c.toNat && c.toNat ≤ 0xA4FB then some (0, .nothing) else none
  | turkicI joined => if joined && c.toNat == 0x10C32 then some (0, .nothing) else none

/-- Joiners and hidden marks do not part the letters of a ligature, except the Arabic one. -/
def before? (last : LigatureEnd) (c : Char) : Option (Int × Behind) :=
  if last = arabicAlef then last.merge? c
  else if c = joiner then some (0, .ligature last.join)
  else if hiddenMarkRanges.contains c then some (0, .ligature last)
  else last.merge? c

end LigatureEnd

namespace Behind

def ofChar (c : Char) : Behind :=
  if c = '\u05DC' then .ligature (.hebrewLamed false)
  else if alefRanges.contains c then .ligature .arabicAlef
  else if khmerSubscriptRanges.contains c then .ligature .khmerLetter
  else if c = '\u1A10' then .ligature (.bugineseYa false)
  else if tifinaghRanges.contains c then .ligature (.tifinaghLetter false)
  else if c = '\uA4FC' || c = '\uA4FD' then .ligature .lisuTone
  else if c.toNat = 0x10C03 then .ligature (.turkicI false)
  else if c.toNat = 0x16D67 then .vowels false
  else if c.toNat = 0x16D68 then .vowels true
  else if isIndicator c then .indicator
  else if isSkinColor c then .skinColor
  else if emojiRanges.contains c then .emoji
  else .nothing

def isLigature : Behind → Bool
  | ligature _ => true
  | _ => false

def isTied : Behind → Bool
  | joinedEmoji | joinedKeycap => true
  | _ => false

def joined? (c : Char) : Option (Int × Behind) :=
  if c = joiner then some (0, .joinedEmoji) else none

/-- A flag with tags holds a code of three to six letters, or of three digits. -/
def tagged? (complete : Bool) (c : Char) : Option (Int × Behind) :=
  if complete && c.toNat == 0x1F3F4 then some (0, .emoji) else none

def before? (behind : Behind) (c : Char) : Option (Int × Behind) :=
  match behind with
  | nothing | lineFeed | joinedKeycap => none
  | emoji => joined? c
  | skinColor => if modifierBaseRanges.contains c then some (0, emoji) else joined? c
  | indicator => if isIndicator c then some (1, indicators) else none
  | indicators => if isIndicator c then some (1, indicators) else joined? c
  | joinedEmoji =>
      if c = '\u20E3' then some (0, joinedKeycap)
      else if isIndicator c then some (1, joinedIndicator)
      else if isSkinColor c then some (0, skinColor)
      else if c.toNat = 0xE007F then some (0, joinedTagLetters 0)
      else if emojiRanges.contains c then some (0, emoji)
      else none
  | joinedIndicator => if isIndicator c then some (-1, joinedIndicators true) else none
  | joinedIndicators even =>
      if isIndicator c then some (if even then 3 else -1, joinedIndicators (!even))
      else joined? c
  | joinedTagLetters count =>
      if isTagLetter c && count < 6 then some (0, joinedTagLetters (count + 1))
      else if isTagDigit c && count ≤ 4 then some (0, joinedTagDigits 1)
      else tagged? (3 ≤ count) c
  | joinedTagDigits count =>
      if isTagDigit c && count < 3 then some (0, joinedTagDigits (count + 1))
      else tagged? (count = 3) c
  | vowels even =>
      if c.toNat = 0x16D63 then some (0, nothing)
      else if even then none
      else if c.toNat = 0x16D67 then some (0, vowels true)
      else if c.toNat = 0x16D68 then some (1, vowels false)
      else if c.toNat = 0x16D69 then some (0, nothing)
      else none
  | ligature last => last.before? c

end Behind

namespace Selector

def ofChar? (c : Char) : Option Selector :=
  if c = '\uFE0F' then some .emoji
  else if c = '\uFE0E' then some .text
  else if c = '\uFE01' then some .fullWidth
  else none

end Selector

namespace Context

def atEnd : Context :=
  ⟨.nothing, none⟩

def of (behind : Behind) : Context :=
  ⟨behind, none⟩

/-- A selector parts what stands on both sides of it, but for ligatures and joined emoji. -/
def select (behind : Behind) (selector : Selector) : Context :=
  let keeps := behind.isLigature || selector == .emoji && behind.isTied
  ⟨if keeps then behind else .nothing, some selector⟩

def selected? (context : Context) (c : Char) : Option (Int × Context) :=
  match context.selector with
  | some .emoji =>
      if selectableRanges.contains c then some (if context.behind.isTied then 0 else 2, of .emoji)
      else none
  | some .text => if narrowsAsText c then some (1, atEnd) else none
  | some .fullWidth => if isQuote c then some (2, atEnd) else none
  | none => none

def behindSelector (context : Context) : Behind :=
  if context.selector.isNone || context.behind.isLigature then context.behind else .nothing

def before (context : Context) (c : Char) : Int × Context :=
  match context.selected? c with
  | some result => result
  | none =>
      let behind := context.behindSelector
      if c = '\n' then (1, of .lineFeed)
      else if c = '\r' && behind == .lineFeed then (0, atEnd)
      else if c.toNat ≤ 0xA0 then (1, atEnd)
      else
        match Selector.ofChar? c with
        | some selector => (0, select behind selector)
        | none =>
            match behind.before? c with
            | some (columns, next) => (columns, of next)
            | none => (charWidth c, of (.ofChar c))

end Context

def measure (c : Char) (text : Int × Context) : Int × Context :=
  let (columns, context) := text.2.before c
  (text.1 + columns, context)

def width (text : String) : Nat :=
  (text.toList.foldr measure (0, .atEnd)).1.toNat

@[simp] theorem width_empty : width "" = 0 := rfl

end EventWiki.Text
