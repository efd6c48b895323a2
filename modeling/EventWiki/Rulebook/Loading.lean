import EventWiki.Disk.Basic
import EventWiki.Modifiers
import EventWiki.RuleFile
import EventWiki.Rulebook.Draft
import EventWiki.Rulebook.Sources
import EventWiki.Script.Nesting
import EventWiki.Text.Encoding

namespace EventWiki

/-! The files of the rules have to be there; what the game itself does not have is left out. -/

inductive LoadError where
  | unreadable (path : String) (reason : FileError)
  | badEntry (path : String) (line column : Nat) (reason : String)
  | unknownValueKind (path name : String)
  | badVariation (path entry : String)
  | badScript (path : String) (reason : ScriptError)
  deriving DecidableEq, Repr

def LoadError.message : LoadError → String
  | unreadable path reason => s!"failed to read '{path}': " ++ reason.message
  | badEntry path line column reason => s!"{path}:{line}:{column}: {reason}"
  | unknownValueKind path name => s!"{path}: unknown value type '{name}'"
  | badVariation path entry => s!"{path}: invalid variation entry '{entry}'"
  | badScript path reason => s!"{path}: " ++ reason.message

def LoadError.ofReading (path : String) (line : Nat) : ScriptError → LoadError
  | .badWording _ column reason => .badEntry path line column reason
  | error => .badEntry path line 0 error.message

namespace Disk

def readBytes (disk : Disk) (path : String) : Except LoadError (List UInt8) :=
  (disk.read path).mapError (.unreadable path)

def readText (disk : Disk) (path : String) : Except LoadError String :=
  (disk.readBytes path).map Text.Utf8.lossy

def readScript (disk : Disk) (path : String) : Except LoadError String :=
  (disk.readBytes path).map Text.decodeScript

def listFiles (disk : Disk) (path : String) : Except LoadError (List String) :=
  (disk.filesUnder path).mapError (.unreadable path)

def ruleEntries (disk : Disk) (path : String) : Except LoadError (List RuleEntry) :=
  (disk.readText path).map RuleFile.entries

def ruleLists (disk : Disk) (path : String) :
    Except LoadError (List (String × List String)) := do
  let entries ← disk.ruleEntries path
  return entries.map fun entry => (entry.key, RuleFile.items entry.value)

end Disk

namespace Script

def headerName (header : List Char) : String :=
  Text.lowerCase (String.ofList
    (Text.trim (header.takeWhile fun c => c != '=' && c != '<' && c != '>')))

/-- The names of the headers at a level of nesting; `nesting` is that of the first line. Closing
braces without a block are passed over. -/
def headersFrom (level nesting : Nat) : List String → List String
  | [] => []
  | line :: rest =>
      let cs := line.toList
      if cs.getLast? = some '{' then
        let names := headersFrom level (nesting + 1) rest
        if nesting = level then headerName cs.dropLast :: names else names
      else if cs = ['}'] then headersFrom level (nesting - 1) rest
      else headersFrom level nesting rest

def headers (source : String) (level : Nat) : List String :=
  headersFrom level 0 (normalize source)

end Script

namespace Rulebook

def loadTemplates (disk : Disk) (path : String) :
    Except LoadError (List (String × Template)) := do
  let entries ← disk.ruleEntries path
  entries.mapM fun entry =>
    match Template.read entry.value with
    | .ok template => .ok (entry.key, template)
    | .error error => .error (.ofReading path entry.line error)

def loadOperatorWords (disk : Disk) (path : String) :
    Except LoadError (List (Operator × String)) := do
  let entries ← disk.ruleEntries path
  entries.mapM fun entry =>
    match Operator.ofName? entry.key with
    | some operator => .ok (operator, entry.value)
    | none => .error (.badEntry path entry.line 1 s!"unknown operator '{entry.key}'")

def loadValueKinds (disk : Disk) (path : String) :
    Except LoadError (List (String × ValueKind)) := do
  let entries ← disk.ruleEntries path
  let groups ← entries.mapM fun entry =>
    match ValueKind.ofName? entry.key with
    | some kind => .ok ((RuleFile.items entry.value).map (·, kind))
    | none => .error (.unknownValueKind path entry.key)
  return groups.flatten

/-- Files with this in their names hold the localisation of the game. -/
def englishMark : String := "_l_english"

def isEnglish (path : String) : Bool :=
  (Path.fileName? path).any fun name => Text.contains englishMark.toList name.toList

def loadGameLocalisation (disk : Disk) (path : String) :
    Except LoadError (List (String × String)) :=
  if disk.isDirectory path then do
    let paths ← disk.listFiles path
    let texts ← (paths.filter isEnglish).mapM disk.readText
    return (texts.flatMap LocalisationFile.entries).map fun entry => (entry.key, entry.value)
  else .ok []

def loadCountries (disk : Disk) (path : String) : Except LoadError (List (String × String)) :=
  if disk.isFile path then do
    let entries ← disk.ruleEntries path
    return entries.map fun entry =>
      (entry.key, String.ofList (Text.unquoted entry.value.toList))
  else .ok []

def loadHeaders (disk : Disk) (path : String) (level : Nat) :
    Except LoadError (List String) := do
  let paths ← disk.listFiles path
  let sources ← paths.mapM disk.readScript
  return sources.flatMap (Script.headers · level)

/-- Where the variations of a kind are found: a path in the game, and a level of nesting. -/
def variationSource? (value : String) : Option (String × Nat) :=
  match RuleFile.items value with
  | [path, level] =>
      (Decimal.word? level.toList).map fun level =>
        (String.ofList (path.toList.dropWhile (· == '/')), level)
  | _ => none

def loadVariations (disk : Disk) (path gameRoot : String) :
    Except LoadError (List (String × String)) := do
  let entries ← disk.ruleEntries path
  let groups ← entries.mapM fun entry =>
    match variationSource? entry.value with
    | none => .error (.badVariation path entry.value)
    | some (relative, level) =>
        let source := Path.join gameRoot relative
        if disk.isPresent source then
          (loadHeaders disk source level).map fun kinds => kinds.map (·, entry.key)
        else .ok []
  return groups.flatten

def loadRegions (disk : Disk) (paths : List String) : Except LoadError (List String) := do
  let groups ← (paths.filter disk.isPresent).mapM (loadHeaders disk · 0)
  return groups.flatten

def loadModifierFile (book : Rulebook) (disk : Disk) (path : String) :
    Except LoadError (List (String × List String)) := do
  let source ← disk.readScript path
  let script ← (Script.parse source).mapError (.badScript path)
  return (book.expandModifiers script .empty).1.toList

def loadModifiers (book : Rulebook) (disk : Disk) (path : String) :
    Except LoadError (List (String × List String)) :=
  if disk.isPresent path then do
    let paths ← disk.listFiles path
    let groups ← paths.mapM (book.loadModifierFile disk)
    return groups.flatten
  else .ok []

/-- Everything but the modifiers, whose effects are worded by the rest. -/
def loadDraft (disk : Disk) (sources : Sources) : Except LoadError Draft := do
  let templateFiles ← disk.listFiles sources.templates
  let templates ← templateFiles.mapM (loadTemplates disk)
  let localisation ← loadGameLocalisation disk sources.localisation
  let countries ← loadCountries disk sources.countries
  let operatorWords ← loadOperatorWords disk sources.operatorWords
  let valueKinds ← loadValueKinds disk sources.valueKinds
  let namedBlocks ← disk.ruleLists sources.namedBlocks
  let mergedBlocks ← disk.ruleLists sources.mergedBlocks
  let parentExceptions ← disk.ruleLists sources.parentExceptions
  let variations ← loadVariations disk sources.variations sources.gameRoot
  let regions ← loadRegions disk sources.regions
  return Draft.empty
    |>.addReadTemplates templates.flatten
    |>.addOperatorWords operatorWords
    |>.addValueKinds valueKinds
    |>.addNamedBlocks namedBlocks
    |>.addMergedBlocks mergedBlocks
    |>.addParentExceptions parentExceptions
    |>.addVariations variations
    |>.addLocalisation (localisation ++ countries)
    |>.addRegions regions

/-- The rulebook of a game. The modifiers are worded by the finished rest. -/
def load (disk : Disk) (sources : Sources) : Except LoadError Rulebook := do
  let draft ← loadDraft disk sources
  let book ← draft.build.mapError fun error => .ofReading sources.templates error.line error
  let modifiers ← book.loadModifiers disk sources.modifiers
  return book.withModifiers modifiers

end Rulebook

end EventWiki
