import EventWiki.Rulebook.Loading

namespace EventWiki

inductive LoadEvent where
  | noLocalisation (path : String)
  | noVariations (path : String)
  | noRegions (path : String)
  | noModifiers (path : String)
  | unresolved (kind : String)
  | expandedModifiers (modifiers unresolved : Nat)
  | loaded (templates localisation variations modifiers : Nat)
  deriving DecidableEq, Repr

namespace Rulebook

/-- The paths in the game where the rules look for variations of kinds. -/
def variationPaths (disk : Disk) (sources : Sources) : List String :=
  match disk.ruleEntries sources.variations with
  | .error _ => []
  | .ok entries =>
      entries.filterMap fun entry =>
        (variationSource? entry.value).map fun (path, _) => Path.join sources.gameRoot path

def modifierFindings (book : Rulebook) (disk : Disk) (path : String) : Findings :=
  match disk.listFiles path with
  | .error _ => .empty
  | .ok paths =>
      paths.foldl
        (fun findings path =>
          match disk.readScript path with
          | .error _ => findings
          | .ok source =>
              match Script.parse source with
              | .error _ => findings
              | .ok script => (book.expandModifiers script findings).2)
        .empty

def modifierEvents (book : Rulebook) (disk : Disk) (path : String) : List LoadEvent :=
  if disk.isPresent path then
    let findings := book.modifierFindings disk path
    findings.kinds.map .unresolved ++ [.expandedModifiers book.modifiers.size findings.size]
  else [.noModifiers path]

def loadEvents (book : Rulebook) (disk : Disk) (sources : Sources) : List LoadEvent :=
  (if disk.isDirectory sources.localisation then []
    else [.noLocalisation sources.localisation])
    ++ ((variationPaths disk sources).filter (!disk.isPresent ·)).map .noVariations
    ++ (sources.regions.filter (!disk.isPresent ·)).map .noRegions
    ++ book.modifierEvents disk sources.modifiers
    ++ [.loaded book.templates.size book.localisation.size book.variations.size
      book.modifiers.size]

end Rulebook

end EventWiki
