import EventWiki.Disk.Path
import EventWiki.Text.LowerCase

namespace EventWiki

structure Sources where
  /-- The directory with the operator words and one directory for each game. -/
  rules : String
  gameRoot : String
  game : String
  deriving DecidableEq, Repr

namespace Sources

def gameName (sources : Sources) : String :=
  Text.lowerCase sources.game

def gameRules (sources : Sources) : String :=
  Path.join sources.rules sources.gameName

def rulePath (sources : Sources) (name : String) : String :=
  Path.join sources.gameRules name

def gamePath (sources : Sources) (names : List String) : String :=
  names.foldl Path.join sources.gameRoot

def events (sources : Sources) : String :=
  sources.gamePath ["events"]

def operatorWords (sources : Sources) : String :=
  Path.join sources.rules "operators.txt"

def templates (sources : Sources) : String :=
  sources.rulePath "localisation"

def countries (sources : Sources) : String :=
  sources.rulePath "countries.txt"

def valueKinds (sources : Sources) : String :=
  sources.rulePath "lookupRules.txt"

def namedBlocks (sources : Sources) : String :=
  sources.rulePath "namedSections.txt"

def mergedBlocks (sources : Sources) : String :=
  sources.rulePath "exceptions.txt"

def parentExceptions (sources : Sources) : String :=
  sources.rulePath "parentExceptions.txt"

def variations (sources : Sources) : String :=
  sources.rulePath "variations.txt"

def localisation (sources : Sources) : String :=
  sources.gamePath ["localisation"]

def modifiers (sources : Sources) : String :=
  sources.gamePath ["common", "event_modifiers"]

def regions (sources : Sources) : List String :=
  [sources.gamePath ["map", "region.txt"], sources.gamePath ["map", "continent.txt"],
    sources.gamePath ["common", "colonial_regions"]]

end Sources

end EventWiki
