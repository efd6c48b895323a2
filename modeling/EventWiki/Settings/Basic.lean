import EventWiki.Rulebook.Sources
import EventWiki.Settings.Toml

namespace EventWiki

structure Settings where
  gamePath : Option String
  game : Option String
  rules : Option String
  output : Option String
  deriving DecidableEq, Repr

inductive SettingsError where
  | unreadable (path : String)
  | malformed (path : String)
  | missing (field flag : String)
  deriving DecidableEq, Repr

namespace SettingsError

def message : SettingsError → String
  | unreadable path => s!"failed to read settings file '{path}'"
  | malformed path => s!"invalid settings file '{path}'"
  | missing field _ => s!"no {field} configured"

def code : SettingsError → String
  | unreadable _ => "scriptdoc::config::read"
  | malformed _ => "scriptdoc::config::parse"
  | missing _ _ => "scriptdoc::config::missing"

def help? : SettingsError → Option String
  | missing field flag => some ("set \x60" ++ field ++ "\x60 in settings.toml or pass --" ++ flag)
  | _ => none

end SettingsError

namespace Settings

def empty : Settings :=
  ⟨none, none, none, none⟩

def defaultFile : String := "settings.toml"

def defaultRules : String := "statements"

def defaultOutput : String := "output"

def keys : List String :=
  ["game_path", "game", "rules", "output"]

/-- Reads settings. Every key may be given once, and there are no others. -/
def parse? (text : String) : Option Settings := do
  let entries ← keyValues? text
  let names := entries.map Prod.fst
  if names.all keys.contains && names.eraseDups.length == names.length then
    some ⟨entries.lookup "game_path", entries.lookup "game", entries.lookup "rules",
      entries.lookup "output"⟩
  else none

/-- What the first settings leave open is taken from the second ones. -/
def orElse (settings fallback : Settings) : Settings where
  gamePath := settings.gamePath <|> fallback.gamePath
  game := settings.game <|> fallback.game
  rules := settings.rules <|> fallback.rules
  output := settings.output <|> fallback.output

def sources (settings : Settings) : Except SettingsError Sources := do
  let gamePath ← settings.gamePath.elim (throw (.missing "game_path" "game-path")) pure
  let game ← settings.game.elim (throw (.missing "game" "game")) pure
  return ⟨settings.rules.getD defaultRules, gamePath, Text.lowerCase game⟩

def outputDirectory (settings : Settings) : String :=
  settings.output.getD defaultOutput

@[simp] theorem orElse_empty (settings : Settings) : settings.orElse empty = settings := by
  cases settings
  simp [orElse, empty]

@[simp] theorem empty_orElse (settings : Settings) : empty.orElse settings = settings := by
  cases settings
  simp [orElse, empty]

end Settings

end EventWiki
