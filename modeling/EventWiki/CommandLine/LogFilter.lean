import EventWiki.Decimal.Whole
import EventWiki.Text.Blank
import EventWiki.Text.Line
import EventWiki.Text.LowerCase
import EventWiki.Text.Word

namespace EventWiki.CommandLine

/-! A filter is made of directives, each of which gives the messages on a topic the level down to
which they are logged. -/

inductive LogLevel where
  | off
  | error
  | warn
  | info
  | debug
  | trace
  deriving DecidableEq, Repr

namespace LogLevel

def all : List LogLevel :=
  [off, error, warn, info, debug, trace]

def name : LogLevel → String
  | off => "off"
  | error => "error"
  | warn => "warn"
  | info => "info"
  | debug => "debug"
  | trace => "trace"

/-- A level is given by its place among the levels or by its name; without either, errors are
logged. -/
def ofText? (text : String) : Option LogLevel :=
  match (Decimal.word? text.toList).bind (all[·]?) with
  | some level => some level
  | none =>
      if text.isEmpty then some error
      else all.find? fun level => Text.eqIgnoringAsciiCase level.name text

def rank (level : LogLevel) : Nat :=
  all.idxOf level

def ofVerbosity : Nat → LogLevel
  | 0 => warn
  | 1 => info
  | 2 => debug
  | _ => trace

end LogLevel

structure LogMessage where
  level : LogLevel
  topic : String
  text : String
  fields : List (String × String)
  deriving DecidableEq, Repr

namespace LogMessage

/-- The text of a message is one of its fields. -/
def fieldNames (message : LogMessage) : List String :=
  "message" :: message.fields.map Prod.fst

def line (message : LogMessage) : String :=
  message.level.name.map Char.toUpper ++ " " ++ message.text
    ++ String.join (message.fields.map fun (name, value) => s!" {name}={value}") ++ "\n"

end LogMessage

structure LogField where
  name : String
  value : Option String
  deriving DecidableEq, Repr

def LogField.ofText (text : String) : LogField :=
  let parts := (Text.splitAt '=' text.toList).map String.ofList
  ⟨parts.headD "", parts[1]?⟩

/-- Holds for the messages whose topic begins with the given one and which have the given fields.
A directive may also be about a span of work by its name. -/
structure LogDirective where
  topic : Option String
  span : Option String
  fields : List LogField
  level : LogLevel
  deriving DecidableEq, Repr

namespace LogDirective

def ofLevel (level : LogLevel) : LogDirective :=
  ⟨none, none, [], level⟩

def ofTopic (topic : String) : LogDirective :=
  ⟨some topic, none, [], .trace⟩

def ofWord (word : String) : LogDirective :=
  (LogLevel.ofText? word).elim (ofTopic word) ofLevel

inductive Part where
  | start
  | word (first : Nat)
  | span (first : Nat)
  | field (first : Nat)
  | fieldsEnd
  | spanEnd
  | level (first : Nat)
  deriving DecidableEq, Repr

def cut (text : List Char) (first last : Nat) : String :=
  String.ofList ((text.take last).drop first)

def step (text : List Char) (place : Nat) (directive : LogDirective) (part : Part) (c : Char) :
    Option (LogDirective × Part) :=
  match part with
  | .start =>
      if c = '[' then some (directive, .span (place + 1))
      else if Text.isWord c || c == '-' || c == ':' then some (directive, .word place)
      else none
  | .word first =>
      let named := { directive with topic := some (cut text first place) }
      if c = '=' then some (named, .level (place + 1))
      else if c = '[' then some (named, .span (place + 1))
      else some (directive, part)
  | .span first =>
      let name := cut text first place
      if c = ']' then some ({ directive with span := some name }, .spanEnd)
      else if c = '\x7b' then
        some ({ directive with span := if name.isEmpty then none else some name },
          .field (place + 1))
      else some (directive, part)
  | .field first =>
      if c = '\x7d' then
        let field := cut text first place
        if field.isEmpty then none
        else
          some ({ directive with fields := directive.fields ++ [.ofText field] }, .fieldsEnd)
      else some (directive, part)
  | .fieldsEnd => if c = ']' then some (directive, .spanEnd) else none
  | .spanEnd => if c = '=' then some (directive, .level (place + 1)) else none
  | .level _ => some (directive, part)

def finish? (text : List Char) (directive : LogDirective) : Part → Option LogDirective
  | .word first => some (ofWord (String.ofList (text.drop first)))
  | .level first =>
      let level := String.ofList (text.drop first)
      if level.isEmpty then some directive
      else (LogLevel.ofText? level).map fun level => { directive with level }
  | .spanEnd => some directive
  | _ => none

def readFrom (text : List Char) (place : Nat) (directive : LogDirective) (part : Part) :
    List Char → Option LogDirective
  | [] => finish? text directive part
  | c :: rest =>
      match step text place directive part c with
      | none => none
      | some (directive, part) => readFrom text (place + 1) directive part rest

/-- A directive is read without the blanks around it, but its parts are cut out of the whole text,
at the places they have without the blanks. -/
def parse? (text : String) : Option LogDirective :=
  readFrom text.toList 0 (ofLevel .trace) .start (Text.trim text.toList)

/-- Work has no spans here, so a directive about one never comes to bear. -/
def isAboutMessages (directive : LogDirective) : Bool :=
  directive.span.isNone && directive.fields.all (·.value.isNone)

def fieldNames (directive : LogDirective) : List String :=
  directive.fields.map LogField.name

def isAbout (directive : LogDirective) (message : LogMessage) : Bool :=
  directive.isAboutMessages
    && directive.topic.all (fun topic => message.topic.startsWith topic)
    && directive.fieldNames.all message.fieldNames.contains

def topicRank (directive : LogDirective) : Nat :=
  directive.topic.elim 0 (·.length + 1)

/-- The order of directives on one message: by the length of the topic, then by the number of
fields, then by their names. -/
def isAtLeast (directive other : LogDirective) : Bool :=
  let own := (directive.topicRank, directive.fields.length)
  let others := (other.topicRank, other.fields.length)
  if own.1 ≠ others.1 then others.1 < own.1
  else if own.2 ≠ others.2 then others.2 < own.2
  else !decide (directive.fieldNames < other.fieldNames)

end LogDirective

structure LogFilter where
  directives : List LogDirective
  deriving DecidableEq, Repr

namespace LogFilter

def ofLevel (level : LogLevel) : LogFilter :=
  ⟨[.ofLevel level]⟩

/-- Directives are separated by commas. Without any, errors are logged. -/
def parse? (text : String) : Option LogFilter := do
  let pieces := (Text.splitAt ',' text.toList).filter (!·.isEmpty)
  let directives ← pieces.mapM fun piece => LogDirective.parse? (String.ofList piece)
  return if directives.isEmpty then ofLevel .error else ⟨directives⟩

/-- The directive that decides on a message; the last one of its rank does. -/
def directiveOn? (filter : LogFilter) (message : LogMessage) : Option LogDirective :=
  (filter.directives.filter (·.isAbout message)).foldl
    (fun best? directive =>
      match best? with
      | some best => if directive.isAtLeast best then some directive else some best
      | none => some directive)
    none

def logs (filter : LogFilter) (message : LogMessage) : Bool :=
  (filter.directiveOn? message).any fun directive => message.level.rank ≤ directive.level.rank

def log (filter : LogFilter) (messages : List LogMessage) : String :=
  String.join ((messages.filter filter.logs).map LogMessage.line)

end LogFilter

end EventWiki.CommandLine
