import EventWiki.Outline
import EventWiki.Script.StatementLine

namespace EventWiki.Script

/-! The outline of a script: a statement line that ends in an opening brace opens a block, a
closing brace closes the innermost one, and every other line is a statement of the innermost open
block. -/

structure OpenBlock where
  index : Nat
  kind : String
  line : Nat

/-- What has been read so far, with the innermost open block first. -/
structure Reading where
  outline : Outline
  blocks : List OpenBlock

namespace Reading

def start : Reading :=
  ⟨.new (.bare rootKind), []⟩

def parent (reading : Reading) : Nat :=
  (reading.blocks.head?.map OpenBlock.index).getD 0

def addLeaf (reading : Reading) (token : Token) : Reading :=
  { reading with outline := reading.outline.push reading.parent token }

def addBlock (reading : Reading) (line : Nat) (token : Token) : Reading where
  outline := reading.outline.push reading.parent token
  blocks := ⟨reading.outline.size, token.kind, line⟩ :: reading.blocks

end Reading

/-- What a statement line does to the nesting; headers are given without their brace. -/
inductive LineRole where
  | close
  | header (text : String)
  | leaf (text : String)
  deriving DecidableEq, Repr

def LineRole.ofLine (line : String) : LineRole :=
  let cs := Text.trim line.toList
  if cs = ['}'] then .close
  else if cs.getLast? = some '{' then .header (String.ofList cs.dropLast)
  else .leaf (String.ofList cs)

def Reading.step (reading : Reading) (line : String) (number : Nat) :
    Except ScriptError Reading :=
  match LineRole.ofLine line with
  | .close =>
      match reading.blocks with
      | [] => .error (.unmatchedClose number)
      | _ :: blocks => .ok { reading with blocks }
  | .header text => (Token.read number text).map (reading.addBlock number)
  | .leaf text => (Token.read number text).map reading.addLeaf

def Reading.steps (reading : Reading) (number : Nat) : List String → Except ScriptError Reading
  | [] => .ok reading
  | line :: rest =>
      match reading.step line number with
      | .ok next => next.steps (number + 1) rest
      | .error error => .error error

def Reading.finish (reading : Reading) : Except ScriptError Outline :=
  match reading.blocks with
  | [] => .ok reading.outline
  | block :: _ => .error (.unclosedBlock block.kind block.line)

def outline (lines : List String) : Except ScriptError Outline :=
  match Reading.start.steps 1 lines with
  | .ok reading => reading.finish
  | .error error => .error error

def parse (source : String) : Except ScriptError Outline :=
  outline (normalize source)

end EventWiki.Script
