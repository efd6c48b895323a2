namespace EventWiki.Settings

/-! A TOML document whose values are strings. Tables, dotted keys and values of other kinds have
no place in settings. -/

abbrev Reader (α : Type) := List Char → Option (α × List Char)

def isBlank (c : Char) : Bool :=
  c == ' ' || c == '\t'

def skipBlank (cs : List Char) : List Char :=
  cs.dropWhile isBlank

/-- Control characters but the tab have no place in strings and comments. -/
def isPlain (c : Char) : Bool :=
  c == '\t' || (0x20 ≤ c.toNat && c.toNat != 0x7F)

def newline? : List Char → Option (List Char)
  | '\n' :: rest => some rest
  | '\r' :: '\n' :: rest => some rest
  | _ => none

def skipComment (cs : List Char) : List Char :=
  if cs.head? = some '#' then cs.dropWhile isPlain else cs

def lineEnd? (cs : List Char) : Option (List Char) :=
  match skipComment (skipBlank cs) with
  | [] => some []
  | rest => newline? rest

def isBareKey (c : Char) : Bool :=
  c.isAlphanum || c == '_' || c == '-'

def hexDigit? (c : Char) : Option Nat :=
  if c.isDigit then some (c.toNat - '0'.toNat)
  else if 'a' ≤ c && c ≤ 'f' then some (c.toNat - 'a'.toNat + 10)
  else if 'A' ≤ c && c ≤ 'F' then some (c.toNat - 'A'.toNat + 10)
  else none

def codePoint? (count : Nat) : Reader Char := fun cs =>
  let digits := cs.take count
  if digits.length < count then none
  else
    match digits.mapM hexDigit? with
    | some values =>
        let code := values.foldl (fun value digit => 16 * value + digit) 0
        if code.isValidChar then some (Char.ofNat code, cs.drop count) else none
    | none => none

def escape? : Reader Char
  | 'b' :: rest => some ('\x08', rest)
  | 't' :: rest => some ('\t', rest)
  | 'n' :: rest => some ('\n', rest)
  | 'f' :: rest => some ('\x0c', rest)
  | 'r' :: rest => some ('\r', rest)
  | '"' :: rest => some ('"', rest)
  | '\\' :: rest => some ('\\', rest)
  | 'u' :: rest => codePoint? 4 rest
  | 'U' :: rest => codePoint? 8 rest
  | _ => none

def basicBody (fuel : Nat) (cs : List Char) : Option (List Char × List Char) :=
  match fuel, cs with
  | 0, _ => none
  | _, [] => none
  | _, '"' :: rest => some ([], rest)
  | fuel + 1, '\\' :: rest => do
      let (c, rest) ← escape? rest
      let (body, rest) ← basicBody fuel rest
      return (c :: body, rest)
  | fuel + 1, c :: rest =>
      if isPlain c then do
        let (body, rest) ← basicBody fuel rest
        return (c :: body, rest)
      else none

def literalBody : Reader (List Char)
  | [] => none
  | c :: rest =>
      if c = '\'' then some ([], rest)
      else if isPlain c then (literalBody rest).map fun (body, rest) => (c :: body, rest)
      else none

def quoteRun (quote : Char) (cs : List Char) : Nat :=
  (cs.takeWhile (· == quote)).length

/-- The end of a string of several lines: three quotes, of which up to two more may stand before
them as text. -/
def tripleEnd? (quote : Char) (cs : List Char) : Option (List Char × List Char) :=
  let run := quoteRun quote cs
  if run < 3 then none
  else some (List.replicate (min run 5 - 3) quote, cs.drop (min run 5))

def skipLines (fuel : Nat) (cs : List Char) : List Char :=
  match fuel with
  | 0 => cs
  | fuel + 1 =>
      match newline? (skipBlank cs) with
      | some rest => skipLines fuel rest
      | none => skipBlank cs

def multilineBody (quote : Char) (escapes : Bool) (fuel : Nat) (cs : List Char) :
    Option (List Char × List Char) :=
  match fuel with
  | 0 => none
  | fuel + 1 =>
      match tripleEnd? quote cs with
      | some result => some result
      | none =>
          match newline? cs, cs with
          | some rest, _ => do
              let (body, rest) ← multilineBody quote escapes fuel rest
              return ('\n' :: body, rest)
          | none, [] => none
          | none, c :: rest =>
              if escapes && c == '\\' then
                match newline? (skipBlank rest) with
                | some below => multilineBody quote escapes fuel (skipLines below.length below)
                | none => do
                    let (c, rest) ← escape? rest
                    let (body, rest) ← multilineBody quote escapes fuel rest
                    return (c :: body, rest)
              else if isPlain c then do
                let (body, rest) ← multilineBody quote escapes fuel rest
                return (c :: body, rest)
              else none

/-- A line ending directly behind the opening quotes is no text. -/
def multiline (quote : Char) (escapes : Bool) (cs : List Char) : Option (List Char × List Char) :=
  let cs := (newline? cs).getD cs
  multilineBody quote escapes (cs.length + 1) cs

def string? : Reader (List Char)
  | '"' :: '"' :: '"' :: rest => multiline '"' true rest
  | '"' :: rest => basicBody (rest.length + 1) rest
  | '\'' :: '\'' :: '\'' :: rest => multiline '\'' false rest
  | '\'' :: rest => literalBody rest
  | _ => none

def key? : Reader (List Char)
  | '"' :: rest => basicBody (rest.length + 1) rest
  | '\'' :: rest => literalBody rest
  | cs =>
      let key := cs.takeWhile isBareKey
      if key.isEmpty then none else some (key, cs.dropWhile isBareKey)

def keyValue? (cs : List Char) : Option ((String × String) × List Char) := do
  let (key, rest) ← key? cs
  match skipBlank rest with
  | '=' :: rest =>
      let (value, rest) ← string? (skipBlank rest)
      return ((String.ofList key, String.ofList value), rest)
  | _ => none

/-- Reads the lines of a document; every line takes at least one character. -/
def document? (fuel : Nat) (cs : List Char) : Option (List (String × String)) :=
  match fuel with
  | 0 => none
  | fuel + 1 =>
      if cs.isEmpty then some []
      else
        match lineEnd? cs with
        | some rest => document? fuel rest
        | none => do
            let (entry, rest) ← keyValue? (skipBlank cs)
            let rest ← lineEnd? rest
            let entries ← document? fuel rest
            return entry :: entries

def keyValues? (text : String) : Option (List (String × String)) :=
  let cs := text.toList
  let cs := if cs.head? = some '\ufeff' then cs.tail else cs
  document? (cs.length + 1) cs

end EventWiki.Settings
