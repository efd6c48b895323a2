namespace EventWiki.Text

namespace Utf8

/-- A character that has begun: the number of bytes it still needs, the range of the next one, and
the value so far. -/
structure Pending where
  owed : Nat
  low : Nat
  high : Nat
  value : Nat
  deriving DecidableEq, Repr

/-- What a first byte begins, if it needs more bytes. The range of the second byte leaves out the
overlong forms, the surrogates and what is beyond the last code point. -/
def lead? (byte : Nat) : Option Pending :=
  if 0xC2 ≤ byte && byte ≤ 0xDF then some ⟨1, 0x80, 0xBF, byte - 0xC0⟩
  else if byte = 0xE0 then some ⟨2, 0xA0, 0xBF, 0⟩
  else if byte = 0xED then some ⟨2, 0x80, 0x9F, 0xD⟩
  else if 0xE1 ≤ byte && byte ≤ 0xEF then some ⟨2, 0x80, 0xBF, byte - 0xE0⟩
  else if byte = 0xF0 then some ⟨3, 0x90, 0xBF, 0⟩
  else if 0xF1 ≤ byte && byte ≤ 0xF3 then some ⟨3, 0x80, 0xBF, byte - 0xF0⟩
  else if byte = 0xF4 then some ⟨3, 0x80, 0x8F, 4⟩
  else none

def Pending.next? (pending : Pending) (byte : Nat) : Option Pending :=
  if pending.low ≤ byte && byte ≤ pending.high then
    some ⟨pending.owed - 1, 0x80, 0xBF, pending.value * 0x40 + byte % 0x40⟩
  else none

/-- The state after a byte that begins a character, with the character if that is all of it. The
inner `none` stands for a byte that begins nothing. -/
def begin (byte : Nat) : List (Option Char) × Option Pending :=
  if byte < 0x80 then ([some (Char.ofNat byte)], none)
  else
    match lead? byte with
    | some pending => ([], some pending)
    | none => ([none], none)

/-- The state after any byte. A character that breaks off is one `none`, and the byte that breaks
it begins anew. -/
def step (pending : Option Pending) (byte : Nat) : List (Option Char) × Option Pending :=
  match pending with
  | none => begin byte
  | some current =>
      match current.next? byte with
      | some next =>
          if next.owed = 0 then ([some (Char.ofNat next.value)], none) else ([], some next)
      | none =>
          let (decoded, state) := begin byte
          (none :: decoded, state)

/-- The characters of bytes in UTF-8, with `none` for every longest malformed part. -/
def decode (pending : Option Pending) : List UInt8 → List (Option Char)
  | [] => if pending.isSome then [none] else []
  | byte :: rest =>
      let (decoded, state) := step pending byte.toNat
      decoded ++ decode state rest

def lossy (bytes : List UInt8) : String :=
  String.ofList ((decode none bytes).map (·.getD '\ufffd'))

def strict? (bytes : List UInt8) : Option String :=
  ((decode none bytes).mapM id).map String.ofList

end Utf8

namespace Windows1252

def upperControls : List Nat := [
  0x20AC, 0x81, 0x201A, 0x192, 0x201E, 0x2026, 0x2020, 0x2021,
  0x2C6, 0x2030, 0x160, 0x2039, 0x152, 0x8D, 0x17D, 0x8F,
  0x90, 0x2018, 0x2019, 0x201C, 0x201D, 0x2022, 0x2013, 0x2014,
  0x2DC, 0x2122, 0x161, 0x203A, 0x153, 0x9D, 0x17E, 0x178]

def char (byte : Nat) : Char :=
  Char.ofNat (if 0x80 ≤ byte && byte < 0xA0 then upperControls.getD (byte - 0x80) byte else byte)

def decode (bytes : List UInt8) : String :=
  String.ofList (bytes.map fun byte => char byte.toNat)

end Windows1252

def decodeScript (bytes : List UInt8) : String :=
  (Utf8.strict? bytes).getD (Windows1252.decode bytes)

end EventWiki.Text
