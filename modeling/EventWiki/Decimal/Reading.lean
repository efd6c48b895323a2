import EventWiki.Decimal.Binary
import EventWiki.Decimal.Whole
import EventWiki.Text.LowerCase

namespace EventWiki.Decimal

/-- The number `digits * 10 ^ exponent`, negated if `negative`. -/
structure Scientific where
  negative : Bool
  digits : Nat
  exponent : Int
  deriving DecidableEq, Repr

/-- The bits of the float nearest to a positive quotient, a tie to the even mantissa. The exponent
is the greatest one that leaves the quotient at least `2 ^ 52`, unless the quotient is too small
for any. -/
def nearestBits (numerator denominator : Nat) : Nat :=
  let estimate : Int := (numerator.log2 : Int) - (denominator.log2 : Int) - 52
  let scaled (exponent : Int) : Nat × Nat :=
    match exponent with
    | .ofNat exponent => (numerator, denominator * Nat.pow 2 exponent)
    | .negSucc exponent => (numerator * Nat.pow 2 (exponent + 1), denominator)
  let isShort := let (num, den) := scaled estimate; num < den * fractionLimit
  let exponent := max (if isShort then estimate - 1 else estimate) (-1074)
  let (num, den) := scaled exponent
  let bits := (exponent + 1074).toNat * fractionLimit + roundDiv num den
  min bits ((exponentRange - 1) * fractionLimit)

def exponentLimit : Int := 400

def Scientific.toFloat (value : Scientific) : Float :=
  let magnitude := value.exponent + ((toString value.digits).length : Int)
  let bits :=
    if value.digits = 0 || magnitude < -exponentLimit then 0
    else if exponentLimit < magnitude then (exponentRange - 1) * fractionLimit
    else
      match value.exponent with
      | .ofNat exponent => nearestBits (value.digits * Nat.pow 10 exponent) 1
      | .negSucc exponent => nearestBits value.digits (Nat.pow 10 (exponent + 1))
  Float.ofBits (UInt64.ofNat (if value.negative then bits + signBit else bits))

/-- Reads the exponent behind a mantissa; no text at all is the exponent zero. -/
def exponent? : List Char → Option Int
  | [] => some 0
  | mark :: rest =>
      if mark = 'e' || mark = 'E' then
        match rest with
        | '-' :: digits => (digits? digits).map fun value => -(value : Int)
        | '+' :: digits => (digits? digits).map fun value => (value : Int)
        | digits => (digits? digits).map fun value => (value : Int)
      else none

def unsigned? (negative : Bool) (cs : List Char) : Option Scientific :=
  let whole := cs.takeWhile Char.isDigit
  let rest := cs.dropWhile Char.isDigit
  let (places, rest) :=
    match rest with
    | '.' :: behind => (behind.takeWhile Char.isDigit, behind.dropWhile Char.isDigit)
    | _ => ([], rest)
  if (whole ++ places).isEmpty then none
  else (exponent? rest).map fun exponent =>
    ⟨negative, ofDigits (whole ++ places), exponent - places.length⟩

/-- Reads a float: a decimal number, an infinity or NaN, with an optional sign. -/
def float? (text : String) : Option Float :=
  let (negative, cs) :=
    match text.toList with
    | '-' :: cs => (true, cs)
    | '+' :: cs => (false, cs)
    | cs => (false, cs)
  let word := Text.asciiFold (String.ofList cs)
  if word == "inf" || word == "infinity" then
    some (if negative then -1.0 / 0.0 else 1.0 / 0.0)
  else if word == "nan" then some (0.0 / 0.0)
  else (unsigned? negative cs).map Scientific.toFloat

end EventWiki.Decimal
