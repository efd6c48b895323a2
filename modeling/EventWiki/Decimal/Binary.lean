namespace EventWiki.Decimal

/-- The number `mantissa * 2 ^ exponent`, negated if `negative`. -/
structure Binary where
  negative : Bool
  mantissa : Nat
  exponent : Int
  deriving DecidableEq, Repr

def fractionLimit : Nat := Nat.pow 2 52

def exponentRange : Nat := Nat.pow 2 11

def signBit : Nat := Nat.pow 2 63

def Binary.ofFloat? (value : Float) : Option Binary :=
  let bits := value.toBits.toNat
  let fraction := bits % fractionLimit
  let exponent : Nat := bits / fractionLimit % exponentRange
  let negative := signBit ≤ bits
  if exponent = exponentRange - 1 then none
  else if exponent = 0 then some ⟨negative, fraction, -1074⟩
  else some ⟨negative, fraction + fractionLimit, (exponent : Int) - 1075⟩

def Binary.fraction (value : Binary) : Nat × Nat :=
  match value.exponent with
  | .ofNat exponent => (value.mantissa * Nat.pow 2 exponent, 1)
  | .negSucc exponent => (value.mantissa, Nat.pow 2 (exponent + 1))

/-- The quotient rounded to the nearest whole number, a tie to the even neighbour. -/
def roundDiv (numerator denominator : Nat) : Nat :=
  let quotient := numerator / denominator
  let twice := 2 * (numerator % denominator)
  if twice < denominator then quotient
  else if denominator < twice then quotient + 1
  else quotient + quotient % 2

def Binary.truncate (value : Binary) : Int :=
  let (numerator, denominator) := value.fraction
  let whole : Int := (numerator / denominator : Nat)
  if value.negative then -whole else whole

/-- Written with one decimal place. The sign is kept when the digits are all zero. -/
def Binary.oneDecimal (value : Binary) : String :=
  let (numerator, denominator) := value.fraction
  let tenths := roundDiv (10 * numerator) denominator
  (if value.negative then "-" else "") ++ toString (tenths / 10) ++ "." ++ toString (tenths % 10)

end EventWiki.Decimal
