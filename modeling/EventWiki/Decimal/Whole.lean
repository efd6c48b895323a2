namespace EventWiki.Decimal

def digit (c : Char) : Nat :=
  c.toNat - '0'.toNat

def ofDigits (digits : List Char) : Nat :=
  digits.foldl (fun value c => 10 * value + digit c) 0

def digits? (cs : List Char) : Option Nat :=
  if !cs.isEmpty && cs.all Char.isDigit then some (ofDigits cs) else none

def wordLimit : Nat := Nat.pow 2 64

/-- Reads a number below `2 ^ 64`; a plus sign may stand before it. -/
def word? (cs : List Char) : Option Nat :=
  (digits? (if cs.head? = some '+' then cs.tail else cs)).filter (· < wordLimit)

def greatestInteger : Int := 9223372036854775807

def leastInteger : Int := -9223372036854775808

def integer? (cs : List Char) : Option Int :=
  let value? : Option Int :=
    match cs with
    | '-' :: digits => (digits? digits).map fun value => -(value : Int)
    | '+' :: digits => (digits? digits).map fun value => (value : Int)
    | digits => (digits? digits).map fun value => (value : Int)
  value?.filter fun value => leastInteger ≤ value && value ≤ greatestInteger

def saturate (value : Int) : Int :=
  max leastInteger (min value greatestInteger)

@[simp] theorem ofDigits_nil : ofDigits [] = 0 := rfl

theorem ofDigits_concat (digits : List Char) (c : Char) :
    ofDigits (digits ++ [c]) = 10 * ofDigits digits + digit c := by
  simp [ofDigits]

end EventWiki.Decimal
