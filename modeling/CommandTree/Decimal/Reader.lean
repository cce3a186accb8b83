import CommandTree.Decimal.Binary64

/-!
# Reading numbers

Integers are an optional sign and decimal digits, within the range of 64 bits.
Doubles are an optional sign and digits with an optional point and exponent, or
one of the words `inf`, `infinity` and `nan` in any case; they are rounded
correctly.

## Main definitions

* `natOfDigits` — the value of a list of digits.
* `signSplit` — a text cut after its optional sign.
* `readInt?` — an integer of 64 bits.
* `readFloat?` — a double.
-/

namespace CommandTree.Decimal

/-- Whether a character is a decimal digit. -/
def isDigit (c : Char) : Bool := '0' ≤ c && c ≤ '9'

/-- The value of a decimal digit. -/
def digitValue (c : Char) : Nat := c.toNat - '0'.toNat

/-- The value of a list of decimal digits. -/
def natOfDigits (ds : List Char) : Nat := ds.foldl (fun n d => 10 * n + digitValue d) 0

/-- Whether a text begins with a minus sign, and the text without its sign. -/
def signSplit : List Char → Bool × List Char
  | '-' :: cs => (true, cs)
  | '+' :: cs => (false, cs)
  | cs => (false, cs)

/-- The least integer of 64 bits. -/
def minInt : Int := -9223372036854775808

/-- The greatest integer of 64 bits. -/
def maxInt : Int := 9223372036854775807

/-- An optional sign and at least one digit, as an integer of 64 bits. -/
def readInt? (cs : List Char) : Option Int :=
  let (negative, digits) := signSplit cs
  if digits.isEmpty || !digits.all isDigit then none
  else
    let size : Int := natOfDigits digits
    let value := if negative then -size else size
    if minInt ≤ value ∧ value ≤ maxInt then some value else none

/-- The exponent after a decimal number: nothing, or `e`, an optional sign and digits. -/
def readExponent? : List Char → Option Int
  | [] => some 0
  | mark :: cs =>
    let (negative, digits) := signSplit cs
    if (mark != 'e' && mark != 'E') || digits.isEmpty || !digits.all isDigit then none
    else some (if negative then -(natOfDigits digits : Int) else natOfDigits digits)

/-- The double nearest to `n * 10 ^ e`.  A number written with `count` digits is below
`10 ^ (count + e)`, so that far exponents are settled without their powers. -/
def ofDecimal (negative : Bool) (n count : Nat) (e : Int) : Float :=
  if n = 0 ∨ count + e < -400 then ofRatio negative 0 1
  else if 400 + count < e then ofRatio negative (pow2 1024) 1
  else ofRatio negative (n * pow10 e.toNat) (pow10 (-e).toNat)

/-- Digits with an optional point and exponent; at least one digit must stand before the
exponent. -/
def readNumber? (negative : Bool) (cs : List Char) : Option Float :=
  let whole := cs.takeWhile isDigit
  let afterWhole := cs.dropWhile isDigit
  let tail := if afterWhole.head? = some '.' then afterWhole.drop 1 else []
  let fraction := tail.takeWhile isDigit
  let rest := if afterWhole.head? = some '.' then tail.dropWhile isDigit else afterWhole
  let digits := whole ++ fraction
  if digits.isEmpty then none
  else
    (readExponent? rest).map fun e =>
      ofDecimal negative (natOfDigits digits) digits.length (e - fraction.length)

/-- A double as text. -/
def readFloat? (cs : List Char) : Option Float :=
  let (negative, body) := signSplit cs
  let word := String.ofList (body.map Char.toLower)
  if word = "inf" ∨ word = "infinity" then some (ofRatio negative (pow2 1024) 1)
  else if word = "nan" then some (0.0 / 0.0)
  else readNumber? negative body

end CommandTree.Decimal
