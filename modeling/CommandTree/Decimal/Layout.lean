import CommandTree.Decimal.Shortest

/-!
# Numbers as text

A number is written in one of three forms: all digits positionally, positionally
with a mark that it is no integer type or else with an exponent, or with a fixed
number of decimals.

## Main definitions

* `plain` — positional, an integer without a point.
* `marked` — positional from `10 ^ -4` to below `10 ^ 16` with at least one
  decimal, otherwise with an exponent.
* `fixed` — a fixed number of decimals, half to even.
-/

namespace CommandTree.Decimal

/-- The digits of a natural number. -/
def digitsOf (n : Nat) : List Char := Nat.toDigits 10 n

/-- Digits with a point `places` digits from the right, filled with zeros up to one digit before
the point. -/
def withPoint (digits : List Char) (places : Nat) : List Char :=
  let filled := List.replicate (places + 1 - digits.length) '0' ++ digits
  let whole := filled.length - places
  filled.take whole ++ '.' :: filled.drop whole

/-- A decimal number written positionally, without a point when it is an integer. -/
def Digits.positional (x : Digits) : List Char :=
  if 0 ≤ x.e then digitsOf x.n ++ List.replicate x.e.toNat '0'
  else withPoint (digitsOf x.n) (-x.e).toNat

/-- The exponent of the first digit of a decimal number. -/
def Digits.place (x : Digits) : Int := x.e + width x.n - 1

/-- A decimal number with one digit before the point and an exponent; a single digit has no
point. -/
def Digits.scientific (x : Digits) : List Char :=
  let mantissa :=
    match digitsOf x.n with
    | [d] => [d]
    | d :: ds => d :: '.' :: ds
    | [] => []
  mantissa ++ 'e' :: (if x.place < 0 then ['-'] else []) ++ digitsOf x.place.natAbs

/-- The text of a number given those of the positive doubles and of zero. -/
def signed (zero : List Char) (positive : Nat → Int → List Char) (x : Float) : String :=
  match decode x with
  | .nan => "NaN"
  | .infinite negative => if negative then "-inf" else "inf"
  | .finite negative m e =>
    String.ofList ((if negative then ['-'] else []) ++ if m = 0 then zero else positive m e)

/-- The shortest digits, all written out: `7`, `-0`, `0.1`, `NaN`, `inf`. -/
def plain (x : Float) : String := signed ['0'] (fun m e => (shortest m e).positional) x

/-- The shortest digits with a decimal point or an exponent: `7.0`, `1e16`, `1.5e-7`. -/
def marked (x : Float) : String :=
  signed ['0', '.', '0'] (fun m e =>
    let digits := shortest m e
    if digits.place < -4 ∨ 16 ≤ digits.place then digits.scientific
    else if 0 ≤ digits.e then digits.positional ++ ['.', '0']
    else digits.positional) x

/-- A number with exactly `places` decimals: its exact value rounded, half to even.  A value that
rounds to zero has no sign. -/
def fixed (places : Nat) (x : Float) : String :=
  match decode x with
  | .nan => "NaN"
  | .infinite negative => if negative then "-inf" else "inf"
  | .finite negative m e =>
    let units := roundDiv .toEven (m * pow10 places * pow2 e.toNat) (pow2 (-e).toNat)
    let body := if places = 0 then digitsOf units else withPoint (digitsOf units) places
    String.ofList ((if negative && units != 0 then ['-'] else []) ++ body)

end CommandTree.Decimal
