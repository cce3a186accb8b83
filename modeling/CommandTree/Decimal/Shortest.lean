import CommandTree.Decimal.Binary64

/-!
# Shortest decimal digits

The digits written for a double are the fewest that read back as that double;
among those, the ones nearest to its exact value, and of two equally near the
larger.

## Main definitions

* `Digits` — a decimal number `n * 10 ^ e`.
* `Interval` — a positive double with the bounds of the reals that round to it.
* `shortest` — the digits written for a positive double.
-/

namespace CommandTree.Decimal

/-- The decimal number `n * 10 ^ e`. -/
structure Digits where
  /-- The integer that the digits make up. -/
  n : Nat
  /-- The place of the last digit. -/
  e : Int
  deriving DecidableEq, Repr

/-- A positive double with the reals that round to it: the numbers from `low / den` to
`high / den` around `mid / den`, the two ends included when `closed`. -/
structure Interval where
  /-- Numerator of the lower end. -/
  low : Nat
  /-- Numerator of the double itself. -/
  mid : Nat
  /-- Numerator of the upper end. -/
  high : Nat
  /-- The common denominator. -/
  den : Nat
  /-- Whether the ends round to the double too. -/
  closed : Bool
  deriving Repr

/-- The reals that round to the double `m * 2 ^ e`.  Below a power of two the doubles lie twice
as close as above it. -/
def Interval.ofFloat (m : Nat) (e : Int) : Interval :=
  let up := pow2 e.toNat
  let den := 4 * pow2 (-e).toNat
  let below := if m = pow2 52 ∧ -1074 < e then 1 else 2
  ⟨(4 * m - below) * up, 4 * m * up, (4 * m + 2) * up, den, m % 2 == 0⟩

/-- Whether `n / d` rounds to the double. -/
def Interval.contains (i : Interval) (n d : Nat) : Bool :=
  let value := n * i.den
  if i.closed then i.low * d ≤ value && value ≤ i.high * d
  else i.low * d < value && value < i.high * d

/-- How many decimal digits a natural number has; zero has one. -/
def width (n : Nat) : Nat := (Nat.toDigits 10 n).length

/-- The exponent `k` of the first digit of `n / d`: the quotient lies from `10 ^ k` up to, but
not including, `10 ^ (k + 1)`. -/
def leadingPlace (n d : Nat) : Int :=
  if d ≤ n then width (n / d) - 1
  else
    let k := width (d / n)
    if d ≤ n * pow10 (k - 1) then 1 - (k : Int) else -(k : Int)

/-- The multiple of `10 ^ e` nearest to the double among the two around it, if it rounds to the
double; an exact tie goes up. -/
def Interval.onGrid? (i : Interval) (e : Int) : Option Digits :=
  let up := pow10 e.toNat
  let down := pow10 (-e).toNat
  let num := i.mid * down
  let den := i.den * up
  let near := roundDiv .up num den
  let far := if near * den ≤ num then near + 1 else near - 1
  if i.contains (near * up) down then some ⟨near, e⟩
  else if i.contains (far * up) down then some ⟨far, e⟩
  else none

/-- The first grid that holds a number rounding to the double, from coarse to fine: `count` grids
beginning with the multiples of `10 ^ e`. -/
def Interval.firstOnGrid? (i : Interval) (e : Int) : Nat → Option Digits
  | 0 => none
  | count + 1 =>
    match i.onGrid? e with
    | some digits => some digits
    | none => i.firstOnGrid? (e - 1) count

/-- A decimal number whose last digit is not zero: trailing zeros move to the exponent, at most
`count` of them. -/
def Digits.strip (x : Digits) : Nat → Digits
  | 0 => x
  | count + 1 => if x.n % 10 = 0 then Digits.strip ⟨x.n / 10, x.e + 1⟩ count else x

/-- The digits written for the positive double `m * 2 ^ e`; seventeen always suffice. -/
def shortest (m : Nat) (e : Int) : Digits :=
  let i := Interval.ofFloat m e
  let place := leadingPlace i.mid i.den
  ((i.firstOnGrid? place 17).getD ⟨0, 0⟩).strip 17

end CommandTree.Decimal
