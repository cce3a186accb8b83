import CommandTree.Decimal.Rounding

/-!
# Double-precision numbers as exact values

A finite double is plus or minus `m * 2 ^ e`.  Reading, printing and the fused
multiplication all go through this exact value and round it once.

## Main definitions

* `Binary64` — a double taken apart.
* `decode` — the parts of a double.
* `ofRatio` — the double nearest to a quotient, ties to even.
* `ofInt` — the double nearest to an integer.
* `mulAdd x y z` — `x * y + z` rounded once.
-/

namespace CommandTree.Decimal

/-- A double taken apart. -/
inductive Binary64 where
  /-- The number `m * 2 ^ e`, or its opposite when `negative`. -/
  | finite (negative : Bool) (m : Nat) (e : Int)
  /-- An infinity of the given sign. -/
  | infinite (negative : Bool)
  /-- No number. -/
  | nan
  deriving DecidableEq, Repr

/-- The parts of a double; the integer factor of a finite one is below `2 ^ 53`. -/
def decode (x : Float) : Binary64 :=
  let bits := x.toBits.toNat
  let negative := decide (pow2 63 ≤ bits)
  let field : Nat := bits / pow2 52 % pow2 11
  let fraction : Nat := bits % pow2 52
  if field = 2047 then (if fraction = 0 then .infinite negative else .nan)
  else if field = 0 then .finite negative fraction (-1074)
  else .finite negative (pow2 52 + fraction) ((field : Int) - 1075)

/-- The numerator of `n / d * 2 ^ (-e)`, when the power of two is divided out. -/
def scaleNum (n : Nat) (e : Int) : Nat := n * pow2 (-e).toNat

/-- The denominator of `n / d * 2 ^ (-e)`, when the power of two is divided out. -/
def scaleDen (d : Nat) (e : Int) : Nat := d * pow2 e.toNat

/-- The exponent at which `n / d` is written with an integer factor of 53 bits, but never one
below that of the smallest doubles. -/
def ratioExponent (n d : Nat) : Int :=
  let low : Int := (n.log2 : Int) - d.log2 - 53
  let e := if scaleNum n low < pow2 53 * scaleDen d low then low else low + 1
  max e (-1074)

/-- The bits of the double nearest to `n / d`, ties to even, without the sign.  Too large a
quotient gives infinity.  The bits of a factor and an exponent are their sum, so that a factor
rounded up to `2 ^ 53` carries into the exponent. -/
def ratioBits (n d : Nat) : Nat :=
  if n = 0 then 0
  else
    let e := ratioExponent n d
    let m := roundDiv .toEven (scaleNum n e) (scaleDen d e)
    min ((e + 1074).toNat * pow2 52 + m) (2047 * pow2 52)

/-- The double nearest to `n / d`, ties to even, with the given sign. -/
def ofRatio (negative : Bool) (n d : Nat) : Float :=
  Float.ofBits (UInt64.ofNat (ratioBits n d + if negative then pow2 63 else 0))

/-- The double nearest to an integer, ties to even. -/
def ofInt (i : Int) : Float := ofRatio (i < 0) i.natAbs 1

/-- The integer `±m * 2 ^ (e - base)`, for a `base` that is not above `e`. -/
def alignedTo (base : Int) (negative : Bool) (m : Nat) (e : Int) : Int :=
  let size : Nat := m * pow2 (e - base).toNat
  if negative then -(size : Int) else size

/-- The sum `x * y + z` rounded once.  A sum of zero is negative only when both summands are. -/
def mulAdd (x y z : Float) : Float :=
  match decode x, decode y, decode z with
  | .finite nx mx ex, .finite ny my ey, .finite nz mz ez =>
    let base := min (ex + ey) ez
    let sum := alignedTo base (nx != ny) (mx * my) (ex + ey) + alignedTo base nz mz ez
    let negative := if sum = 0 then (nx != ny) && nz else sum < 0
    ofRatio negative (sum.natAbs * pow2 base.toNat) (pow2 (-base).toNat)
  | .finite _ _ _, .finite _ _ _, _ => z
  | _, _, _ => x * y + z

end CommandTree.Decimal
