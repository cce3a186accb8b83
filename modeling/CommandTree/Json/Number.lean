import CommandTree.Decimal.Reader

/-!
# Numbers in documents

A number in a document is scaled in haste: as many of its leading digits as fit into
64 bits are kept, the number they make is rounded to a double, and that is multiplied
with a power of ten rounded to a double.  The number counts as finite when this
product is; it may be too large though the number as written is not.

## Main definitions

* `keepDigits` — the leading digits that fit.
* `Scaled`, `Scaled.ofLexeme` — a number as kept digits and a power of ten.
* `Scaled.isFinite` — whether the product is finite.
-/

namespace CommandTree.Json

/-- A number as kept digits and a power of ten. -/
structure Scaled where
  /-- The number that the kept digits make. -/
  kept : Nat
  /-- The exponent of the power of ten. -/
  exponent : Int
  deriving DecidableEq, Repr

/-- The number that digits make after others that made `n`, up to the first that would not fit
into 64 bits, and what follows them. -/
def keepDigits (n : Nat) : List Char → Nat × List Char
  | [] => (n, [])
  | c :: cs =>
    let next := 10 * n + Decimal.digitValue c
    if Decimal.isDigit c && next < Decimal.pow2 64 then keepDigits next cs else (n, c :: cs)

/-- The kept digits of a number: those before the point, each dropped one a factor of ten, and
then those after it, as far as they fit. -/
def Scaled.ofDigits (cs : List Char) : Scaled :=
  let (whole, rest) := keepDigits 0 cs
  let dropped : Int := (rest.takeWhile Decimal.isDigit).length
  match rest.dropWhile Decimal.isDigit with
  | '.' :: fraction =>
    let (kept, rest) := keepDigits whole fraction
    ⟨kept, dropped - (fraction.length - rest.length : Nat)⟩
  | _ => ⟨whole, dropped⟩

/-- A number as written. -/
def Scaled.ofLexeme (lexeme : List Char) : Scaled :=
  let body := (Decimal.signSplit lexeme).2
  let digits := body.takeWhile fun c => c != 'e' && c != 'E'
  let number := ofDigits digits
  ⟨number.kept, number.exponent + (Decimal.readExponent? (body.drop digits.length)).getD 0⟩

/-- A natural number rounded to 53 bits, ties to even. -/
def round53 (n : Nat) : Nat :=
  let unit := Decimal.pow2 (n.log2 - 52)
  Decimal.roundDiv .toEven n unit * unit

/-- The least number that is rounded to infinity. -/
def overflowBound : Nat := Decimal.pow2 1024 - Decimal.pow2 970

/-- Whether the product of the rounded digits and the rounded power of ten is finite.  The powers
go up to the 308th; no division by one is too large. -/
def Scaled.isFinite (x : Scaled) : Bool :=
  x.kept == 0 || x.exponent < 0 ||
    x.exponent ≤ 308 &&
      round53 x.kept * round53 (Decimal.pow10 x.exponent.toNat) < overflowBound

end CommandTree.Json
