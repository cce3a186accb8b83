/-!
# Powers and rounded quotients

Every conversion between binary and decimal numbers rounds one exact quotient
of natural numbers; only the treatment of ties differs.

## Main definitions

* `pow2`, `pow10` — the powers that scale a quotient.
* `Tie` — which of the two neighbours a value half way between them goes to.
* `roundDiv tie n d` — the quotient `n / d` rounded to the nearest integer.

## Main results

* `roundDiv_near` — the rounded quotient is at most half a unit away.
-/

namespace CommandTree.Decimal

/-- A power of two. -/
def pow2 (n : Nat) : Nat := Nat.pow 2 n

/-- A power of ten. -/
def pow10 (n : Nat) : Nat := Nat.pow 10 n

/-- Where a value half way between two neighbours goes. -/
inductive Tie where
  /-- To the even neighbour. -/
  | toEven
  /-- To the larger neighbour. -/
  | up
  deriving DecidableEq, Repr

/-- The neighbour `q` or `q + 1` that a value half way between them goes to. -/
def Tie.settle : Tie → Nat → Nat
  | .toEven, q => if q % 2 = 0 then q else q + 1
  | .up, q => q + 1

/-- The quotient `n / d` rounded to the nearest integer. -/
def roundDiv (tie : Tie) (n d : Nat) : Nat :=
  let q := n / d
  let r := n % d
  if 2 * r < d then q else if d < 2 * r then q + 1 else tie.settle q

/-- A rounded quotient is at most half a unit away from the exact one. -/
theorem roundDiv_near (tie : Tie) {n d : Nat} (hd : 0 < d) :
    2 * n ≤ 2 * d * roundDiv tie n d + d ∧ 2 * d * roundDiv tie n d ≤ 2 * n + d := by
  have hn := Nat.div_add_mod n d
  have hr := Nat.mod_lt n hd
  have hsettle : tie.settle (n / d) = n / d ∨ tie.settle (n / d) = n / d + 1 := by
    cases tie <;> simp only [Tie.settle] <;> (try split) <;> simp
  have hmul : 2 * d * (n / d + 1) = 2 * (d * (n / d)) + 2 * d := by
    rw [Nat.mul_add, Nat.mul_assoc]; omega
  have hmul' : 2 * d * (n / d) = 2 * (d * (n / d)) := Nat.mul_assoc ..
  unfold roundDiv
  simp only
  split
  · rw [hmul']; omega
  · split
    · rw [hmul]; omega
    · rcases hsettle with h | h <;> rw [h]
      · rw [hmul']; omega
      · rw [hmul]; omega

end CommandTree.Decimal
