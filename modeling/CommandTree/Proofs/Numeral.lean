import CommandTree.Argument
import CommandTree.World
import Mathlib.Data.Nat.Digits.Lemmas

/-!
# Integers in words

An integer is written as an optional sign and decimal digits, and each digit counts by its
place.  Integers are read without regard to places, digit by digit from the left, and only
at the end it is asked whether the value has 64 bits.  Both give the same value, for digits
in any number, and so an argument for integers takes just the words that are so written and
whose value has 64 bits and lies within its bounds.

## Main definitions

* `Sign`, `Numeral` — an integer as it is written.
* `Numeral.text`, `Numeral.value` — the characters of a numeral, and what it stands for.
* `Argument.Admits` — the integers that an argument has room for.

## Main results

* `natOfDigits_eq` — digits read from the left count by their places.
* `readInt?_eq_some_iff` — what is read of a text.
* `exists_numeral_toString` — every integer is written as a numeral.
* `Argument.accept_integer` — **which words an argument for integers takes, and for what**.
-/

namespace CommandTree

namespace Decimal

/-! ### Numerals -/

/-- The sign before the digits of an integer. -/
inductive Sign where
  /-- No sign. -/
  | none
  /-- A plus sign. -/
  | plus
  /-- A minus sign. -/
  | minus
  deriving DecidableEq, Repr

namespace Sign

/-- How a sign is written. -/
def text : Sign → List Char
  | none => []
  | plus => ['+']
  | minus => ['-']

/-- The integer of a size with the sign. -/
def apply (size : Nat) : Sign → Int
  | none | plus => size
  | minus => -(size : Int)

end Sign

/-- An integer as it is written: a sign, and digits from the highest place to the lowest, of which
there is at least one. -/
structure Numeral where
  /-- The sign. -/
  sign : Sign
  /-- The digits. -/
  digits : List (Fin 10)
  /-- There is a digit. -/
  nonempty : digits ≠ []

/-- The characters of digits. -/
def digitsText (ds : List (Fin 10)) : List Char := ds.map fun d : Fin 10 => Nat.digitChar d.val

/-- What digits stand for, each counted by its place. -/
def placeValue (ds : List (Fin 10)) : Nat := Nat.ofDigits 10 (ds.reverse.map Fin.val)

namespace Numeral

/-- The characters of a numeral. -/
def text (n : Numeral) : List Char := n.sign.text ++ digitsText n.digits

/-- What a numeral stands for. -/
def value (n : Numeral) : Int := n.sign.apply (placeValue n.digits)

end Numeral

/-! ### Digits -/

theorem isDigit_digitChar (d : Fin 10) : isDigit (Nat.digitChar d.val) = true := by
  revert d
  decide

theorem digitValue_digitChar (d : Fin 10) : digitValue (Nat.digitChar d.val) = d := by
  revert d
  decide

theorem exists_digitChar {c : Char} (h : isDigit c = true) :
    ∃ d : Fin 10, Nat.digitChar d.val = c := by
  have hrange : 48 ≤ c.toNat ∧ c.toNat ≤ 57 := by
    simpa [isDigit, Char.le_def, UInt32.le_iff_toNat_le] using h
  have hten : c.toNat - 48 < 10 := by omega
  refine ⟨⟨c.toNat - 48, hten⟩, Char.toNat_inj.mp ?_⟩
  rw [Nat.toNat_digitChar_of_lt_ten hten]
  omega

/-- Characters are digits just if they are those of a list of digits. -/
theorem all_isDigit_iff {cs : List Char} :
    cs.all isDigit = true ↔ ∃ ds : List (Fin 10), digitsText ds = cs := by
  constructor
  · intro h
    induction cs with
    | nil => exact ⟨[], rfl⟩
    | cons c cs ih =>
      rw [List.all_cons, Bool.and_eq_true] at h
      obtain ⟨d, rfl⟩ := exists_digitChar h.1
      obtain ⟨ds, rfl⟩ := ih h.2
      exact ⟨d :: ds, rfl⟩
  · rintro ⟨ds, rfl⟩
    simp [digitsText, isDigit_digitChar]

/-- **Digits read from the left count by their places.** -/
theorem natOfDigits_eq (ds : List (Fin 10)) : natOfDigits (digitsText ds) = placeValue ds := by
  rw [natOfDigits, digitsText, placeValue, List.foldl_map, Nat.ofDigits_eq_foldr, List.foldr_map,
    List.foldr_reverse]
  simp only [digitValue_digitChar, Nat.cast_id, Nat.add_comm]

/-- A number of `k + 1` digits, of which the first is not zero, is at least `10 ^ k`. -/
theorem pow_le_placeValue {d : Fin 10} (hd : d ≠ 0) (ds : List (Fin 10)) :
    10 ^ ds.length ≤ placeValue (d :: ds) := by
  rw [placeValue, List.reverse_cons, List.map_append, List.map_singleton, Nat.ofDigits_append,
    Nat.ofDigits_singleton, List.length_map, List.length_reverse]
  have hpos : 0 < d.val := Fin.pos_iff_ne_zero.mpr hd
  calc 10 ^ ds.length ≤ 10 ^ ds.length * d.val := Nat.le_mul_of_pos_right _ hpos
    _ ≤ _ := Nat.le_add_left _ _

/-! ### Reading -/

/-- A text is cut after its sign, whatever follows it. -/
theorem exists_sign (cs : List Char) :
    ∃ sign : Sign, cs = sign.text ++ (signSplit cs).2 := by
  unfold signSplit
  split
  · exact ⟨.minus, rfl⟩
  · exact ⟨.plus, rfl⟩
  · exact ⟨.none, rfl⟩

theorem signSplit_text (n : Numeral) :
    signSplit n.text = (decide (n.sign = .minus), digitsText n.digits) := by
  obtain ⟨sign, _ | ⟨d, ds⟩, hne⟩ := n
  · exact absurd rfl hne
  · cases sign with
    | plus => rfl
    | minus => rfl
    | none =>
      -- A digit is no sign.
      have hminus : Nat.digitChar d.val ≠ '-' := fun h => by
        simpa [h, isDigit] using isDigit_digitChar d
      have hplus : Nat.digitChar d.val ≠ '+' := fun h => by
        simpa [h, isDigit] using isDigit_digitChar d
      show signSplit (Nat.digitChar d.val :: digitsText ds) = _
      unfold signSplit
      split
      · next heq => exact absurd (List.cons.inj heq).1 hminus
      · next heq => exact absurd (List.cons.inj heq).1 hplus
      · rfl

/-- An integer has 64 bits. -/
def Fits (v : Int) : Prop := -2 ^ 63 ≤ v ∧ v < 2 ^ 63

instance (v : Int) : Decidable (Fits v) := inferInstanceAs (Decidable (_ ∧ _))

theorem fits_iff {v : Int} : minInt ≤ v ∧ v ≤ maxInt ↔ Fits v := by
  unfold Fits minInt maxInt
  omega

/-- A numeral of twenty digits or more, of which the first is not zero, stands for no integer of 64
bits. -/
theorem Numeral.not_fits (n : Numeral) (hhead : n.digits.head n.nonempty ≠ 0)
    (hlength : 20 ≤ n.digits.length) : ¬Fits n.value := by
  obtain ⟨sign, _ | ⟨d, ds⟩, hne⟩ := n
  · exact absurd rfl hne
  · have hsize : 10 ^ 19 ≤ placeValue (d :: ds) :=
      (Nat.pow_le_pow_right (by decide) (Nat.le_of_succ_le_succ hlength)).trans
        (pow_le_placeValue hhead ds)
    unfold Fits
    cases sign with
    | none | plus =>
      change ¬(_ ≤ (placeValue (d :: ds) : Int) ∧ (placeValue (d :: ds) : Int) < _)
      omega
    | minus =>
      change ¬(_ ≤ -(placeValue (d :: ds) : Int) ∧ -(placeValue (d :: ds) : Int) < _)
      omega

/-- A numeral is read as what it stands for, if that has 64 bits. -/
theorem readInt?_text (n : Numeral) :
    readInt? n.text = if Fits n.value then some n.value else none := by
  have hall : (digitsText n.digits).all isDigit = true := all_isDigit_iff.mpr ⟨_, rfl⟩
  have hsome : (digitsText n.digits).isEmpty = false := by
    rw [digitsText, List.isEmpty_map]
    exact List.isEmpty_eq_false_iff.mpr n.nonempty
  have hvalue : n.value =
      if n.sign = .minus then -(placeValue n.digits : Int) else placeValue n.digits := by
    unfold Numeral.value
    cases n.sign <;> rfl
  simp only [readInt?, signSplit_text, hsome, hall, natOfDigits_eq, decide_eq_true_eq, ← hvalue,
    fits_iff, Bool.not_true, Bool.or_self, Bool.false_eq_true, if_false]

/-- Nothing is read of a text that is no numeral. -/
theorem exists_numeral_of_readInt? {cs : List Char} {v : Int} (h : readInt? cs = some v) :
    ∃ n : Numeral, n.text = cs := by
  obtain ⟨sign, hcs⟩ := exists_sign cs
  by_cases hbad : ((signSplit cs).2.isEmpty || !(signSplit cs).2.all isDigit) = true
  · simp only [readInt?, hbad, if_true, reduceCtorEq] at h
  · simp only [Bool.or_eq_true, Bool.not_eq_true', not_or, Bool.not_eq_false] at hbad
    obtain ⟨ds, hds⟩ := all_isDigit_iff.mp hbad.2
    refine ⟨⟨sign, ds, ?_⟩, ?_⟩
    · rintro rfl
      exact hbad.1 (by rw [← hds]; rfl)
    · rw [Numeral.text, hds, ← hcs]

/-- **What is read of a text**: the value of the numeral that it is, if that has 64 bits. -/
theorem readInt?_eq_some_iff {cs : List Char} {v : Int} :
    readInt? cs = some v ↔ ∃ n : Numeral, n.text = cs ∧ n.value = v ∧ Fits v := by
  constructor
  · intro h
    obtain ⟨n, rfl⟩ := exists_numeral_of_readInt? h
    rw [readInt?_text, Option.ite_none_right_eq_some, Option.some.injEq] at h
    exact ⟨n, rfl, h.2, h.2 ▸ h.1⟩
  · rintro ⟨n, rfl, rfl, hfits⟩
    rw [readInt?_text, if_pos hfits]

/-! ### Writing -/

/-- The characters that a size is written with are digits. -/
theorem exists_digits_repr (size : Nat) :
    ∃ ds : List (Fin 10), ds ≠ [] ∧ digitsText ds = size.repr.toList ∧ placeValue ds = size := by
  have hall : (Nat.toDigits 10 size).all isDigit = true := by
    refine List.all_eq_true.mpr fun c hc => ?_
    simpa [Char.isDigit, isDigit, Char.le_def] using
      Nat.isDigit_of_mem_toDigits (by decide) (by decide) hc
  obtain ⟨ds, hds⟩ := all_isDigit_iff.mp hall
  refine ⟨ds, ?_, hds.trans Nat.toList_repr.symm, ?_⟩
  · rintro rfl
    exact Nat.toDigits_ne_nil hds.symm
  · rw [← natOfDigits_eq, hds]
    exact Nat.ofDigitChars_ten_toDigits

/-- **Every integer is written as a numeral.** -/
theorem exists_numeral_toString (v : Int) :
    ∃ n : Numeral, n.text = (toString v).toList ∧ n.value = v := by
  cases v with
  | ofNat size =>
    obtain ⟨ds, hne, htext, hsize⟩ := exists_digits_repr size
    exact ⟨⟨.none, ds, hne⟩, htext, by rw [Numeral.value, hsize]; rfl⟩
  | negSucc size =>
    obtain ⟨ds, hne, htext, hsize⟩ := exists_digits_repr (size + 1)
    refine ⟨⟨.minus, ds, hne⟩, ?_, by rw [Numeral.value, hsize]; rfl⟩
    rw [Numeral.text, htext]
    show _ = ("-" ++ (size + 1).repr).toList
    rw [String.toList_append]
    rfl

end Decimal

/-! ### Arguments -/

namespace Argument

open Decimal

variable {H : Host}

/-- An integer that an argument has room for: it has 64 bits and lies within the bounds, if there
are any. -/
structure Admits (bounds : Option (Int × Int)) (v : Int) : Prop where
  /-- It has 64 bits. -/
  fits : Fits v
  /-- It lies within the bounds. -/
  within : ∀ range ∈ bounds, range.1 ≤ v ∧ v ≤ range.2

theorem inBounds_iff {bounds : Option (Int × Int)} {v : Int} :
    inBounds bounds v = true ↔ ∀ range ∈ bounds, range.1 ≤ v ∧ v ≤ range.2 := by
  cases bounds with
  | none => simp [inBounds]
  | some range => simp [inBounds]

section Integer

variable {name : String} {bounds : Option (Int × Int)} {commands : List String} {s : H.State}

theorem accept_integer_eq_some_iff {word : String} {value : Value H.Who} :
    ((Argument.mk name (.integer bounds)).accept commands word s).1 = some value ↔
      ∃ n : Numeral, n.text = word.toList ∧ Admits bounds n.value ∧ value = .integer n.value := by
  show ((readInt? word.toList).filter (inBounds bounds)).map Value.integer = some value ↔ _
  simp only [Option.map_eq_some_iff, Option.filter_eq_some_iff, readInt?_eq_some_iff,
    inBounds_iff]
  constructor
  · rintro ⟨_, ⟨⟨n, htext, rfl, hfits⟩, hwithin⟩, rfl⟩
    exact ⟨n, htext, ⟨hfits, hwithin⟩, rfl⟩
  · rintro ⟨n, htext, ⟨hfits, hwithin⟩, rfl⟩
    exact ⟨n.value, ⟨⟨n, htext, rfl, hfits⟩, hwithin⟩, rfl⟩

/-- A numeral whose value has more than 64 bits is not taken for any other. -/
theorem accept_integer_eq_none {n : Numeral} (h : ¬Fits n.value) :
    ((Argument.mk name (.integer bounds)).accept commands (String.ofList n.text) s).1 = none := by
  show ((readInt? (String.ofList n.text).toList).filter (inBounds bounds)).map Value.integer = none
  rw [String.toList_ofList, readInt?_text, if_neg h]
  rfl

end Integer

/-- **Which words an argument for integers takes, and for what.**  It takes the numerals whose value
it admits, and for that value.  So an integer is taken as it is usually written just if it is
admitted, and a numeral of twenty digits or more is not taken unless it begins with a zero. -/
theorem accept_integer (name : String) (bounds : Option (Int × Int)) (commands : List String)
    (s : H.State) :
    let a : Argument H := ⟨name, .integer bounds⟩
    (∀ word value, (a.accept commands word s).1 = some value ↔
      ∃ n : Numeral, n.text = word.toList ∧ Admits bounds n.value ∧ value = .integer n.value) ∧
    (∀ v : Int, (a.accept commands (toString v) s).1 = some (.integer v) ↔ Admits bounds v) ∧
    ∀ n : Numeral, n.digits.head n.nonempty ≠ 0 → 20 ≤ n.digits.length →
      (a.accept commands (String.ofList n.text) s).1 = none := by
  intro a
  refine ⟨fun word value => accept_integer_eq_some_iff, fun v => ?_, fun n hhead hlength => ?_⟩
  · rw [accept_integer_eq_some_iff]
    constructor
    · rintro ⟨n, -, hadmits, hvalue⟩
      cases hvalue
      exact hadmits
    · intro hadmits
      obtain ⟨n, htext, rfl⟩ := exists_numeral_toString v
      exact ⟨n, htext, hadmits, rfl⟩
  · exact accept_integer_eq_none (n.not_fits hhead hlength)

/-- Bounds from the least integer of 64 bits up to minus one: the least one is taken, also with
zeros in front, its size without the sign is not, nor is a number of twenty digits. -/
theorem accept_integer_least :
    let a : Argument World.host := ⟨"n", .integer (some (-2 ^ 63, -1))⟩
    let long : Numeral := ⟨.plus, List.replicate 20 1, by decide⟩
    (a.accept [] (toString (-2 ^ 63 : Int)) .empty).1 = some (.integer (-2 ^ 63)) ∧
    (a.accept [] "-009223372036854775808" .empty).1 = some (.integer (-2 ^ 63)) ∧
    (a.accept [] (toString (2 ^ 63 : Int)) .empty).1 ≠ some (.integer (2 ^ 63)) ∧
    (long.digits.head long.nonempty ≠ 0 ∧ 20 ≤ long.digits.length) ∧
    (a.accept [] (String.ofList long.text) .empty).1 = none := by
  intro a long
  obtain ⟨htaken, hwritten, hlong⟩ := accept_integer (H := World.host) "n" (some (-2 ^ 63, -1)) []
    .empty
  have hleast : Admits (some (-2 ^ 63, -1)) (-2 ^ 63) := ⟨by decide, by decide⟩
  have hhead : long.digits.head long.nonempty ≠ 0 ∧ 20 ≤ long.digits.length := by decide
  refine ⟨(hwritten _).mpr hleast, (htaken _ _).mpr ?_, ?_, hhead, hlong long hhead.1 hhead.2⟩
  · let zeros : Numeral :=
      ⟨.minus, [0, 0, 9, 2, 2, 3, 3, 7, 2, 0, 3, 6, 8, 5, 4, 7, 7, 5, 8, 0, 8], by decide⟩
    have hvalue : zeros.value = -2 ^ 63 := by decide
    exact ⟨zeros, by decide, hvalue ▸ hleast, by rw [hvalue]⟩
  · intro h
    have hfits := ((hwritten _).mp h).fits
    exact absurd hfits (by decide)

end Argument

end CommandTree
