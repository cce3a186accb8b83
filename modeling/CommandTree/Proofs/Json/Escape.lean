import CommandTree.Json.Token

/-!
# Strings written and read back

A text is written inside a string character by character, and every character is
written in one of three ways: by itself, as a backslash with one character, or as a
backslash with the number of a control.  What reads strings decides between the
same three ways, so whatever text was written is read back, and the string ends at
the quote that was put behind it.

## Main definitions

* `Json.EscapedAs` — the three ways in which a character is written.

## Main results

* `unescape?_escape` — a text that was written is read back.
* `stringBody?_escape` — a string that was written ends where it should.
-/

namespace CommandTree.Json

/-- The three ways in which a character is written inside a string. -/
inductive EscapedAs (c : Char) : List Char → Prop
  /-- By itself. -/
  | itself (hquote : c ≠ '"') (hslash : c ≠ '\\') (hlow : ¬c.toNat < 0x20) : EscapedAs c [c]
  /-- A backslash with one character. -/
  | short {e : Char} (hu : e ≠ 'u') (h : shortEscape? e = some c) : EscapedAs c ['\\', e]
  /-- A backslash with the number of a control. -/
  | control {x y : Char} (hlow : c.toNat < 0x20) (h : hex? '0' '0' x y = some c.toNat) :
    EscapedAs c ['\\', 'u', '0', '0', x, y]

/-- The number of a control is read off the two digits it is written with. -/
theorem hex?_control : ∀ n < 0x20,
    hex? '0' '0' (Nat.digitChar (n / 16)) (Nat.digitChar (n % 16)) = some n := by
  decide

theorem escapedAs_escapeChar (c : Char) : EscapedAs c (escapeChar c) := by
  unfold escapeChar
  split
  · exact .short (by decide) rfl
  · exact .short (by decide) rfl
  · exact .short (by decide) rfl
  · exact .short (by decide) rfl
  · exact .short (by decide) rfl
  · exact .short (by decide) rfl
  · exact .short (by decide) rfl
  · next hquote hslash _ _ _ _ _ =>
    split
    · next hlow => exact .control hlow (hex?_control _ hlow)
    · next hlow => exact .itself hquote hslash hlow

theorem escape_cons (c : Char) (cs : List Char) : escape (c :: cs) = escapeChar c ++ escape cs :=
  List.flatMap_cons

/-! ### Reading a text back -/

/-- One written character is read back, whatever follows. -/
theorem EscapedAs.unescape? {c : Char} {written : List Char} (h : EscapedAs c written)
    (rest : List Char) :
    Json.unescape? (written ++ rest) = (Json.unescape? rest).map (c :: ·) := by
  cases h with
  | itself hquote hslash hlow => simp [Json.unescape?, hslash]
  | @short e hu h =>
    rw [List.cons_append, List.cons_append, List.nil_append, Json.unescape?]
    · rw [h]
      cases Json.unescape? rest <;> rfl
    · intro a b c d rest' heq
      exact fun _ => hu heq
  | @control x y hlow h =>
    -- A control is no half of a surrogate pair.
    have hlower : isLowHalf c.toNat = false := by simp [isLowHalf]; omega
    have hhigher : isHighHalf c.toNat = false := by simp [isHighHalf]; omega
    simp only [List.cons_append, List.nil_append, Json.unescape?, h, Option.bind_eq_bind,
      Option.bind_some, hlower, hhigher, Bool.false_eq_true, if_false, Char.ofNat_toNat]
    cases Json.unescape? rest <;> rfl

/-- **A text that was written is read back.** -/
theorem unescape?_escape (cs : List Char) : unescape? (escape cs) = some cs := by
  induction cs with
  | nil => rfl
  | cons c cs ih => rw [escape_cons, (escapedAs_escapeChar c).unescape?, ih, Option.map_some]

/-! ### Finding the end of a string -/

/-- One written character belongs to the string, whatever follows. -/
theorem EscapedAs.stringBody? {c : Char} {written : List Char} (h : EscapedAs c written)
    (rest : List Char) :
    Json.stringBody? (written ++ rest) =
      (Json.stringBody? rest).map fun (body, after) => (written ++ body, after) := by
  cases h with
  | itself hquote hslash hlow => simp [Json.stringBody?, hslash, hlow]
  | @short e hu h =>
    rw [List.cons_append, List.cons_append, List.nil_append, Json.stringBody?]
    · rw [h]
      rfl
    · intro a b c d rest' heq
      exact fun _ => hu heq
  | @control x y hlow h =>
    simp [Json.stringBody?, h]

/-- **A string that was written ends at the quote behind it.** -/
theorem stringBody?_escape (cs rest : List Char) :
    stringBody? (escape cs ++ '"' :: rest) = some (escape cs, rest) := by
  induction cs with
  | nil => rfl
  | cons c cs ih =>
    rw [escape_cons, List.append_assoc, (escapedAs_escapeChar c).stringBody?, ih, Option.map_some]

end CommandTree.Json
