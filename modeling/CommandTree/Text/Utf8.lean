/-!
# Text from bytes

Characters are written as one to four bytes.  Where bytes stand for no text, the
error tells the first sequence that is wrong: from its first byte up to, but not
including, the byte that could not follow.

## Main definitions

* `Utf8Error` — what is wrong with bytes.
* `decodeBytes` — the text that bytes stand for.
-/

namespace CommandTree.Text

/-- What is wrong with bytes that stand for no text. -/
inductive Utf8Error where
  /-- A sequence of `length` bytes at `index` is the beginning of no character. -/
  | invalid (length index : Nat)
  /-- The bytes end inside the character that begins at `index`. -/
  | incomplete (index : Nat)
  deriving DecidableEq, Repr

/-- The wording of the error. -/
def Utf8Error.message : Utf8Error → String
  | .invalid length index =>
    "invalid utf-8 sequence of " ++ toString length ++ " bytes from index " ++ toString index
  | .incomplete index => "incomplete utf-8 byte sequence from index " ++ toString index

/-- A character of which some bytes are still to come. -/
structure PartialChar where
  /-- How many bytes are still to come. -/
  missing : Nat
  /-- The number made up by the bytes read. -/
  value : Nat
  /-- The least byte that may come next. -/
  low : Nat
  /-- The greatest byte that may come next. -/
  high : Nat
  /-- How many bytes were read. -/
  length : Nat
  /-- Where the first one stood. -/
  start : Nat
  deriving Repr

/-- The character that a byte of 128 and above begins.  The bounds of the second byte rule out
long forms, surrogates and numbers that are too large. -/
def PartialChar.ofLead? (start b : Nat) : Option PartialChar :=
  if 0xC2 ≤ b ∧ b ≤ 0xDF then some ⟨1, b - 0xC0, 0x80, 0xBF, 1, start⟩
  else if b = 0xE0 then some ⟨2, 0, 0xA0, 0xBF, 1, start⟩
  else if b = 0xED then some ⟨2, 0xD, 0x80, 0x9F, 1, start⟩
  else if 0xE1 ≤ b ∧ b ≤ 0xEF then some ⟨2, b - 0xE0, 0x80, 0xBF, 1, start⟩
  else if b = 0xF0 then some ⟨3, 0, 0x90, 0xBF, 1, start⟩
  else if 0xF1 ≤ b ∧ b ≤ 0xF3 then some ⟨3, b - 0xF0, 0x80, 0xBF, 1, start⟩
  else if b = 0xF4 then some ⟨3, 4, 0x80, 0x8F, 1, start⟩
  else none

/-- The character with one more byte. -/
def PartialChar.push (p : PartialChar) (b : Nat) : PartialChar :=
  ⟨p.missing - 1, p.value * 64 + (b - 0x80), 0x80, 0xBF, p.length + 1, p.start⟩

/-- The text that bytes from `index` on stand for, after the beginning of a character. -/
def decodeFrom (index : Nat) : Option PartialChar → List UInt8 → Except Utf8Error (List Char)
  | none, [] => .ok []
  | some p, [] => .error (.incomplete p.start)
  | none, b :: bytes =>
    if b < 0x80 then
      match decodeFrom (index + 1) none bytes with
      | .ok cs => .ok (Char.ofNat b.toNat :: cs)
      | .error e => .error e
    else
      match PartialChar.ofLead? index b.toNat with
      | some p => decodeFrom (index + 1) (some p) bytes
      | none => .error (.invalid 1 index)
  | some p, b :: bytes =>
    if p.low ≤ b.toNat ∧ b.toNat ≤ p.high then
      if p.missing = 1 then
        match decodeFrom (index + 1) none bytes with
        | .ok cs => .ok (Char.ofNat (p.push b.toNat).value :: cs)
        | .error e => .error e
      else decodeFrom (index + 1) (some (p.push b.toNat)) bytes
    else .error (.invalid p.length p.start)

/-- The text that bytes stand for. -/
def decodeBytes (bytes : List UInt8) : Except Utf8Error String :=
  (decodeFrom 0 none bytes).map String.ofList

end CommandTree.Text
