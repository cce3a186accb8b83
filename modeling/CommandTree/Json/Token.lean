import CommandTree.Json.Basic

/-!
# Tokens of JSON text

JSON text is first cut into tokens: punctuation, words, numbers and strings.
Whether a string or number is well written is settled here; how tokens make up a
document is not.

## Main definitions

* `Json.Token` — the tokens.
* `Json.stringBody?` — the inside of a string, up to its closing quote.
* `Json.isNumber` — the form of a number.
* `Json.scan?` — all tokens of a text.
-/

namespace CommandTree.Json

/-- A token of JSON text. -/
inductive Token where
  /-- An opening bracket. -/
  | openArray
  /-- A closing bracket. -/
  | closeArray
  /-- An opening brace. -/
  | openObject
  /-- A closing brace. -/
  | closeObject
  /-- A colon. -/
  | colon
  /-- A comma. -/
  | comma
  /-- The word `null`. -/
  | null
  /-- The word `true` or `false`. -/
  | bool (b : Bool)
  /-- A number as written. -/
  | number (lexeme : List Char)
  /-- A string as written, without its quotes. -/
  | string (lexeme : List Char)
  deriving DecidableEq, Repr

/-- The blanks that may stand between tokens. -/
def isGap (c : Char) : Bool := c == ' ' || c == '\t' || c == '\n' || c == '\r'

/-- The inside of a string up to its closing quote, and what follows the quote.  Controls may not
stand in a string, and every escape must be well written. -/
def stringBody? : List Char → Option (List Char × List Char)
  | [] => none
  | '"' :: rest => some ([], rest)
  | '\\' :: 'u' :: a :: b :: c :: d :: rest =>
    if (hex? a b c d).isNone then none
    else (stringBody? rest).map fun (body, after) =>
      ('\\' :: 'u' :: a :: b :: c :: d :: body, after)
  | '\\' :: e :: rest =>
    if (shortEscape? e).isNone then none
    else (stringBody? rest).map fun (body, after) => ('\\' :: e :: body, after)
  | c :: rest =>
    if c.toNat < 0x20 || c == '\\' then none
    else (stringBody? rest).map fun (body, after) => (c :: body, after)

/-- What follows a string is shorter than the string with it. -/
theorem length_stringBody?_lt {cs body after : List Char}
    (h : stringBody? cs = some (body, after)) :
    after.length < cs.length := by
  fun_induction stringBody? cs generalizing body after <;>
    simp_all only [Option.map_eq_some_iff, Prod.exists, Prod.mk.injEq, Option.some.injEq,
      List.length_cons, reduceCtorEq]
  all_goals first
    | omega
    | rename_i ih
      obtain ⟨_, _, hrest, -, rfl⟩ := h
      have := ih hrest
      omega

/-- An exponent: `e` or `E`, an optional sign, digits. -/
def isExponent : List Char → Bool
  | mark :: cs =>
    let digits := (Decimal.signSplit cs).2
    (mark == 'e' || mark == 'E') && !digits.isEmpty && digits.all Decimal.isDigit
  | [] => false

/-- What may follow the whole part of a number: nothing, a fraction, an exponent or both. -/
def isNumberTail : List Char → Bool
  | [] => true
  | '.' :: cs =>
    let rest := cs.dropWhile Decimal.isDigit
    !(cs.takeWhile Decimal.isDigit).isEmpty && (rest.isEmpty || isExponent rest)
  | cs => isExponent cs

/-- A number: an optional minus sign, digits without a leading zero, and a tail. -/
def isNumber (cs : List Char) : Bool :=
  let body := if cs.head? = some '-' then cs.drop 1 else cs
  let whole := body.takeWhile Decimal.isDigit
  (whole == ['0'] || (!whole.isEmpty && whole.head? != some '0')) &&
    isNumberTail (body.dropWhile Decimal.isDigit)

/-- A character that may stand in a number. -/
def isNumberChar (c : Char) : Bool :=
  Decimal.isDigit c || c == '-' || c == '+' || c == '.' || c == 'e' || c == 'E'

/-- The token that one character makes up by itself. -/
def punctuation? : Char → Option Token
  | '[' => some .openArray
  | ']' => some .closeArray
  | '\x7b' => some .openObject
  | '\x7d' => some .closeObject
  | ':' => some .colon
  | ',' => some .comma
  | _ => none

/-- The token that a word stands for. -/
def word? (cs : List Char) : Option Token :=
  if cs = "null".toList then some .null
  else if cs = "true".toList then some (.bool true)
  else if cs = "false".toList then some (.bool false)
  else none

/-- The token at the front of a text that begins with no gap, and what follows it. -/
def front? (c : Char) (cs : List Char) : Option (Token × List Char) :=
  match punctuation? c with
  | some token => some (token, cs)
  | none =>
    if c = '"' then (stringBody? cs).map fun (body, after) => (.string body, after)
    else if c.isLower then
      (word? (c :: cs.takeWhile Char.isLower)).map fun token => (token, cs.dropWhile Char.isLower)
    else if isNumber (c :: cs.takeWhile isNumberChar) then
      some (.number (c :: cs.takeWhile isNumberChar), cs.dropWhile isNumberChar)
    else none

theorem length_dropWhile_le {α : Type} (p : α → Bool) (l : List α) :
    (l.dropWhile p).length ≤ l.length := by
  have h := congrArg List.length (List.takeWhile_append_dropWhile (p := p) (l := l))
  rw [List.length_append] at h
  omega

/-- What follows a token is not longer than what follows its first character. -/
theorem length_front?_le {c : Char} {cs : List Char} {token : Token} {after : List Char}
    (h : front? c cs = some (token, after)) : after.length ≤ cs.length := by
  unfold front? at h
  split at h
  · simp only [Option.some.injEq, Prod.mk.injEq] at h
    exact Nat.le_of_eq (congrArg List.length h.2.symm)
  · split at h
    · obtain ⟨⟨body, after'⟩, hbody, heq⟩ := Option.map_eq_some_iff.mp h
      simp only [Prod.mk.injEq] at heq
      rw [← heq.2]
      exact Nat.le_of_lt (length_stringBody?_lt hbody)
    · split at h
      · obtain ⟨token', _, heq⟩ := Option.map_eq_some_iff.mp h
        simp only [Prod.mk.injEq] at heq
        rw [← heq.2]
        exact length_dropWhile_le ..
      · split at h
        · simp only [Option.some.injEq, Prod.mk.injEq] at h
          rw [← h.2]
          exact length_dropWhile_le ..
        · exact absurd h (by simp)

/-- All tokens of a text. -/
def scan? : List Char → Option (List Token)
  | [] => some []
  | c :: cs =>
    if isGap c then scan? cs
    else
      match _h : front? c cs with
      | none => none
      | some (token, after) => (scan? after).map (token :: ·)
termination_by cs => cs.length
decreasing_by
  · simp
  · exact Nat.lt_succ_of_le (length_front?_le _h)

end CommandTree.Json
