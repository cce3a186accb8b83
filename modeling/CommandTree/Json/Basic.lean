import CommandTree.Json.Number

/-!
# JSON documents

A document keeps its strings and numbers as they are written.  What text a
string stands for, and what number, is asked only where it matters: a string may
be well written and still stand for no text, when it holds half of a surrogate
pair.

## Main definitions

* `Json` — documents.
* `escape`, `unescape?` — a text as the inside of a string, and back.
* `Json.ofText`, `Json.text?` — the same for documents.
* `Json.render` — the compact text of a document.
* `Json.depth` — how deep arrays and objects are nested.
* `Json.isSound` — every string stands for a text and every number is finite.
-/

namespace CommandTree

/-- A JSON document; strings and numbers are kept as written, strings without their quotes. -/
inductive Json where
  /-- The word `null`. -/
  | null
  /-- The word `true` or `false`. -/
  | bool (b : Bool)
  /-- A number as written. -/
  | number (lexeme : List Char)
  /-- A string as written. -/
  | string (lexeme : List Char)
  /-- An array. -/
  | array (items : List Json)
  /-- An object, its keys as written. -/
  | object (fields : List (List Char × Json))
  deriving Inhabited, BEq, Repr

namespace Json

/-! ### Strings -/

/-- How a character is written inside a string. -/
def escapeChar (c : Char) : List Char :=
  match c with
  | '"' => ['\\', '"']
  | '\\' => ['\\', '\\']
  | '\x08' => ['\\', 'b']
  | '\x0c' => ['\\', 'f']
  | '\n' => ['\\', 'n']
  | '\r' => ['\\', 'r']
  | '\t' => ['\\', 't']
  | c =>
    if c.toNat < 0x20 then
      ['\\', 'u', '0', '0', Nat.digitChar (c.toNat / 16), Nat.digitChar (c.toNat % 16)]
    else [c]

/-- A text as it is written inside a string. -/
def escape (cs : List Char) : List Char := cs.flatMap escapeChar

/-- The character that a backslash followed by a single character stands for. -/
def shortEscape? : Char → Option Char
  | '"' => some '"'
  | '\\' => some '\\'
  | '/' => some '/'
  | 'b' => some '\x08'
  | 'f' => some '\x0c'
  | 'n' => some '\n'
  | 'r' => some '\r'
  | 't' => some '\t'
  | _ => none

/-- The value of a hexadecimal digit. -/
def hexValue? (c : Char) : Option Nat :=
  if '0' ≤ c ∧ c ≤ '9' then some (c.toNat - '0'.toNat)
  else if 'a' ≤ c ∧ c ≤ 'f' then some (c.toNat - 'a'.toNat + 10)
  else if 'A' ≤ c ∧ c ≤ 'F' then some (c.toNat - 'A'.toNat + 10)
  else none

/-- The number that four hexadecimal digits stand for. -/
def hex? (a b c d : Char) : Option Nat := do
  let a ← hexValue? a
  let b ← hexValue? b
  let c ← hexValue? c
  let d ← hexValue? d
  return ((a * 16 + b) * 16 + c) * 16 + d

/-- Whether a code unit is the first half of a surrogate pair. -/
def isHighHalf (n : Nat) : Bool := 0xD800 ≤ n && n < 0xDC00

/-- Whether a code unit is the second half of a surrogate pair. -/
def isLowHalf (n : Nat) : Bool := 0xDC00 ≤ n && n < 0xE000

/-- The character that the two halves of a surrogate pair stand for. -/
def pairChar (high low : Nat) : Char :=
  Char.ofNat (0x10000 + (high - 0xD800) * 0x400 + (low - 0xDC00))

/-- The text that the inside of a string stands for; none if an escape is not well written or
stands for half of a surrogate pair. -/
def unescape? : List Char → Option (List Char)
  | [] => some []
  | '\\' :: 'u' :: a :: b :: c :: d :: rest => do
    let n ← hex? a b c d
    if isLowHalf n then none
    else if isHighHalf n then
      match rest with
      | '\\' :: 'u' :: a :: b :: c :: d :: rest =>
        let low ← hex? a b c d
        if isLowHalf low then return pairChar n low :: (← unescape? rest) else none
      | _ => none
    else return Char.ofNat n :: (← unescape? rest)
  | '\\' :: e :: rest => do return (← shortEscape? e) :: (← unescape? rest)
  | c :: rest => if c = '\\' then none else (unescape? rest).map (c :: ·)

/-- The document that stands for a text. -/
def ofText (s : String) : Json := .string (escape s.toList)

/-- The text that a document stands for, if it is a string that does. -/
def text? : Json → Option String
  | .string lexeme => (unescape? lexeme).map String.ofList
  | _ => none

/-- An object given by its keys and values in order. -/
def ofFields (fields : List (String × Json)) : Json :=
  .object (fields.map fun (key, value) => (escape key.toList, value))

/-! ### The compact text -/

mutual

/-- The compact text of a document: no blank outside strings. -/
def render : Json → List Char
  | .null => "null".toList
  | .bool true => "true".toList
  | .bool false => "false".toList
  | .number lexeme => lexeme
  | .string lexeme => '"' :: lexeme ++ ['"']
  | .array items => '[' :: renderItems items ++ [']']
  | .object fields => '\x7b' :: renderFields fields ++ ['\x7d']

/-- The items of an array with commas between them. -/
def renderItems : List Json → List Char
  | [] => []
  | [item] => render item
  | item :: items => render item ++ ',' :: renderItems items

/-- The fields of an object with commas between them. -/
def renderFields : List (List Char × Json) → List Char
  | [] => []
  | [(key, value)] => '"' :: key ++ '"' :: ':' :: render value
  | (key, value) :: fields => '"' :: key ++ '"' :: ':' :: render value ++ ',' :: renderFields fields

end

/-- The compact text of a document, as a string. -/
def compact (j : Json) : String := String.ofList j.render

/-! ### Measures of a document -/

mutual

/-- How deep arrays and objects are nested in a document. -/
def depth : Json → Nat
  | .array items => depthItems items + 1
  | .object fields => depthFields fields + 1
  | _ => 0

/-- The depth of the deepest item. -/
def depthItems : List Json → Nat
  | [] => 0
  | item :: items => max (depth item) (depthItems items)

/-- The depth of the deepest field. -/
def depthFields : List (List Char × Json) → Nat
  | [] => 0
  | (_, value) :: fields => max (depth value) (depthFields fields)

end

mutual

/-- Every string and key stands for a text and every number is finite. -/
def isSound : Json → Bool
  | .number lexeme => (Scaled.ofLexeme lexeme).isFinite
  | .string lexeme => (unescape? lexeme).isSome
  | .array items => areSound items
  | .object fields => areSoundFields fields
  | _ => true

/-- All items are sound. -/
def areSound : List Json → Bool
  | [] => true
  | item :: items => isSound item && areSound items

/-- All fields are sound. -/
def areSoundFields : List (List Char × Json) → Bool
  | [] => true
  | (key, value) :: fields => (unescape? key).isSome && isSound value && areSoundFields fields

end

/-! ### Looking into a document -/

/-- The fields of an object whose keys all stand for texts. -/
def fields? : Json → Option (List (String × Json))
  | .object fields =>
    fields.mapM fun (key, value) => (unescape? key).map fun cs => (String.ofList cs, value)
  | _ => none

/-- The value under a key that may be absent but must not be repeated. -/
def atMostOne? (key : String) (fields : List (String × Json)) : Option (Option Json) :=
  match fields.filter (·.1 == key) with
  | [] => some none
  | [(_, value)] => some (some value)
  | _ => none

end Json

end CommandTree
