import CommandTree.Json.Token

/-!
# Documents from tokens

A document is put together token by token.  What is still open — the arrays and
objects around the place reached — is kept in a list of frames, so reading is one
pass over the tokens whatever the depth.

## Main definitions

* `Json.Frame` — an array or object that is still open.
* `Json.Place` — what may come next.
* `Json.step?` — one token further.
* `Json.ofTokens?`, `Json.parse?` — a document from tokens, and from text.
-/

namespace CommandTree.Json

/-- An array or object that is still open, with what it holds so far, last first. -/
inductive Frame where
  /-- An array. -/
  | array (items : List Json)
  /-- An object in which the value of `key` is due. -/
  | object (fields : List (List Char × Json)) (key : List Char)

/-- What may come next. -/
inductive Place where
  /-- A value; `mayClose` at the very start of an array, which may end here. -/
  | value (frames : List Frame) (mayClose : Bool)
  /-- A key; `mayClose` at the very start of an object, which may end here. -/
  | key (frames : List Frame) (fields : List (List Char × Json)) (mayClose : Bool)
  /-- The colon after a key. -/
  | colon (frames : List Frame) (fields : List (List Char × Json)) (key : List Char)
  /-- A comma or a closing token after the value `v`, or the end of the text. -/
  | after (frames : List Frame) (v : Json)

/-- The place reached with one more token; none if it may not stand there. -/
def step? : Place → Token → Option Place
  | .value frames _, .null => some (.after frames .null)
  | .value frames _, .bool b => some (.after frames (.bool b))
  | .value frames _, .number lexeme => some (.after frames (.number lexeme))
  | .value frames _, .string lexeme => some (.after frames (.string lexeme))
  | .value frames _, .openArray => some (.value (.array [] :: frames) true)
  | .value frames _, .openObject => some (.key frames [] true)
  | .value (.array items :: frames) true, .closeArray => some (.after frames (.array items.reverse))
  | .key frames fields _, .string key => some (.colon frames fields key)
  | .key frames fields true, .closeObject => some (.after frames (.object fields.reverse))
  | .colon frames fields key, .colon => some (.value (.object fields key :: frames) false)
  | .after (.array items :: frames) v, .comma => some (.value (.array (v :: items) :: frames) false)
  | .after (.array items :: frames) v, .closeArray =>
    some (.after frames (.array (v :: items).reverse))
  | .after (.object fields key :: frames) v, .comma =>
    some (.key frames ((key, v) :: fields) false)
  | .after (.object fields key :: frames) v, .closeObject =>
    some (.after frames (.object ((key, v) :: fields).reverse))
  | _, _ => none

/-- The place reached with all the tokens of a list. -/
def steps? : Place → List Token → Option Place
  | place, [] => some place
  | place, token :: tokens =>
    match step? place token with
    | some next => steps? next tokens
    | none => none

/-- The document that the tokens make up. -/
def ofTokens? (tokens : List Token) : Option Json :=
  match steps? (.value [] false) tokens with
  | some (.after [] v) => some v
  | _ => none

/-- The document that a text stands for. -/
def parse? (text : String) : Option Json := (scan? text.toList).bind ofTokens?

end CommandTree.Json
