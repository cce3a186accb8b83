import CommandTree.Json.Basic
import CommandTree.Space
import CommandTree.Text.Join
import CommandTree.Text.Quoted

/-!
# Values

A word that fits an argument is converted to a value.  Values are sorted by kind;
an action declares the kinds of the values it takes.

## Main definitions

* `ValueKind` — the kinds.
* `Value` — the values, over a type of players.
* `Value.kind`, `Value.converts` — the kind of a value, and whether an action that
  declares a kind can take it.
-/

namespace CommandTree

/-- The kind of a value. -/
inductive ValueKind where
  /-- A text. -/
  | text
  /-- An integer. -/
  | integer
  /-- A truth value. -/
  | boolean
  /-- A player who is online. -/
  | player
  /-- A place. -/
  | location
  /-- A document. -/
  | json
  deriving DecidableEq, Repr

/-- The word for a kind. -/
def ValueKind.word : ValueKind → String
  | .text => "text"
  | .integer => "integer"
  | .boolean => "boolean"
  | .player => "player"
  | .location => "location"
  | .json => "json"

/-- A converted argument; `W` is the type of players. -/
inductive Value (W : Type) where
  /-- A text. -/
  | text (s : String)
  /-- An integer of 64 bits. -/
  | integer (n : Int)
  /-- A truth value. -/
  | boolean (b : Bool)
  /-- A player. -/
  | player (who : W)
  /-- One axis of a place, still to be resolved. -/
  | coordinate (c : Coordinate)
  /-- A place. -/
  | location (p : Point)
  /-- A document. -/
  | json (j : Json)

namespace Value

variable {W : Type}

/-- The kind of a value; a single axis counts as a location. -/
def kind : Value W → ValueKind
  | .text _ => .text
  | .integer _ => .integer
  | .boolean _ => .boolean
  | .player _ => .player
  | .coordinate _ => .location
  | .location _ => .location
  | .json _ => .json

/-- Whether an action that declares a kind can take the value: a single axis converts to
nothing. -/
def converts (k : ValueKind) : Value W → Bool
  | .coordinate _ => false
  | v => v.kind == k

/-- Equality of values of the same form; players are compared by identity and numbers as
numbers. -/
def same [BEq W] : Value W → Value W → Bool
  | .text a, .text b => a == b
  | .integer a, .integer b => a == b
  | .boolean a, .boolean b => a == b
  | .player a, .player b => a == b
  | .coordinate a, .coordinate b => a.same b
  | .location a, .location b => a.same b
  | .json a, .json b => a == b
  | _, _ => false

end Value

/-! ### Descriptions -/

/-- A coordinate described by its form and its number. -/
def Coordinate.describe : Coordinate → String
  | .absolute v => applied "Absolute" [Decimal.marked v]
  | .relative v => applied "Relative" [Decimal.marked v]
  | .view v => applied "Local" [Decimal.marked v]

/-- A point described by its axes. -/
def Point.describe (p : Point) : String :=
  "Vec3 \x7b x: " ++ Decimal.marked p.x ++ ", y: " ++ Decimal.marked p.y ++ ", z: " ++
    Decimal.marked p.z ++ " \x7d"

/-- The text of a string or key described in quotes. -/
def Json.quoteLexeme (lexeme : List Char) : String :=
  Text.quote (String.ofList ((Json.unescape? lexeme).getD lexeme))

mutual

/-- A document described by its form. -/
def Json.describe : Json → String
  | .null => "Null"
  | .bool b => applied "Bool" [if b then "true" else "false"]
  | .number lexeme => applied "Number" [String.ofList lexeme]
  | .string lexeme => applied "String" [Json.quoteLexeme lexeme]
  | .array items => "Array [" ++ joinWith ", " (Json.describeItems items) ++ "]"
  | .object fields => "Object \x7b" ++ joinWith ", " (Json.describeFields fields) ++ "\x7d"

/-- The descriptions of the items of an array. -/
def Json.describeItems : List Json → List String
  | [] => []
  | item :: items => item.describe :: Json.describeItems items

/-- The descriptions of the fields of an object. -/
def Json.describeFields : List (List Char × Json) → List String
  | [] => []
  | (key, value) :: fields =>
    (Json.quoteLexeme key ++ ": " ++ value.describe) :: Json.describeFields fields

end

/-- A value described by its form and content, given the names of players. -/
def Value.describe {W : Type} (name : W → String) : Value W → String
  | .text s => applied "Text" [Text.quote s]
  | .integer n => applied "Integer" [toString n]
  | .boolean b => applied "Boolean" [if b then "true" else "false"]
  | .player who => applied "Player" [Text.quote (name who)]
  | .coordinate c => applied "Coordinate" [c.describe]
  | .location p => applied "Location" [p.describe]
  | .json j => applied "Json" [j.describe]

end CommandTree
