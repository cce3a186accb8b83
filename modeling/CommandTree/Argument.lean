import CommandTree.Host

/-!
# Arguments

An argument has a name and a type; the type decides which words fit and what
value a word that fits is converted to.  Whether a word fits is nothing but
whether it converts.

## Main definitions

* `CustomType` — a type that a host adds.
* `ArgumentType`, `Argument` — types, and types with a name.
* `Argument.accept` — the value of a word, if it fits.
* `Argument.reject` — why a word does not fit.
* `Argument.valueKind?` — the kind of the values an argument contributes to an
  action, if any.
-/

namespace CommandTree

/-- A type that a host adds to the built-in ones. -/
structure CustomType (H : Host) where
  /-- The name of the type in diagnostics and usage lines. -/
  typeName : String
  /-- The kind of value it announces. -/
  kind : ValueKind
  /-- The value of a word, given the names of the registered commands. -/
  accept : List String → String → H.State → Option (Value H.Who) × H.State
  /-- Why a word does not fit. -/
  reject : String → String

/-- What words an argument takes. -/
inductive ArgumentType (H : Host) where
  /-- Only the name of the argument itself. -/
  | literal
  /-- Any word. -/
  | string
  /-- An integer of 64 bits, within inclusive bounds if they are given. -/
  | integer (bounds : Option (Int × Int))
  /-- The words `true` and `false`. -/
  | boolean
  /-- One of several words. -/
  | choice (options : List String)
  /-- The name of a player who is online. -/
  | player
  /-- One axis of a location. -/
  | axis
  /-- A type that the host adds. -/
  | custom (type : CustomType H)

/-- An argument of a command. -/
structure Argument (H : Host) where
  /-- The name shown in usage lines; the keyword itself for a literal. -/
  name : String
  /-- What words it takes. -/
  type : ArgumentType H

/-- The mark at the end of a name that hides an argument from usage lines and from the values of
an action. -/
def trailingMark : Char := '*'

/-- Whether a name carries the trailing mark. -/
def isTrailingName (name : String) : Bool := name.toList.getLast? == some trailingMark

namespace Argument

variable {H : Host}

/-- Whether the argument is a keyword. -/
def isLiteral (a : Argument H) : Bool := a.type matches .literal

/-- Whether the argument is one axis of a location. -/
def isAxis (a : Argument H) : Bool := a.type matches .axis

/-- Whether the argument continues the one before it. -/
def isTrailing (a : Argument H) : Bool := isTrailingName a.name

/-- The name of the type in diagnostics and usage lines. -/
def typeName (a : Argument H) : String :=
  match a.type with
  | .literal => "literal"
  | .string => "string"
  | .integer _ => "int"
  | .boolean => "boolean"
  | .choice options => joinWith "|" options
  | .player => "player"
  | .axis => "location"
  | .custom type => type.typeName

/-- The argument with its type: `<name: type>`. -/
def describe (a : Argument H) : String := "<" ++ a.name ++ ": " ++ a.typeName ++ ">"

/-- The kind of value the argument contributes to an action.  Keywords and trailing arguments
contribute nothing. -/
def valueKind? (a : Argument H) : Option ValueKind :=
  if a.isTrailing then none
  else
    match a.type with
    | .literal => none
    | .string => some .text
    | .integer _ => some .integer
    | .boolean => some .boolean
    | .choice _ => some .text
    | .player => some .player
    | .axis => some .location
    | .custom type => some type.kind

/-- Whether an integer lies within the bounds, if there are any. -/
def inBounds (bounds : Option (Int × Int)) (n : Int) : Bool :=
  match bounds with
  | none => true
  | some (low, high) => low ≤ n && n ≤ high

/-- The value of a word if it fits the argument, given the names of the registered commands; only
players and types of the host look at the state. -/
def accept (a : Argument H) (commands : List String) (word : String) (s : H.State) :
    Option (Value H.Who) × H.State :=
  match a.type with
  | .literal => (if word = a.name then some (.text a.name) else none, s)
  | .string => (some (.text word), s)
  | .integer bounds =>
    (((Decimal.readInt? word.toList).filter (inBounds bounds)).map .integer, s)
  | .boolean =>
    (if word = "true" then some (.boolean true)
      else if word = "false" then some (.boolean false) else none, s)
  | .choice options => (if word ∈ options then some (.text word) else none, s)
  | .player =>
    let (who, s) := H.find word s
    (who.map .player, s)
  | .axis => ((Coordinate.read? word).map .coordinate, s)
  | .custom type => type.accept commands word s

/-- Why a word does not fit the argument. -/
def reject (a : Argument H) (word : String) : String :=
  let quoted := "\"" ++ word ++ "\""
  match a.type with
  | .literal => quoted ++ " should be \"" ++ a.name ++ "\""
  | .string => quoted ++ " is not a valid string for \"" ++ a.name ++ "\""
  | .integer (some (low, high)) =>
    quoted ++ " should be an integer between " ++ toString low ++ " and " ++ toString high
  | .integer none => quoted ++ " should be an integer"
  | .boolean => quoted ++ " should be true or false"
  | .choice options => quoted ++ " should be one of: " ++ joinWith ", " options
  | .player => "Player " ++ quoted ++ " could not be found"
  | .axis => quoted ++ " is not a valid coordinate"
  | .custom type => type.reject word

end Argument

/-- The type of the names, not the aliases, of registered commands. -/
def commandNameType (H : Host) : CustomType H where
  typeName := "CommandName"
  kind := .text
  accept commands word s := (if word ∈ commands then some (.text word) else none, s)
  reject word := word ++ " should be a command name!"

end CommandTree
