import CommandTree.Json.Reader
import CommandTree.Text.Join

/-!
# Messages to players

A message is a style and a list of parts; a part is literal text, or the key of a
text in the reader's language with its arguments.

## Main definitions

* `Style`, `Part`, `Message` — messages.
* `Message.plainText` — a message as one text.
* `Message.toJson`, `Message.ofJson?` — a message as a document, and back.
* `Message.encode`, `Message.decode?` — the same as text.
-/

namespace CommandTree

/-- The visual weight of a message. -/
inductive Style where
  /-- Ordinary text. -/
  | plain
  /-- A complaint. -/
  | error
  /-- The head of a listing. -/
  | header
  /-- A title. -/
  | highlight
  deriving DecidableEq, Repr

/-- A fragment of a message. -/
inductive Part where
  /-- Literal text. -/
  | text (text : String)
  /-- The text under a key in the language of the reader, given its arguments in order. -/
  | localized (key : String) (arguments : List String)
  deriving DecidableEq, Repr

/-- What a player is told. -/
structure Message where
  /-- The visual weight. -/
  style : Style
  /-- The fragments in order. -/
  parts : List Part
  deriving DecidableEq, Repr

/-- The word for a style. -/
def Style.word : Style → String
  | .plain => "plain"
  | .error => "error"
  | .header => "header"
  | .highlight => "highlight"

/-- The style that a word stands for. -/
def Style.ofWord? : String → Option Style
  | "plain" => some .plain
  | "error" => some .error
  | "header" => some .header
  | "highlight" => some .highlight
  | _ => none

namespace Message

/-- A message of one literal text in the given style. -/
def styled (style : Style) (text : String) : Message := ⟨style, [.text text]⟩

/-- A message of one literal text. -/
def text (text : String) : Message := styled .plain text

/-- A complaint of one literal text. -/
def error (text : String) : Message := styled .error text

/-- A message with one more part. -/
def add (m : Message) (part : Part) : Message := { m with parts := m.parts ++ [part] }

end Message

/-- A part as text: a localized part shows its key and its arguments. -/
def Part.plainText : Part → String
  | .text s => s
  | .localized key arguments => applied key arguments

/-- A message as one text. -/
def Message.plainText (m : Message) : String := String.join (m.parts.map Part.plainText)

/-! ### Messages as documents -/

/-- A part as a document. -/
def Part.toJson : Part → Json
  | .text s => .ofFields [("text", .ofText s)]
  | .localized key arguments =>
    .ofFields [("translate", .ofText key), ("with", .array (arguments.map .ofText))]

/-- A message as a document. -/
def Message.toJson (m : Message) : Json :=
  .ofFields [("style", .ofText m.style.word), ("rawtext", .array (m.parts.map Part.toJson))]

/-- The compact text of a message. -/
def Message.encode (m : Message) : String := m.toJson.compact

/-- The style that a document stands for: its word, or an object with the word as its only key
and nothing under it. -/
def Style.ofJson? : Json → Option Style
  | .object [(key, .null)] => do Style.ofWord? (String.ofList (← Json.unescape? key))
  | .string lexeme => do Style.ofWord? (String.ofList (← Json.unescape? lexeme))
  | _ => none

/-- The texts that the items of an array stand for. -/
def Json.texts? : Json → Option (List String)
  | .array items => items.mapM Json.text?
  | _ => none

/-- The text part that an object stands for: `text` occurs once and is a text. -/
def Part.ofTextFields? (fields : List (String × Json)) : Option Part := do
  let text ← (← Json.atMostOne? "text" fields)
  return .text (← text.text?)

/-- The localized part that an object stands for: `translate` and `with` occur once each. -/
def Part.ofLocalizedFields? (fields : List (String × Json)) : Option Part := do
  let key ← (← Json.atMostOne? "translate" fields)
  let arguments ← (← Json.atMostOne? "with" fields)
  return .localized (← key.text?) (← arguments.texts?)

/-- The greatest depth of a document that is read as a whole. -/
def maxDepth : Nat := 127

/-- The part that a document stands for.  It is read as a whole before it is understood: it must
be sound, and not too deep for its place two levels down.  A part that could be both is text. -/
def Part.ofJson? (j : Json) : Option Part :=
  if j.isSound && j.depth + 2 ≤ maxDepth then
    j.fields?.bind fun fields => Part.ofTextFields? fields <|> Part.ofLocalizedFields? fields
  else none

/-- The parts that a document stands for. -/
def Part.listOfJson? : Json → Option (List Part)
  | .array items => items.mapM Part.ofJson?
  | _ => none

/-- The message that a document stands for: an object whose `style` may be missing, or an array of
exactly the style and the parts.  Other keys of the object have no meaning. -/
def Message.ofJson? (j : Json) : Option Message :=
  match j with
  | .array [style, parts] => do return ⟨← Style.ofJson? style, ← Part.listOfJson? parts⟩
  | .object _ => do
    let fields ← j.fields?
    let style ← match ← Json.atMostOne? "style" fields with
      | none => some .plain
      | some style => Style.ofJson? style
    let parts ← (← Json.atMostOne? "rawtext" fields)
    return ⟨style, ← Part.listOfJson? parts⟩
  | _ => none

/-- The message that a text stands for. -/
def Message.decode? (text : String) : Option Message := (Json.parse? text).bind Message.ofJson?

end CommandTree
