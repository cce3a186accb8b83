import CommandTree.Registry.Build

/-!
# Scripts of build steps

A script declares commands step by step.  A step that does not say where it goes on
does so at the node that the last successful step ended on.

## Main definitions

* `keyValueType`, `castType` — types for rehearsals.
* `ScriptStep`, `runScript` — scripts.
-/

namespace CommandTree

variable {H : Host}

/-- A text cut at its first occurrence of a mark, which is dropped. -/
def splitAtMark? (mark : Char) (s : String) : Option (String × String) :=
  match s.toList.dropWhile (· != mark) with
  | [] => none
  | _ :: rest => some (String.ofList (s.toList.takeWhile (· != mark)), String.ofList rest)

/-- The type of words `key=value`, which become documents. -/
def keyValueType (H : Host) : CustomType H where
  typeName := "key=value"
  kind := .json
  accept _ word s :=
    ((splitAtMark? '=' word).map fun (key, value) =>
      .json (.ofFields [("key", .ofText key), ("value", .ofText value)]), s)
  reject word := word ++ " is not key=value"

/-- The value that a tag makes of a text, whatever kind was announced. -/
def castValue (tag text : String) (s : H.State) : Option (Value H.Who) × H.State :=
  match tag with
  | "t" => (some (.text text), s)
  | "i" => ((Decimal.readInt? text.toList).map .integer, s)
  | "b" => (some (.boolean (text == "true")), s)
  | "p" =>
    let (who, s) := H.find text s
    (who.map .player, s)
  | "c" => ((Coordinate.read? text).map .coordinate, s)
  | "l" => (some (.location ⟨1, 2, 3⟩), s)
  | "j" => (some (.json (.ofText text)), s)
  | _ => (none, s)

/-- The type of words `tag:text`, which announces a kind but leaves the choice to the tag. -/
def castType (H : Host) (kind : ValueKind) : CustomType H where
  typeName := "cast"
  kind := kind
  accept _ word s :=
    match splitAtMark? ':' word with
    | none => (none, s)
    | some (tag, text) => castValue tag text s
  reject word := "cannot cast " ++ word

/-- A step of a script: where it goes on, if it says so, and what it does there. -/
structure ScriptStep (H : Host) where
  /-- The node to build on. -/
  place : Option NodeId
  /-- The step at a node. -/
  step : NodeId → BuildStep H

/-- The registry after a script, with what each step gave; `last` is the node to go on at. -/
def runScript (r : Registry H) (last : NodeId) :
    List (ScriptStep H) → Registry H × List (Except BuildError NodeId)
  | [] => (r, [])
  | step :: steps =>
    let built := r.apply (step.step (step.place.getD last))
    let (final, answers) := runScript built.registry (built.result.toOption.getD last) steps
    (final, built.result :: answers)

end CommandTree
