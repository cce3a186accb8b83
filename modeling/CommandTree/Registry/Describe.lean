import CommandTree.Registry.Basic
import CommandTree.Text.Quoted

/-!
# Nodes described

A description names the form of a value and its parts; names in it are quoted.

## Main definitions

* `Registry.describeNode` — a node, its metadata and its place in the tree.
-/

namespace CommandTree

/-- A form with the descriptions of its parts. -/
def describeForm (name : String) (parts : List (String × String)) (rest : List String) : String :=
  name ++ " \x7b " ++
    joinWith ", " (parts.map (fun (label, part) => label ++ ": " ++ part) ++ rest) ++ " \x7d"

/-- The description of something that may be missing. -/
def describeOption (part : Option String) : String :=
  match part with
  | none => "None"
  | some text => applied "Some" [text]

/-- The description of a truth value. -/
def describeBool (b : Bool) : String := if b then "true" else "false"

/-- The description of a list. -/
def describeList (items : List String) : String := "[" ++ joinWith ", " items ++ "]"

/-- The description of the position of a node. -/
def describeId (id : NodeId) : String := applied "NodeId" [toString id]

variable {H : Host}

/-- The description of a node. -/
def Node.describe (node : Node H) : String :=
  describeForm "Node"
    [("kind", node.argument.describe), ("depth", toString node.depth),
      ("parent", describeOption (node.parent.map describeId)),
      ("children", describeList (node.children.map describeId)),
      ("has_handler", describeBool node.handler.isSome)] []

/-- The description of metadata. -/
def CommandData.describe (d : CommandData H) : String :=
  describeForm "CommandData"
    [("name", Text.quote d.name), ("description", Text.quote d.description),
      ("aliases", describeList (d.aliases.map Text.quote)),
      ("restricted", describeBool d.requires.isSome), ("requires_op", describeBool d.opOnly),
      ("cooldown", describeOption (d.cooldown.map Span.text))] [".."]

/-- The description of the place of a node. -/
def Registry.describePlace (r : Registry H) (id : NodeId) : String :=
  describeForm "NodeBuilder" [("id", describeId id), ("node", Text.quote (r.describe id))] []

/-- The description of a node, its metadata and its place. -/
def Registry.describeNode (r : Registry H) (id : NodeId) : String :=
  match r.node? id with
  | none => ""
  | some node =>
    joinWith " | " [node.describe, node.data.describe, r.describePlace id]

end CommandTree
