import CommandTree.Span
import CommandTree.Task

/-!
# The command registry

All commands live in one array of nodes, in the order in which they were
declared.  A node refers to its parent and children by position; a parent always
stands before its children.  A node without a parent is the root of a command.

## Main definitions

* `CommandData` — what a command is called and who may use it.
* `Node`, `NodeId`, `Registry` — the tree.
* `Registry.roots`, `Registry.findRoot?` — commands, and the one a name reaches.
* `Registry.path` — the nodes from the root of a command to a node.
* `Registry.schema` — the kinds of the values that the path to a node produces.
* `Registry.describe` — the path to a node in words.
* `Registry.permits` — whether a player may use a node.
* `Registry.clash?` — two commands with a common name or alias.
-/

namespace CommandTree

/-- What a command or keyword is called, and who may use it. -/
structure CommandData (H : Host) where
  /-- The word to type. -/
  name : String
  /-- A sentence for the help text. -/
  description : String
  /-- Other words that reach the command; only roots have them. -/
  aliases : List String
  /-- Who may use it; nothing means everyone. -/
  requires : Option (H.State → H.Who → Bool)
  /-- Shown instead of the usual refusal. -/
  denial : Option String
  /-- Hidden from the help text unless the reader is an operator. -/
  opOnly : Bool
  /-- How long a player waits before using the command again. -/
  cooldown : Option Span

namespace CommandData

variable {H : Host}

/-- A command for everyone. -/
def plain (name description : String) : CommandData H :=
  ⟨name, description, [], none, none, false, none⟩

/-- Whether a player may use the command. -/
def permits (d : CommandData H) (s : H.State) (who : H.Who) : Bool :=
  match d.requires with
  | none => true
  | some allowed => allowed s who

/-- The name and the aliases. -/
def names (d : CommandData H) : List String := d.name :: d.aliases

end CommandData

/-- The position of a node in the registry. -/
abbrev NodeId := Nat

/-- One step of a command. -/
structure Node (H : Host) where
  /-- The metadata of the nearest keyword, the node's own for a keyword. -/
  data : CommandData H
  /-- The word that reaches the node. -/
  argument : Argument H
  /-- The number of nodes above. -/
  depth : Nat
  /-- The node before it. -/
  parent : Option NodeId
  /-- The nodes that may follow, in the order they are tried. -/
  children : List NodeId
  /-- What is done when the command ends here. -/
  handler : Option (Handler H)

/-- A node in words: a command or keyword by its name, another argument by its name in angle
brackets. -/
def Node.word {H : Host} (node : Node H) : String :=
  if node.depth == 0 || node.argument.isLiteral then node.argument.name
  else "<" ++ node.argument.name ++ ">"

/-- Every node ever declared, in order of declaration. -/
structure Registry (H : Host) where
  /-- The nodes. -/
  nodes : Array (Node H)

/-! ### Errors -/

/-- Why commands could not be declared as wanted. -/
inductive BuildError where
  /-- A name or alias already belongs to the command `owner`. -/
  | duplicateRoot (name owner : String)
  /-- A handler takes other values than its node produces. -/
  | signatureMismatch (node : String) (expected found : List ValueKind)
  /-- There is no node at the position. -/
  | unknownNode (id : NodeId)
  deriving DecidableEq, Repr

/-- The kinds of values separated by commas. -/
def kindList (kinds : List ValueKind) : String := joinWith ", " (kinds.map ValueKind.word)

/-- The wording of a build error. -/
def BuildError.message : BuildError → String
  | .duplicateRoot name owner =>
    "Command name \"" ++ name ++ "\" is already registered by \"" ++ owner ++ "\""
  | .signatureMismatch node expected found =>
    "Handler for \"" ++ node ++ "\" takes [" ++ kindList found ++ "] but the node produces [" ++
      kindList expected ++ "]"
  | .unknownNode id => "There is no node " ++ toString id

namespace Registry

variable {H : Host}

/-- The registry without commands. -/
def empty : Registry H := ⟨#[]⟩

/-- The number of nodes. -/
def size (r : Registry H) : Nat := r.nodes.size

/-- The node at a position. -/
def node? (r : Registry H) (id : NodeId) : Option (Node H) := r.nodes[id]?

/-- The children of a node; a position outside the registry has none. -/
def children (r : Registry H) (id : NodeId) : List NodeId :=
  ((r.node? id).map Node.children).getD []

/-- The handler of a node. -/
def handler? (r : Registry H) (id : NodeId) : Option (Handler H) := (r.node? id).bind Node.handler

/-- Whether a node has a handler. -/
def hasHandler (r : Registry H) (id : NodeId) : Bool := (r.handler? id).isSome

/-- Whether a node begins a command. -/
def isRoot (r : Registry H) (id : NodeId) : Bool := (r.node? id).any (·.depth == 0)

/-- The name of the command or keyword that a node belongs to. -/
def nameOf (r : Registry H) (id : NodeId) : String :=
  ((r.node? id).map (·.data.name)).getD ""

/-- Whether a player may use a node. -/
def permits (r : Registry H) (s : H.State) (who : H.Who) (id : NodeId) : Bool :=
  (r.node? id).any fun node => node.data.permits s who

/-! ### Commands -/

/-- The roots of all commands in order of declaration. -/
def roots (r : Registry H) : List NodeId := (List.range r.size).filter r.isRoot

/-- Whether a node answers to a name or alias. -/
def answersTo (r : Registry H) (name : String) (id : NodeId) : Bool :=
  (r.node? id).any fun node => name ∈ node.data.names

/-- The first command that answers to a name or alias. -/
def findRoot? (r : Registry H) (name : String) : Option NodeId := r.roots.find? (r.answersTo name)

/-- The names of all commands, without their aliases. -/
def commandNames (r : Registry H) : List String := r.roots.map r.nameOf

/-! ### Paths -/

/-- The nodes from the root of a command down to a node. -/
def path (r : Registry H) (id : NodeId) : List NodeId :=
  match (r.node? id).bind Node.parent with
  | some parent => if parent < id then r.path parent ++ [id] else [id]
  | none => [id]
termination_by id

/-- The kind of value a node contributes to an action. -/
def valueKind? (r : Registry H) (id : NodeId) : Option ValueKind :=
  (r.node? id).bind fun node => node.argument.valueKind?

/-- The kinds of the values that a handler on a node receives. -/
def schema (r : Registry H) (id : NodeId) : List ValueKind := (r.path id).filterMap r.valueKind?

/-- The path to a node in words. -/
def describe (r : Registry H) (id : NodeId) : String :=
  joinWith " " ((r.path id).map fun id => ((r.node? id).map Node.word).getD "")

/-! ### Names in conflict -/

/-- Every name and alias in order, with the name of the command it belongs to. -/
def claims (r : Registry H) : List (String × String) :=
  r.roots.flatMap fun id =>
    (((r.node? id).map fun node => node.data.names).getD []).map fun name => (name, r.nameOf id)

/-- The first name in a list that is already among those seen, with both owners' first. -/
def firstClash? (seen : List (String × String)) : List (String × String) → Option BuildError
  | [] => none
  | (name, owner) :: rest =>
    match seen.find? (·.1 == name) with
    | some (_, earlier) => some (.duplicateRoot name earlier)
    | none => firstClash? (seen ++ [(name, owner)]) rest

/-- The first name or alias that is claimed twice. -/
def clash? (r : Registry H) : Option BuildError := firstClash? [] r.claims

end Registry

end CommandTree
