import CommandTree.Registry.Basic

/-!
# Declaring commands

A registry grows by steps, each of which ends on a node: a new command, a new
argument or keyword below a node, a handler attached to a node.  A step gives the
node or an error, and the registry as it is afterwards.  The built-in commands are
declared by several such steps in a row, which end at the first error.

## Main definitions

* `Built` — what a step gives.
* `Registry.command`, `Registry.argument`, `Registry.literal`,
  `Registry.location`, `Registry.attach` — the single steps.
* `Registry.addHelp`, `Registry.addTeleport` — the built-in commands.
* `BuildStep`, `Registry.apply`, `Registry.ofSteps` — the steps as data.
-/

namespace CommandTree

/-- What a step of declaring commands gives. -/
structure Built (H : Host) where
  /-- The node the step ends on, or why it failed. -/
  result : Except BuildError NodeId
  /-- The registry afterwards. -/
  registry : Registry H

namespace Built

variable {H : Host}

/-- A step that ended on a node. -/
def grown (g : Registry H × NodeId) : Built H := ⟨.ok g.2, g.1⟩

/-- A step followed by another one, which is left out if the first one fails. -/
def andThen (b : Built H) (next : NodeId → Registry H → Built H) : Built H :=
  match b.result with
  | .ok id => next id b.registry
  | .error e => ⟨.error e, b.registry⟩

end Built

namespace Registry

variable {H : Host}

/-- The registry with one more node at the end, which becomes the last child of its parent. -/
def push (r : Registry H) (parent : Option NodeId) (data : CommandData H) (argument : Argument H) :
    Registry H × NodeId :=
  let id := r.size
  let depth := ((parent.bind r.node?).map (·.depth + 1)).getD 0
  let linked :=
    match parent with
    | none => r.nodes
    | some parent =>
      r.nodes.modify parent fun node => { node with children := node.children ++ [id] }
  (⟨linked.push ⟨data, argument, depth, parent, [], none⟩⟩, id)

/-- The first name in a list that some command answers to, as an error. -/
def taken? (r : Registry H) : List String → Option BuildError
  | [] => none
  | name :: names =>
    match r.findRoot? name with
    | some owner => some (.duplicateRoot name (r.nameOf owner))
    | none => r.taken? names

/-- A new command; no other command may answer to its name or its aliases. -/
def command (r : Registry H) (data : CommandData H) : Built H :=
  match r.taken? data.names with
  | some e => ⟨.error e, r⟩
  | none => .grown (r.push none data ⟨data.name, .literal⟩)

/-- A new argument below a node, with the metadata of that node. -/
def argument (r : Registry H) (parent : NodeId) (a : Argument H) : Built H :=
  match r.node? parent with
  | none => ⟨.error (.unknownNode parent), r⟩
  | some node => .grown (r.push (some parent) node.data a)

/-- A new keyword below a node, with metadata of its own. -/
def literal (r : Registry H) (parent : NodeId) (data : CommandData H) : Built H :=
  match r.node? parent with
  | none => ⟨.error (.unknownNode parent), r⟩
  | some _ => .grown (r.push (some parent) data ⟨data.name, .literal⟩)

/-- A new location below a node: three axes in a row, of which the second and third are trailing
arguments; only one axis if the name is trailing already. -/
def location (r : Registry H) (parent : NodeId) (name : String) : Built H :=
  if isTrailingName name then r.argument parent ⟨name, .axis⟩
  else
    (r.argument parent ⟨name, .axis⟩).andThen fun x r =>
    (r.argument x ⟨name ++ "_y*", .axis⟩).andThen fun y r =>
    r.argument y ⟨name ++ "_z*", .axis⟩

/-- The registry with a handler on a node, in place of any other. -/
def setHandler (r : Registry H) (id : NodeId) (handler : Handler H) : Registry H :=
  ⟨r.nodes.modify id fun node => { node with handler := some handler }⟩

/-- A handler attached to a node.  It must take just the values that the path to the node
produces. -/
def attach (r : Registry H) (id : NodeId) (handler : Handler H) : Built H :=
  match r.node? id with
  | none => ⟨.error (.unknownNode id), r⟩
  | some _ =>
    if r.schema id = handler.params then ⟨.ok id, r.setHandler id handler⟩
    else ⟨.error (.signatureMismatch (r.describe id) (r.schema id) handler.params), r⟩

/-! ### The built-in commands -/

/-- The metadata of the help command. -/
def helpData : CommandData H :=
  ⟨"help", "Provides help/list of commands.", ["?", "h"], none, none, false, none⟩

/-- The metadata of the teleport command, which only operators may use. -/
def teleportData : CommandData H :=
  ⟨"teleport", "Teleport to a player", ["tp"], some H.isOp, none, true, none⟩

/-- The metadata of the keyword before something to look at. -/
def facingData : CommandData H :=
  .plain "facing" "A entity or position to face after the teleport"

/-- The help command: a list of commands by pages, or the usage of one. -/
def addHelp (r : Registry H) : Built H :=
  (r.command helpData).andThen fun root r =>
  (r.attach root HelpTask.firstPage.handler).andThen fun _ r =>
  (r.argument root ⟨"page", .integer none⟩).andThen fun page r =>
  (r.attach page HelpTask.page.handler).andThen fun _ r =>
  (r.argument root ⟨"command", .custom (commandNameType H)⟩).andThen fun name r =>
  (r.attach name HelpTask.usage.handler).andThen fun _ r =>
  ⟨.ok root, r⟩

/-- Below a place to go to: the ways to decide the view, each ending with whether to look out for
blocks. -/
def addGazes (r : Registry H) (place : NodeId) (subject : Subject) : Built H :=
  (r.argument place ⟨"checkForBlocks", .boolean⟩).andThen fun blocks r =>
  (r.attach blocks (TeleportTask.toPlace subject .keep).handler).andThen fun _ r =>
  (r.argument place ⟨"yRot", .integer none⟩).andThen fun yaw r =>
  (r.argument yaw ⟨"xRot", .integer none⟩).andThen fun pitch r =>
  (r.argument pitch ⟨"checkForBlocks", .boolean⟩).andThen fun blocks r =>
  (r.attach blocks (TeleportTask.toPlace subject .rotate).handler).andThen fun _ r =>
  (r.literal place facingData).andThen fun facing r =>
  (r.argument facing ⟨"lookAtEntity", .player⟩).andThen fun entity r =>
  (r.argument entity ⟨"checkForBlocks", .boolean⟩).andThen fun blocks r =>
  (r.attach blocks (TeleportTask.toPlace subject .atPlayer).handler).andThen fun _ r =>
  (r.location facing "lookAtPosition").andThen fun position r =>
  (r.argument position ⟨"checkForBlocks", .boolean⟩).andThen fun blocks r =>
  r.attach blocks (TeleportTask.toPlace subject .atPlace).handler

/-- The teleport command for operators: oneself or another player, to a player or a place. -/
def addTeleport (r : Registry H) : Built H :=
  (r.command teleportData).andThen fun root r =>
  (r.argument root ⟨"destination", .player⟩).andThen fun player r =>
  (r.attach player (TeleportTask.toPlayer .sender).handler).andThen fun _ r =>
  (r.location root "destination").andThen fun place r =>
  (r.addGazes place .sender).andThen fun _ r =>
  (r.argument root ⟨"victim", .player⟩).andThen fun victim r =>
  (r.argument victim ⟨"destination", .player⟩).andThen fun player r =>
  (r.argument player ⟨"checkForBlocks", .boolean⟩).andThen fun blocks r =>
  (r.attach blocks (TeleportTask.toPlayer .victim).handler).andThen fun _ r =>
  (r.location victim "destination").andThen fun place r =>
  (r.addGazes place .victim).andThen fun _ r =>
  ⟨.ok root, r⟩

end Registry

/-! ### Steps as data -/

/-- One step of declaring commands. -/
inductive BuildStep (H : Host) where
  /-- A new command. -/
  | command (data : CommandData H)
  /-- A new argument below a node. -/
  | argument (parent : NodeId) (a : Argument H)
  /-- A new keyword below a node. -/
  | literal (parent : NodeId) (data : CommandData H)
  /-- A new location below a node. -/
  | location (parent : NodeId) (name : String)
  /-- A handler attached to a node. -/
  | attach (id : NodeId) (handler : Handler H)
  /-- The help command. -/
  | help
  /-- The teleport command. -/
  | teleport

namespace Registry

variable {H : Host}

/-- The node a step ends on, or why it failed, and the registry afterwards. -/
def apply (r : Registry H) : BuildStep H → Built H
  | .command data => r.command data
  | .argument parent a => r.argument parent a
  | .literal parent data => r.literal parent data
  | .location parent name => r.location parent name
  | .attach id handler => r.attach id handler
  | .help => r.addHelp
  | .teleport => r.addTeleport

/-- The registry after a list of steps, starting without commands; steps that fail are passed
over. -/
def ofSteps (steps : List (BuildStep H)) : Registry H :=
  steps.foldl (fun r step => (r.apply step).registry) empty

end Registry

end CommandTree
