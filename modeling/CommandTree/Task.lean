import CommandTree.Argument

/-!
# Tasks

What a command does when it is given: one of the tasks of the built-in commands,
or an action of the host.  A handler is a task with the kinds of the values it
takes.

## Main definitions

* `HelpTask`, `TeleportTask`, `Task` — what commands do.
* `Handler` — a task that can be attached to a node of the command tree.
-/

namespace CommandTree

/-- What the help command does. -/
inductive HelpTask where
  /-- List the first page of commands. -/
  | firstPage
  /-- List the page with the given number. -/
  | page
  /-- Explain the command with the given name. -/
  | usage
  deriving DecidableEq, Repr

/-- The kinds of the values that a help task takes. -/
def HelpTask.params : HelpTask → List ValueKind
  | .firstPage => []
  | .page => [.integer]
  | .usage => [.text]

/-- Who is teleported. -/
inductive Subject where
  /-- The one who gives the command. -/
  | sender
  /-- The player named first. -/
  | victim
  deriving DecidableEq, Repr

/-- What decides the view after a teleport to a place. -/
inductive Gaze where
  /-- Nothing: the view stays. -/
  | keep
  /-- Two angles. -/
  | rotate
  /-- A player to look at. -/
  | atPlayer
  /-- A place to look at. -/
  | atPlace
  deriving DecidableEq, Repr

/-- What the teleport command does. -/
inductive TeleportTask where
  /-- Move to where a player is. -/
  | toPlayer (subject : Subject)
  /-- Move to a place. -/
  | toPlace (subject : Subject) (gaze : Gaze)
  deriving DecidableEq, Repr

/-- The kinds of the values that name the subject. -/
def Subject.params : Subject → List ValueKind
  | .sender => []
  | .victim => [.player]

/-- The kinds of the values that decide the view. -/
def Gaze.params : Gaze → List ValueKind
  | .keep => []
  | .rotate => [.integer, .integer]
  | .atPlayer => [.player]
  | .atPlace => [.location]

/-- The kinds of the values that a teleport task takes; all but the shortest form end with
whether to look out for blocks. -/
def TeleportTask.params : TeleportTask → List ValueKind
  | .toPlayer .sender => [.player]
  | .toPlayer .victim => [.player, .player, .boolean]
  | .toPlace subject gaze => subject.params ++ [.location] ++ gaze.params ++ [.boolean]

/-- What a command does; `A` holds the actions of the host. -/
inductive Task (A : Type) where
  /-- A task of the help command. -/
  | help (t : HelpTask)
  /-- A task of the teleport command. -/
  | teleport (t : TeleportTask)
  /-- An action of the host. -/
  | host (a : A)

/-- A task with the kinds of the values it takes. -/
structure Handler (H : Host) where
  /-- The kinds of the values in order. -/
  params : List ValueKind
  /-- What is done with them. -/
  task : Task H.Action

/-- A handler for a help task. -/
def HelpTask.handler {H : Host} (t : HelpTask) : Handler H := ⟨t.params, .help t⟩

/-- A handler for a teleport task. -/
def TeleportTask.handler {H : Host} (t : TeleportTask) : Handler H := ⟨t.params, .teleport t⟩

end CommandTree
