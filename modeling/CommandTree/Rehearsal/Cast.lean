import CommandTree.Host

/-!
# A cast of players

For rehearsing commands, players follow a script: it says when they are connected
and how often they can be found.  Besides them there is a plain sender, who is
always connected and discards what it is told.

## Main definitions

* `Actor`, `Cast` — the players.
* `Cast.host` — a cast as the surroundings of commands.
-/

namespace CommandTree

/-- A player who follows a script. -/
structure Actor where
  /-- The name. -/
  name : String
  /-- Whether they are an operator. -/
  isOp : Bool
  /-- The answers to whether they are connected, in order; the last one stays. -/
  valid : List Bool
  /-- Where they are. -/
  position : Point
  /-- The direction they look in. -/
  view : Point
  /-- Whether they can be found at all. -/
  online : Bool
  /-- How often they can still be found, if there is a limit. -/
  lookups : Option Nat
  /-- The messages they got, oldest first. -/
  inbox : List Message

/-- An actor without a script. -/
def Actor.plain (name : String) : Actor :=
  ⟨name, false, [true], .origin, .origin, true, none, []⟩

/-- Whether the actor can be found now. -/
def Actor.canBeFound (a : Actor) : Bool := a.online && a.lookups != some 0

/-- The actor after being found. -/
def Actor.found (a : Actor) : Actor := { a with lookups := a.lookups.map (· - 1) }

/-- Whether the actor is connected, and the actor after saying so. -/
def Actor.answer (a : Actor) : Bool × Actor :=
  match a.valid with
  | [] => (true, a)
  | [last] => (last, a)
  | next :: rest => (next, { a with valid := rest })

/-- All players who follow a script. -/
structure Cast where
  /-- The players. -/
  actors : List Actor

namespace Cast

/-- The player with a name. -/
def get? (c : Cast) (name : String) : Option Actor := c.actors.find? (·.name == name)

/-- The cast after a change of one player. -/
def modify (c : Cast) (name : String) (f : Actor → Actor) : Cast :=
  ⟨c.actors.map fun a => if a.name = name then f a else a⟩

/-- The player with a name, or nobody for the plain sender. -/
def actor? (c : Cast) (who : Option String) : Option Actor := who.bind c.get?

/-- A cast as the surroundings of commands.  Nobody in it can be moved. -/
abbrev host (Action : Type) : Host where
  Who := Option String
  State := Cast
  Action := Action
  name who := who.getD "plain"
  isOp c who := (c.actor? who).any Actor.isOp
  position c who := ((c.actor? who).map Actor.position).getD .origin
  view c who := ((c.actor? who).map Actor.view).getD .origin
  find name c :=
    match c.get? name with
    | some a => if a.canBeFound then (some (some name), c.modify name Actor.found) else (none, c)
    | none => (none, c)
  isValid who c :=
    match who, c.actor? who with
    | some name, some a => (a.answer.1, c.modify name fun a => a.answer.2)
    | _, _ => (true, c)
  deliver who m c :=
    match who with
    | some name => c.modify name fun a => { a with inbox := a.inbox ++ [m] }
    | none => c
  move? _ _ _ _ := none

/-- The cast after a player disconnected for good. -/
def leave (who : Option String) (c : Cast) : Cast :=
  match who with
  | some name => c.modify name fun a => { a with valid := [false] }
  | none => c

/-- The messages of all players who got some, and the cast after everyone read theirs. -/
def collect (c : Cast) : List (String × List Message) × Cast :=
  ((c.actors.filter fun a => !a.inbox.isEmpty).map fun a => (a.name, a.inbox),
    ⟨c.actors.map fun a => { a with inbox := [] }⟩)

end Cast

end CommandTree
