import CommandTree.Host

/-!
# A world of players

Players in memory: each has a place, a view direction and an inbox.  There is no
terrain, so a move always succeeds.

## Main definitions

* `Pose`, `Player`, `World` — players by name.
* `World.join`, `World.teleport`, `World.send`, `World.take`, `World.drain` — what
  happens in a world.
* `World.host` — a world as the surroundings of commands.
-/

namespace CommandTree

/-- Where a player is and where they look. -/
structure Pose where
  /-- The place. -/
  location : Point
  /-- The direction of view. -/
  view : Point

/-- Where new players appear, looking south. -/
def Pose.spawn : Pose := ⟨⟨0, 64, 0⟩, ⟨0, 0, 1⟩⟩

/-- A player who is online. -/
structure Player where
  /-- Whether they are an operator. -/
  isOp : Bool
  /-- Where they are and where they look. -/
  pose : Pose
  /-- The messages they got and have not read, oldest first. -/
  inbox : List Message

/-- Everyone online. -/
structure World where
  /-- The players with their names, in the order of the names. -/
  players : List (String × Player)

/-! ### Directions -/

/-- The least distance between one and the next larger number: points closer than this have no
direction between them. -/
def leastDistance : Float := Decimal.ofRatio false 1 (Decimal.pow2 52)

/-- The direction of length one from one point to another, if they lie apart. -/
def directionTowards (source target : Point) : Option Point :=
  let dx := target.x - source.x
  let dy := target.y - source.y
  let dz := target.z - source.z
  let length := (Decimal.mulAdd dz dz (Decimal.mulAdd dx dx (dy * dy))).sqrt
  if leastDistance < length then some ⟨dx / length, dy / length, dz / length⟩ else none

/-- An angle in degrees as one in radians. -/
def radians (degrees : Int) : Float := Decimal.ofInt degrees * (3.141592653589793 / 180)

/-- The direction of view after a rotation around the vertical axis and one around the lateral
axis. -/
def directionFromRotation (yaw pitch : Int) : Point :=
  let yaw := radians yaw
  let pitch := radians pitch
  ⟨-yaw.sin * pitch.cos, -pitch.sin, yaw.cos * pitch.cos⟩

/-- A pose after a move: a point to look at wins over a rotation, and counts only if it lies apart
from the place. -/
def Pose.moved (pose : Pose) (target : Point) (o : Orientation) : Pose :=
  let view :=
    match o.facing, o.rotation with
    | some point, _ => (directionTowards target point).getD pose.view
    | none, some (yaw, pitch) => directionFromRotation yaw pitch
    | none, none => pose.view
  ⟨target, view⟩

/-! ### What happens in a world -/

/-- Players with one more, who takes the place of another of the same name; the order of the names
is kept. -/
def insertPlayer (name : String) (player : Player) :
    List (String × Player) → List (String × Player)
  | [] => [(name, player)]
  | (other, p) :: rest =>
    if name < other then (name, player) :: (other, p) :: rest
    else if name = other then (name, player) :: rest
    else (other, p) :: insertPlayer name player rest

namespace World

/-- The world without players. -/
def empty : World := ⟨[]⟩

/-- The player with a name. -/
def get? (w : World) (name : String) : Option Player := w.players.lookup name

/-- Whether a player with the name is online. -/
def isOnline (w : World) (name : String) : Bool := (w.get? name).isSome

/-- The world after a change of one player. -/
def modify (w : World) (name : String) (f : Player → Player) : World :=
  ⟨w.players.map fun (other, p) => (other, if other = name then f p else p)⟩

/-- The world after a player came online; another one of the same name is gone. -/
def join (w : World) (name : String) (isOp : Bool) : World :=
  ⟨insertPlayer name ⟨isOp, .spawn, []⟩ w.players⟩

/-- The world after a player was moved. -/
def teleport (w : World) (name : String) (target : Point) (o : Orientation) : World :=
  w.modify name fun p => { p with pose := p.pose.moved target o }

/-- The world after a player got a message. -/
def send (w : World) (name : String) (m : Message) : World :=
  w.modify name fun p => { p with inbox := p.inbox ++ [m] }

/-- The messages a player got, and the world after they read them. -/
def take (w : World) (name : String) : List Message × World :=
  (((w.get? name).map Player.inbox).getD [], w.modify name fun p => { p with inbox := [] })

/-- The messages of all players in the order of their names, and the world after everyone read
theirs. -/
def drain (w : World) : List (String × Message) × World :=
  (w.players.flatMap fun (name, p) => p.inbox.map fun m => (name, m),
    ⟨w.players.map fun (name, p) => (name, { p with inbox := [] })⟩)

/-- The place and view of a player; that of a new one for a name nobody has. -/
def poseOf (w : World) (name : String) : Pose := ((w.get? name).map Player.pose).getD .spawn

/-- A world as the surroundings of commands: its players never leave, and it adds no actions. -/
abbrev host : Host where
  Who := String
  State := World
  Action := Empty
  name := id
  isOp w name := (w.get? name).any Player.isOp
  position w name := (w.poseOf name).location
  view w name := (w.poseOf name).view
  find name w := (if w.isOnline name then some name else none, w)
  isValid _ w := (true, w)
  deliver name m w := w.send name m
  move? name target o w := some (w.teleport name target o)

end World

end CommandTree
