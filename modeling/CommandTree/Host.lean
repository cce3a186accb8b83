import CommandTree.Message
import CommandTree.Value

/-!
# Hosts

Commands are given on behalf of players who live elsewhere: in a game, in a
test, in a chat program.  A host says what the command tree may ask about them
and do to them.  Everything that can change is in the state of the host, which
every question that may change something takes and gives back.

## Main definitions

* `Host` — players, their state, and what can be asked and done.
* `Orientation` — how a player faces after being moved.
* `Host.deliverAll` — delivering several messages.
-/

namespace CommandTree

/-- How a player faces after being moved: towards a point or else by a rotation around the
vertical and the lateral axis in degrees; neither keeps the view. -/
structure Orientation where
  /-- The point to look at. -/
  facing : Option Point
  /-- The two angles of a rotation. -/
  rotation : Option (Int × Int)

/-- Orientation that keeps the view. -/
def Orientation.keep : Orientation := ⟨none, none⟩

/-- The surroundings that commands are given in. -/
structure Host where
  /-- The players, and any other senders of commands. -/
  Who : Type
  /-- The state of the surroundings. -/
  State : Type
  /-- The names of the actions the host itself adds. -/
  Action : Type
  /-- The name of a player. -/
  name : Who → String
  /-- Whether a player is an operator. -/
  isOp : State → Who → Bool
  /-- Where a player is. -/
  position : State → Who → Point
  /-- The direction a player looks in. -/
  view : State → Who → Point
  /-- The player online under exactly this name; asking may change the state. -/
  find : String → State → Option Who × State
  /-- Whether a player is still connected; asking may change the state. -/
  isValid : Who → State → Bool × State
  /-- The state after a player got a message. -/
  deliver : Who → Message → State → State
  /-- The state after a player was moved; none if this player cannot be. -/
  move? : Who → Point → Orientation → State → Option State

namespace Host

/-- The state after a player got several messages in order. -/
def deliverAll (H : Host) (who : H.Who) (messages : List Message) (s : H.State) : H.State :=
  messages.foldl (fun s m => H.deliver who m s) s

end Host

end CommandTree
