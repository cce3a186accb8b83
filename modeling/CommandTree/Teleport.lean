import CommandTree.Task

/-!
# Teleporting

A player is moved to a place or to where another player is, and then turned as the
command says.

## Main definitions

* `Move` — who goes where, and how they face afterwards.
* `TeleportTask.move?` — the move that the values of a task stand for.
-/

namespace CommandTree

/-- Who goes where, and how they face afterwards. -/
structure Move (W : Type) where
  /-- The player who is moved. -/
  who : W
  /-- The place they are moved to. -/
  target : Point
  /-- How they face afterwards. -/
  orientation : Orientation

variable {H : Host}

/-- The player who is moved, and the values after the one that names them. -/
def Subject.take? (sender : H.Who) :
    Subject → List (Value H.Who) → Option (H.Who × List (Value H.Who))
  | .sender, values => some (sender, values)
  | .victim, .player who :: values => some (who, values)
  | .victim, _ => none

/-- How a player faces after a move to a place, from the values after that place. -/
def Gaze.orientation? (s : H.State) : Gaze → List (Value H.Who) → Option Orientation
  | .keep, [.boolean _] => some .keep
  | .rotate, [.integer yaw, .integer pitch, .boolean _] => some ⟨none, some (yaw, pitch)⟩
  | .atPlayer, [.player other, .boolean _] => some ⟨some (H.position s other), none⟩
  | .atPlace, [.location p, .boolean _] => some ⟨some p, none⟩
  | _, _ => none

/-- The move that the values of a task stand for; none if they are of other kinds than it takes.
Whether to look out for blocks makes no difference, for there are none. -/
def TeleportTask.move? (s : H.State) (sender : H.Who) (task : TeleportTask)
    (values : List (Value H.Who)) : Option (Move H.Who) :=
  match task with
  | .toPlayer subject =>
    match subject.take? sender values with
    | some (who, .player other :: _) => some ⟨who, H.position s other, .keep⟩
    | _ => none
  | .toPlace subject gaze =>
    match subject.take? sender values with
    | some (who, .location p :: rest) => (gaze.orientation? s rest).map fun o => ⟨who, p, o⟩
    | _ => none

end CommandTree
