import CommandTree.Decimal.Layout
import CommandTree.Decimal.Reader

/-!
# Points and coordinates

A location is typed as three coordinates, one for each axis.  A coordinate is a
number, an offset from where the sender stands, or an offset from the direction
the sender looks in.

## Main definitions

* `Point` — a place or a direction.
* `Coordinate` — one typed axis.
* `Coordinate.read?`, `Coordinate.resolve` — from text, and to a number.
* `locate` — three coordinates as a place.
-/

namespace CommandTree

/-- A place or a direction in space. -/
structure Point where
  /-- East. -/
  x : Float
  /-- Up. -/
  y : Float
  /-- South. -/
  z : Float
  deriving Inhabited

namespace Point

/-- The point from which offsets are counted. -/
def origin : Point := ⟨0, 0, 0⟩

/-- The three axes separated by spaces. -/
def text (p : Point) : String :=
  Decimal.plain p.x ++ " " ++ Decimal.plain p.y ++ " " ++ Decimal.plain p.z

/-- Equality of points as numbers: the two zeros are equal, and no number is no equal. -/
def same (p q : Point) : Bool := p.x == q.x && p.y == q.y && p.z == q.z

end Point

/-- One axis of a location as it was typed. -/
inductive Coordinate where
  /-- The number itself. -/
  | absolute (v : Float)
  /-- An offset from the position of the sender. -/
  | relative (delta : Float)
  /-- An offset from the view direction of the sender. -/
  | view (delta : Float)

namespace Coordinate

/-- A finite number as text. -/
def readFinite? (cs : List Char) : Option Float := (Decimal.readFloat? cs).filter (·.isFinite)

/-- An offset as text; nothing at all is the offset zero. -/
def readOffset? : List Char → Option Float
  | [] => some 0
  | cs => readFinite? cs

/-- A coordinate as text: `7`, `~5`, `^2`, `~` or `^`. -/
def read? (s : String) : Option Coordinate :=
  match s.toList with
  | '~' :: cs => (readOffset? cs).map .relative
  | '^' :: cs => (readOffset? cs).map .view
  | cs => (readFinite? cs).map .absolute

/-- The number a coordinate stands for, given the position and the view direction of the sender
on its axis. -/
def resolve (position view : Float) : Coordinate → Float
  | .absolute v => v
  | .relative delta => position + delta
  | .view delta => view + delta

/-- Equality of coordinates of the same form, as numbers. -/
def same : Coordinate → Coordinate → Bool
  | .absolute a, .absolute b => a == b
  | .relative a, .relative b => a == b
  | .view a, .view b => a == b
  | _, _ => false

end Coordinate

/-- The place that three coordinates stand for, given the position and the view direction of the
sender. -/
def locate (x y z : Coordinate) (position view : Point) : Point :=
  ⟨x.resolve position.x view.x, y.resolve position.y view.y, z.resolve position.z view.z⟩

end CommandTree
