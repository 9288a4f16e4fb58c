import StageMotion.Movable

/-!
# Bouncing

A target that touches an edge of the stage is turned away from it and put back inside. It bounces
off the nearest edge; of two edges at the same distance the one that is earlier in `Edge.all` counts
as nearer.

* `Bounds.clearance` : how far a box is from an edge;
* `Bounds.nearestEdge` : the nearest edge;
* `Edge.deflect` : the direction in which something leaves an edge;
* `headingAlong` : the heading of such a direction;
* `Bounce.of?` : the bounce of a target, if it touches an edge.

The directions in which something leaves an edge have their `y` axis pointing down, as on a screen.
Turning a direction back into a heading undoes the flip.
-/

namespace StageMotion

variable {α : Type} [Scalar α]

/-! ## Edges -/

/-- An edge of the playfield. -/
inductive Edge
  | left
  | top
  | right
  | bottom
  deriving DecidableEq, Repr

/-- All edges, in the order in which they win ties. -/
def Edge.all : List Edge := [.left, .top, .right, .bottom]

def Edge.name : Edge → String
  | .left => "left"
  | .top => "top"
  | .right => "right"
  | .bottom => "bottom"

namespace Bounds

/-- The distance from a box to an edge, zero once the box has crossed it. -/
def clearance (box : Bounds α) (field : Playfield α) : Edge → α
  | .left => atLeast 0.0 (field.half.x + box.left)
  | .top => atLeast 0.0 (field.half.y - box.top)
  | .right => atLeast 0.0 (field.half.x - box.right)
  | .bottom => atLeast 0.0 (field.half.y + box.bottom)

/-- The distances to all edges, in the order of `Edge.all`. -/
def clearances (box : Bounds α) (field : Playfield α) : List (Edge × α) :=
  Edge.all.map fun edge => (edge, box.clearance field edge)

/-- Of two edges with their clearances the nearer one, and on a tie the first. -/
def nearer (a b : Edge × α) : Edge × α := if b.2 < a.2 then b else a

/-- The nearest edge and its clearance. -/
def nearestEdge (box : Bounds α) (field : Playfield α) : Edge × α :=
  Edge.all.tail.foldl (fun best edge => nearer best (edge, box.clearance field edge))
    (.left, box.clearance field .left)

end Bounds

/-! ## Bounces -/

/-- How fast, in parts of its speed, something leaves an edge at the least, so that what slides
along a wall comes off it. -/
def minDeflection : α := 0.2

/-- The direction of a heading after it is turned away from an edge: the part along the edge stays,
and the part across it points inward. -/
def Edge.deflect (edge : Edge) (heading : α) : Vec2 α :=
  let angle := radians (90.0 - heading)
  let x := Scalar.cos angle
  let y := -Scalar.sin angle
  match edge with
  | .left => ⟨atLeast minDeflection (Scalar.abs x), y⟩
  | .top => ⟨x, atLeast minDeflection (Scalar.abs y)⟩
  | .right => ⟨-atLeast minDeflection (Scalar.abs x), y⟩
  | .bottom => ⟨x, -atLeast minDeflection (Scalar.abs y)⟩

/-- The heading along a direction whose `y` axis points down. -/
def headingAlong (direction : Vec2 α) : α :=
  degrees (Scalar.atan2 direction.y direction.x) + 90.0

/-- How a target comes off an edge. -/
structure Bounce (α : Type) where
  edge : Edge
  direction : Vec2 α
  heading : α
  /-- Where the target is put so that it is back inside. -/
  position : Vec2 α
  deriving Repr

/-- The bounce of a target off the nearest edge, if it has bounds that touch one. -/
def Bounce.of? {τ : Type} [Movable τ α] (target : τ) (field : Playfield α) : Option (Bounce α) := do
  let box ← Movable.bounds? target
  let (edge, clearance) := box.nearestEdge field
  if 0.0 < clearance then none
  else
    let direction := edge.deflect (Movable.heading target)
    some
      { edge, direction
        heading := headingAlong direction
        position := Movable.keepInFence target (Movable.position target) }

end StageMotion
