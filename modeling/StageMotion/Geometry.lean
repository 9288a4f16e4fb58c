import StageMotion.Scalar

/-!
# Stage geometry

Points, boxes and headings on the stage. Its centre is the origin; `x` grows to the right and `y`
grows upward. A heading is an angle in degrees, clockwise from straight up: `0` is up, `90` is
right, `180` is down and `-90` is left.

* `Vec2` : points and displacements, whose operations work on each coordinate separately;
* `Bounds` : boxes with their sides parallel to the axes;
* `wrap` : a number moved by whole turns into a range;
* `Heading.normalize` : a heading wrapped to the range that starts at `-179`;
* `Heading.vector`, `Heading.towards` : the unit vector of a heading, and the heading from one point
  to another;
* `Playfield` : the rectangle of the stage, and `Playfield.fence` the position that keeps a moving
  box inside it.
-/

namespace StageMotion

/-! ## Vectors -/

/-- A point or a displacement in stage coordinates. -/
@[ext] structure Vec2 (α : Type) where
  x : α
  y : α
  deriving DecidableEq, Repr

namespace Vec2

variable {α : Type}

instance [Add α] : Add (Vec2 α) := ⟨fun u v => ⟨u.x + v.x, u.y + v.y⟩⟩

instance [Sub α] : Sub (Vec2 α) := ⟨fun u v => ⟨u.x - v.x, u.y - v.y⟩⟩

instance [Mul α] : SMul α (Vec2 α) := ⟨fun k v => ⟨k * v.x, k * v.y⟩⟩

@[simp] theorem add_x [Add α] (u v : Vec2 α) : (u + v).x = u.x + v.x := rfl

@[simp] theorem add_y [Add α] (u v : Vec2 α) : (u + v).y = u.y + v.y := rfl

@[simp] theorem sub_x [Sub α] (u v : Vec2 α) : (u - v).x = u.x - v.x := rfl

@[simp] theorem sub_y [Sub α] (u v : Vec2 α) : (u - v).y = u.y - v.y := rfl

@[simp] theorem smul_x [Mul α] (k : α) (v : Vec2 α) : (k • v).x = k * v.x := rfl

@[simp] theorem smul_y [Mul α] (k : α) (v : Vec2 α) : (k • v).y = k * v.y := rfl

/-- The centre of the stage. -/
def origin [Scalar α] : Vec2 α := ⟨0.0, 0.0⟩

end Vec2

/-! ## Boxes -/

/-- A box with its sides parallel to the axes. -/
structure Bounds (α : Type) where
  left : α
  right : α
  top : α
  bottom : α
  deriving DecidableEq, Repr

namespace Bounds

variable {α : Type}

/-- The box of a given size around a centre. -/
def centered [Scalar α] (center size : Vec2 α) : Bounds α where
  left := center.x - size.x / 2.0
  right := center.x + size.x / 2.0
  top := center.y + size.y / 2.0
  bottom := center.y - size.y / 2.0

/-- The same box, moved. -/
def translate [Add α] (box : Bounds α) (offset : Vec2 α) : Bounds α where
  left := box.left + offset.x
  right := box.right + offset.x
  top := box.top + offset.y
  bottom := box.bottom + offset.y

end Bounds

/-! ## Headings -/

variable {α : Type} [Scalar α]

/-- Moves `n` by a whole number of turns into the range from `lo` to `hi`. Both ends count as
places of the range, so one turn is `hi - lo + 1` long. -/
def wrap (n lo hi : α) : α :=
  let turn := hi - lo + 1.0
  n - Scalar.floor ((n - lo) / turn) * turn

namespace Heading

/-- A heading reduced to one turn of 360 degrees. -/
def normalize (heading : α) : α := wrap heading (-179.0) 180.0

/-- The unit vector that a heading points along. -/
def vector (heading : α) : Vec2 α :=
  let angle := radians (90.0 - heading)
  ⟨Scalar.cos angle, Scalar.sin angle⟩

/-- The heading that leads from one point to another. -/
def towards (source goal : Vec2 α) : α :=
  let way := goal - source
  90.0 - degrees (Scalar.atan2 way.y way.x)

end Heading

/-! ## The playfield -/

/-- The rectangle in which sprites move, centred on the origin. -/
structure Playfield (α : Type) where
  width : α
  height : α
  deriving DecidableEq, Repr

/-- What to add to the interval from `a` to `b` so that it no longer reaches below `lo`, nor above
`hi`. Where it sticks out on both sides, both corrections are added. -/
def nudge (lo hi a b : α) : α :=
  (if a < lo then lo - a else 0.0) + (if hi < b then hi - b else 0.0)

namespace Playfield

/-- The usual stage, 480 by 360. -/
def standard : Playfield α := ⟨480.0, 360.0⟩

instance : Inhabited (Playfield α) := ⟨standard⟩

/-- The distances from the centre to the sides. -/
def half (field : Playfield α) : Vec2 α := ⟨field.width / 2.0, field.height / 2.0⟩

/-- The playfield as a box. -/
def bounds (field : Playfield α) : Bounds α := .centered .origin ⟨field.width, field.height⟩

/-- Where the owner of `box` has to be so that the box stays inside the playfield, if the owner is
at `current` and wants to go to `goal`. -/
def fence (field : Playfield α) (box : Bounds α) (current goal : Vec2 α) : Vec2 α :=
  let room := field.bounds
  let moved := box.translate (goal - current)
  goal + ⟨nudge room.left room.right moved.left moved.right,
    nudge room.bottom room.top moved.bottom moved.top⟩

end Playfield

end StageMotion
