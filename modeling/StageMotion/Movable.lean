import StageMotion.Geometry

/-!
# Things that move

`Movable` is all that motion knows of the things it moves: where they are, which way they head, how
much room they take, and how to change the first two. It has no laws: a target is free to correct
or to ignore what it is told. `readX` and `readY` are the coordinates that a program is shown.

A `Sprite` is such a thing. It has a name, a place, a heading and, if it wears one, a costume whose
size gives it bounds. It is fenced into a playfield of its own. Its heading is kept reduced to one
turn by `Sprite.setHeading`, which ignores what is no number of degrees.
-/

namespace StageMotion

/-! ## Rotation styles -/

/-- How the costume of a sprite follows its heading. Programs name a style by the words of the
menu. -/
inductive RotationStyle
  | allAround
  | leftRight
  | dontRotate
  deriving DecidableEq, Repr

namespace RotationStyle

/-- The menu entry of a style. -/
def name : RotationStyle → String
  | allAround => "all around"
  | leftRight => "left-right"
  | dontRotate => "don't rotate"

/-- The style of a menu entry. -/
def ofName? : String → Option RotationStyle
  | "all around" => some allAround
  | "left-right" => some leftRight
  | "don't rotate" => some dontRotate
  | _ => none

theorem ofName?_name (style : RotationStyle) : ofName? style.name = some style := by
  cases style <;> rfl

end RotationStyle

/-! ## Targets -/

/-- What motion can ask of a target and do to it. Targets without a rotation style of their own
leave out the last two operations. -/
class Movable (τ : Type) (α : outParam Type) where
  position : τ → Vec2 α
  setPosition : τ → Vec2 α → τ
  heading : τ → α
  setHeading : τ → α → τ
  /-- The room that the target takes, if it has any visible shape. -/
  bounds? : τ → Option (Bounds α)
  /-- The place nearest to the given one that keeps the target on its stage. -/
  keepInFence : τ → Vec2 α → Vec2 α
  rotationStyle : τ → RotationStyle := fun _ => .allAround
  setRotationStyle : τ → RotationStyle → τ := fun target _ => target

namespace Movable

variable {τ α : Type} [Scalar α] [Movable τ α]

/-- The horizontal coordinate as programs see it, without rounding noise. -/
def readX (target : τ) : α := snap (position target).x

/-- The vertical coordinate as programs see it, without rounding noise. -/
def readY (target : τ) : α := snap (position target).y

end Movable

/-! ## Sprites -/

/-- A sprite on the stage. -/
structure Sprite (α : Type) where
  name : String
  position : Vec2 α
  heading : α
  rotationStyle : RotationStyle
  /-- The size of the costume, if the sprite wears one. -/
  costume : Option (Vec2 α)
  visible : Bool
  field : Playfield α
  deriving DecidableEq, Repr

namespace Sprite

variable {α : Type} [Scalar α]

/-- A visible sprite at the centre of the stage that faces right. -/
def create (name : String) (costume : Option (Vec2 α)) (field : Playfield α) : Sprite α where
  name := name
  position := .origin
  heading := 90.0
  rotationStyle := .allAround
  costume := costume
  visible := true
  field := field

/-- Turns the sprite to a heading; an infinite or undefined one leaves it as it is. -/
def setHeading (sprite : Sprite α) (heading : α) : Sprite α :=
  if Scalar.isFinite heading then { sprite with heading := Heading.normalize heading } else sprite

/-- The box of the costume. A hidden sprite, and one without a costume, has none. -/
def bounds? (sprite : Sprite α) : Option (Bounds α) :=
  if sprite.visible then sprite.costume.map (Bounds.centered sprite.position) else none

/-- The place nearest to `goal` at which the sprite is inside its playfield. -/
def keepInFence (sprite : Sprite α) (goal : Vec2 α) : Vec2 α :=
  match sprite.bounds? with
  | some box => sprite.field.fence box sprite.position goal
  | none => goal

instance : Movable (Sprite α) α where
  position := Sprite.position
  setPosition sprite position := { sprite with position }
  heading := Sprite.heading
  setHeading := Sprite.setHeading
  bounds? := Sprite.bounds?
  keepInFence := Sprite.keepInFence
  rotationStyle := Sprite.rotationStyle
  setRotationStyle sprite rotationStyle := { sprite with rotationStyle }

end Sprite

end StageMotion
