import Std.Data.ExtTreeMap
import StageMotion.Geometry

/-!
# The stage and its places

A `World` is what can be pointed at, seen at one moment: the pointer, and the places of the sprites
that there are. `Stage` is the world of a set of named places that can be set and removed.

A `Destination` is what a block can be told to go to or to face, before it is looked up. Menus name
the pointer and a random place by entries of their own; every other entry is the name of a sprite.
-/

namespace StageMotion

/-- What can be pointed at, seen at one moment. -/
structure World (α : Type) where
  pointer : Vec2 α
  /-- The place of the sprite with a given name, if there is one. -/
  spriteAt? : String → Option (Vec2 α)

/-- A pointer and places of named sprites. -/
structure Stage (α : Type) where
  pointer : Vec2 α
  places : Std.ExtTreeMap String (Vec2 α)

namespace Stage

variable {α : Type}

/-- A stage without sprites, the pointer at its centre. -/
def empty [Scalar α] : Stage α := ⟨.origin, ∅⟩

/-- Adds a sprite, or moves it. -/
def place (stage : Stage α) (name : String) (position : Vec2 α) : Stage α :=
  { stage with places := stage.places.insert name position }

/-- A stage after a sprite was taken off, and the place where the sprite was, if it was there. -/
structure Removal (α : Type) extends Stage α where
  position? : Option (Vec2 α)

instance : Coe (Removal α) (Stage α) := ⟨Removal.toStage⟩

/-- Takes a sprite off the stage. -/
def remove (stage : Stage α) (name : String) : Removal α :=
  { stage with places := stage.places.erase name, position? := stage.places[name]? }

/-- What there is to see on the stage. -/
def world (stage : Stage α) : World α := ⟨stage.pointer, fun name => stage.places[name]?⟩

theorem world_place (stage : Stage α) (name other : String) (position : Vec2 α) :
    (stage.place name position).world.spriteAt? other =
      if name = other then some position else stage.world.spriteAt? other := by
  simp [world, place, Std.ExtTreeMap.getElem?_insert]

theorem position?_remove (stage : Stage α) (name : String) :
    (stage.remove name).position? = stage.world.spriteAt? name := rfl

theorem world_remove (stage : Stage α) (name other : String) :
    (stage.remove name).world.spriteAt? other =
      if name = other then none else stage.world.spriteAt? other := by
  simp [world, remove, Std.ExtTreeMap.getElem?_erase]

end Stage

/-! ## Destinations -/

/-- A place named by what is there. -/
inductive Destination
  | pointer
  | random
  | named (name : String)
  deriving DecidableEq, Repr

namespace Destination

/-- The menu entry of the pointer. -/
def pointerEntry : String := "_mouse_"

/-- The menu entry of a random place. -/
def randomEntry : String := "_random_"

/-- The destination of a menu entry. -/
def ofMenu (entry : String) : Destination :=
  if entry = pointerEntry then pointer
  else if entry = randomEntry then random
  else named entry

end Destination

end StageMotion
