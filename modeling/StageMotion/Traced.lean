import StageMotion.Movable

/-!
# Traced targets

A target together with the record of every position and heading it was told to take, as it was
told. The record shows what a block did even where the target corrects or ignores it.
-/

namespace StageMotion

/-- One change that a target was told to make. -/
inductive Change (α : Type)
  | position (goal : Vec2 α)
  | heading (degrees : α)
  deriving DecidableEq, Repr

/-- A target and the changes that it was told to make, in order. -/
structure Traced (τ α : Type) where
  target : τ
  changes : List (Change α)

namespace Traced

variable {τ α : Type}

/-- A target with an empty record. -/
def fresh (target : τ) : Traced τ α := ⟨target, []⟩

instance [Movable τ α] : Movable (Traced τ α) α where
  position traced := Movable.position traced.target
  setPosition traced goal :=
    ⟨Movable.setPosition traced.target goal, traced.changes ++ [.position goal]⟩
  heading traced := Movable.heading traced.target
  setHeading traced degrees :=
    ⟨Movable.setHeading traced.target degrees, traced.changes ++ [.heading degrees]⟩
  bounds? traced := Movable.bounds? traced.target
  keepInFence traced := Movable.keepInFence traced.target
  rotationStyle traced := Movable.rotationStyle traced.target
  setRotationStyle traced style :=
    { traced with target := Movable.setRotationStyle traced.target style }

end Traced

end StageMotion
