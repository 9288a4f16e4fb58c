/-!
# Scalars

The numbers that coordinates, angles and times are made of. Everything geometric in this library
is written once over a `Scalar`, so that one definition has both readings: with binary
floating-point numbers it is what runs, and with the real numbers it is what the exact laws of
motion are about. A scalar carries no laws of its own.

* `Scalar` : arithmetic, a decidable order, the elementary functions and a test for finiteness;
* `radians`, `degrees` : the two angle units;
* `atLeast` : a value, but not less than a floor;
* `snap` : a value, or the whole number it all but equals.
-/

namespace StageMotion

/-- The operations that geometry asks of its numbers. -/
class Scalar (α : Type) extends Add α, Sub α, Mul α, Div α, Neg α, OfScientific α, LT α, LE α where
  [decidableLT : DecidableLT α]
  [decidableLE : DecidableLE α]
  pi : α
  /-- The greatest whole number that is not above the argument. -/
  floor : α → α
  /-- The nearest whole number, a half going away from zero. -/
  round : α → α
  abs : α → α
  sin : α → α
  cos : α → α
  /-- `atan2 y x` is the angle of the point `(x, y)` in radians, in the half-open turn `(-π, π]`. -/
  atan2 : α → α → α
  isFinite : α → Bool

attribute [reducible, instance] Scalar.decidableLT Scalar.decidableLE

instance : Scalar Float where
  pi := 3.141592653589793
  floor := Float.floor
  round := Float.round
  abs := Float.abs
  sin := Float.sin
  cos := Float.cos
  atan2 := Float.atan2
  isFinite := Float.isFinite

variable {α : Type} [Scalar α]

/-- An angle in degrees, converted to radians. -/
def radians (x : α) : α := x * (Scalar.pi / 180.0)

/-- An angle in radians, converted to degrees. -/
def degrees (x : α) : α := x * (180.0 / Scalar.pi)

/-- `x` where it is above `floor`, and `floor` everywhere else, also where `x` compares with
nothing. -/
def atLeast (floor x : α) : α := if floor < x then x else floor

/-- How close a coordinate has to be to a whole number to be reported as that number. -/
def snapDistance : α := 1e-9

/-- The nearest whole number, if only rounding noise separates `x` from it, and otherwise `x`. -/
def snap (x : α) : α :=
  let whole := Scalar.round x
  if Scalar.abs (x - whole) < snapDistance then whole else x

end StageMotion
