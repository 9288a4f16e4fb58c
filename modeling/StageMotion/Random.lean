import StageMotion.Geometry

/-!
# Random places and headings

A source of random numbers is a value: drawing gives a number and the source that draws the next
one. Places and headings are made from numbers between zero and one by scaling and rounding to whole
units: a place takes two draws, the horizontal one first, and a heading takes one.

* `Draws` : the sources;
* `Draws.skip` : the source after a number of draws;
* `Playfield.randomPoint`, `Heading.random` : places and headings.
-/

namespace StageMotion

/-! ## Draws -/

/-- Sources of numbers spread evenly over the interval from `0` to `1`, with `1` left out. -/
class Draws (γ : Type) (α : outParam Type) where
  draw : γ → α × γ

namespace Draws

/-- A sequence of numbers is a source that gives them in order. -/
instance {α : Type} : Draws (Nat → α) α := ⟨fun source => (source 0, fun n => source (n + 1))⟩

variable {γ α : Type} [Draws γ α]

/-- The source that is left after `n` draws. -/
def skip : Nat → γ → γ
  | 0, source => source
  | n + 1, source => skip n (draw source).2

@[simp] theorem skip_zero (source : γ) : skip 0 source = source := rfl

theorem skip_add (m n : Nat) (source : γ) : skip (m + n) source = skip n (skip m source) := by
  induction m generalizing source with
  | zero => simp
  | succ m ih => rw [Nat.succ_add]; exact ih _

end Draws

/-! ## Places and headings -/

variable {α : Type} [Scalar α]

/-- The whole-unit point at the fractions `u` of the width and `v` of the height. -/
def Playfield.pointAt (field : Playfield α) (u v : α) : Vec2 α :=
  ⟨Scalar.round (field.width * (u - 0.5)), Scalar.round (field.height * (v - 0.5))⟩

/-- The whole-degree heading at the fraction `u` of a turn that starts from straight down. -/
def Heading.atFraction (u : α) : α := Scalar.round (u * 360.0) - 180.0

variable {γ : Type} [Draws γ α]

/-- A random point of the playfield. -/
def Playfield.randomPoint (field : Playfield α) (source : γ) : Vec2 α × γ :=
  let (u, source) := Draws.draw source
  let (v, source) := Draws.draw source
  (field.pointAt u v, source)

/-- A random heading. -/
def Heading.random (source : γ) : α × γ :=
  let (u, source) := Draws.draw source
  (Heading.atFraction u, source)

end StageMotion
