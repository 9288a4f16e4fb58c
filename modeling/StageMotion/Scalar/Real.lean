import Mathlib.Analysis.SpecialFunctions.Complex.Arg
import StageMotion.Scalar

/-!
# The real numbers as scalars

Exact arithmetic: the reading of stage geometry in which nothing is rounded but what is rounded on
purpose. Every real number is finite. The elementary functions stand apart in a class of their own,
so that a law of motion can say how much of them it needs: it holds either of whatever functions a
library of numerics gives, or of the functions of analysis, which `Elementary.exact` names.
-/

namespace StageMotion

/-- A half turn in radians and the functions of an angle, on the real numbers. -/
class Elementary where
  pi : ℝ
  sin : ℝ → ℝ
  cos : ℝ → ℝ
  atan2 : ℝ → ℝ → ℝ

/-- The functions of analysis. The angle of a point is the argument of a complex number. -/
noncomputable instance Elementary.exact : Elementary where
  pi := Real.pi
  sin := Real.sin
  cos := Real.cos
  atan2 y x := Complex.arg ⟨x, y⟩

-- Of two general routes to an operation the one declared last is found first. Naming these two for
-- `ℝ` itself keeps division and decimals those of the field once `ℝ` is a scalar as well.
noncomputable instance fieldDiv : Div ℝ := DivInvMonoid.toDiv

noncomputable instance fieldDecimal : OfScientific ℝ := NNRatCast.toOfScientific

noncomputable instance [Elementary] : Scalar ℝ where
  pi := Elementary.pi
  floor x := ⌊x⌋
  round x := if 0 ≤ x then ⌊x + 1 / 2⌋ else ⌈x - 1 / 2⌉
  abs x := |x|
  sin := Elementary.sin
  cos := Elementary.cos
  atan2 := Elementary.atan2
  isFinite _ := true

theorem atLeast_eq_max [Elementary] (floor x : ℝ) : atLeast floor x = max floor x := by
  unfold atLeast
  split_ifs with h
  · exact (max_eq_right h.le).symm
  · exact (max_eq_left (not_lt.mp h)).symm

end StageMotion
