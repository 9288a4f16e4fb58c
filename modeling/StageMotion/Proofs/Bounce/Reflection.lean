import Mathlib.Algebra.Group.ModEq
import Mathlib.Analysis.SpecialFunctions.Trigonometric.Angle
import StageMotion.Bounce
import StageMotion.Proofs.Bounce.Fence
import StageMotion.Proofs.Heading.Range

/-!
# Reflection

The directions of headings, with the exact elementary functions. A heading and the same heading
some full turns later point along one vector (`Heading.vector_normalize`), and the heading along a
direction points along that direction, scaled to length one (`Heading.vector_along`). What an edge
does to the vector of a heading is `Edge.reflect`: it keeps the part along the edge and turns the
part across it inward, where it is at least `minDeflection` (`Edge.deflect_eq`).

So what comes off an edge is turned as a ray is at a mirror, as long as it did not slide along the
edge. Two headings are the same way up to full turns (`Heading.vector_eq_iff`), so the law can be
said of headings as well: something that faced the edge is turned to the mirror image of its heading
(`Edge.vector_mirror`), and something that faced away goes on as it was (`reflection_law`).
-/

namespace StageMotion

open Real

/-! ## Vectors of headings -/

theorem radians_eq (x : ℝ) : radians x = x * (π / 180) := by
  change x * (π / 180.0) = _
  norm_num

theorem degrees_eq (x : ℝ) : degrees x = x * (180 / π) := by
  change x * (180.0 / π) = _
  norm_num

namespace Heading

theorem vector_eq (heading : ℝ) : vector heading =
    ⟨cos ((90 - heading) * (π / 180)), sin ((90 - heading) * (π / 180))⟩ := by
  have h : radians (90.0 - heading) = (90 - heading) * (π / 180) := by
    rw [radians_eq]
    norm_num
  unfold vector
  rw [h]
  rfl

/-- Full turns do not change where a heading points. -/
theorem vector_add_turns (heading : ℝ) (turns : ℤ) :
    vector (heading + turns * 360) = vector heading := by
  have h : (90 - (heading + turns * 360)) * (π / 180) =
      (90 - heading) * (π / 180) - turns * (2 * π) := by
    ring
  rw [vector_eq, vector_eq, h, cos_sub_int_mul_two_pi, sin_sub_int_mul_two_pi]

theorem vector_normalize (heading : ℝ) : vector (normalize heading) = vector heading := by
  obtain ⟨-, turns, h⟩ := normalize_eq_iff.mp (rfl : normalize heading = _)
  conv_rhs => rw [h, vector_add_turns]

theorem vector_dot_self (heading : ℝ) : (vector heading).dot (vector heading) = 1 := by
  rw [vector_eq, Vec2.dot, ← sq, ← sq]
  exact cos_sq_add_sin_sq _

end Heading

/-! ## Headings along directions -/

namespace Vec2

/-- The Euclidean length. -/
noncomputable def length (v : Vec2 ℝ) : ℝ := √(v.dot v)

/-- The vector scaled to length one. -/
noncomputable def normalized (v : Vec2 ℝ) : Vec2 ℝ := v.length⁻¹ • v

/-- The vector in axes of which the second points the other way. -/
def flip (v : Vec2 ℝ) : Vec2 ℝ := ⟨v.x, -v.y⟩

theorem length_flip (v : Vec2 ℝ) : v.flip.length = v.length := by
  simp [length, flip, dot]

theorem normalized_flip (v : Vec2 ℝ) : v.flip.normalized = v.normalized.flip := by
  rw [normalized, normalized, length_flip]
  ext
  · rfl
  · exact mul_neg _ _

theorem normalized_dot (v w : Vec2 ℝ) : v.normalized.dot w = v.dot w / v.length := by
  rw [normalized, smul_dot, div_eq_inv_mul]

end Vec2

/-- A vector scaled to length one is the point of the unit circle at its angle. -/
theorem Vec2.normalized_eq {v : Vec2 ℝ} (h : v.x ≠ 0 ∨ v.y ≠ 0) :
    v.normalized = ⟨cos (Scalar.atan2 v.y v.x), sin (Scalar.atan2 v.y v.x)⟩ := by
  change v.normalized = ⟨cos (Complex.arg ⟨v.x, v.y⟩), sin (Complex.arg ⟨v.x, v.y⟩)⟩
  set z : ℂ := ⟨v.x, v.y⟩ with hz
  have hne : z ≠ 0 := by
    intro h0
    rw [Complex.ext_iff] at h0
    rcases h with h | h
    · exact h h0.1
    · exact h h0.2
  have hnorm : ‖z‖ = v.length := by
    rw [Complex.norm_def, Complex.normSq_mk]
    rfl
  rw [Complex.cos_arg hne, Complex.sin_arg, hnorm]
  ext
  · exact (div_eq_inv_mul _ _).symm
  · exact (div_eq_inv_mul _ _).symm

namespace Heading

/-- A heading counts clockwise from straight up, and its vector anticlockwise from the right. -/
theorem vector_sub_degrees (angle : ℝ) :
    vector (90.0 - degrees angle) = ⟨cos angle, sin angle⟩ := by
  have h : (90 - (90.0 - degrees angle)) * (π / 180) = angle := by
    rw [degrees_eq]
    field_simp
    norm_num
  rw [vector_eq, h]

/-- The heading along a direction points along it. -/
theorem vector_along {direction : Vec2 ℝ} (h : direction.x ≠ 0 ∨ direction.y ≠ 0) :
    vector (headingAlong direction) = direction.flip.normalized := by
  have hangle : headingAlong direction =
      90.0 - degrees (-Scalar.atan2 direction.y direction.x) := by
    rw [headingAlong, degrees_eq, degrees_eq]
    ring
  rw [hangle, vector_sub_degrees, cos_neg, sin_neg, Vec2.normalized_flip, Vec2.normalized_eq h,
    Vec2.flip]

end Heading

/-! ## Deflection -/

/-- A vector after it is turned away from an edge: the part across the edge points inward, with at
least the least deflection, and the part along the edge stays. -/
noncomputable def Edge.reflect (edge : Edge) (v : Vec2 ℝ) : Vec2 ℝ :=
  v + (max minDeflection |v.dot edge.inward| - v.dot edge.inward) • edge.inward

theorem minDeflection_eq [Elementary] : (minDeflection : ℝ) = 1 / 5 := by
  unfold minDeflection
  norm_num

namespace Edge

theorem deflect_eq (edge : Edge) (heading : ℝ) :
    (edge.deflect heading).flip = edge.reflect (Heading.vector heading) := by
  have habs : ∀ x : ℝ, Scalar.abs x = |x| := fun _ => rfl
  cases edge <;> ext <;>
    simp [deflect, reflect, inward, Heading.vector, Vec2.flip, Vec2.dot, atLeast_eq_max, habs]

theorem reflect_dot_inward (edge : Edge) (v : Vec2 ℝ) :
    (edge.reflect v).dot edge.inward = max minDeflection |v.dot edge.inward| := by
  cases edge <;> simp [reflect, inward, Vec2.dot]

/-- A deflected direction is never without direction. -/
theorem deflect_ne_zero (edge : Edge) (heading : ℝ) :
    (edge.deflect heading).x ≠ 0 ∨ (edge.deflect heading).y ≠ 0 := by
  by_contra! h
  have hdot := edge.reflect_dot_inward (Heading.vector heading)
  have hle := le_max_left minDeflection |(Heading.vector heading).dot edge.inward|
  rw [← hdot, ← deflect_eq, Vec2.flip, h.1, h.2, minDeflection_eq] at hle
  simp only [Vec2.dot, zero_mul, neg_zero, add_zero] at hle
  norm_num at hle

/-- Off an edge the heading points along the deflected vector. -/
theorem vector_headingAlong_deflect (edge : Edge) (heading : ℝ) :
    Heading.vector (headingAlong (edge.deflect heading)) =
      (edge.reflect (Heading.vector heading)).normalized := by
  rw [Heading.vector_along (edge.deflect_ne_zero heading), deflect_eq]

theorem reflect_dot_self (edge : Edge) (v : Vec2 ℝ) :
    (edge.reflect v).dot (edge.reflect v) =
      v.dot v - v.dot edge.inward ^ 2 + (max minDeflection |v.dot edge.inward|) ^ 2 := by
  cases edge <;> simp only [reflect, inward, Vec2.dot, Vec2.add_x, Vec2.add_y, Vec2.smul_x,
    Vec2.smul_y] <;> ring

/-- What comes off an edge at unit speed leaves it at least as fast as what slid along it. -/
theorem reflect_speed {edge : Edge} {v : Vec2 ℝ} (hv : v.dot v = 1) :
    0.2 / √1.04 ≤ (edge.reflect v).normalized.dot edge.inward := by
  set s := v.dot edge.inward with hs
  set c := max minDeflection |s| with hc
  have hc₀ : 1 / 5 ≤ c := minDeflection_eq.symm.trans_le (le_max_left _ _)
  have hself : (edge.reflect v).dot (edge.reflect v) = 1 - s ^ 2 + c ^ 2 := by
    rw [reflect_dot_self, hv]
  have hdot : (edge.reflect v).normalized.dot edge.inward = c / (edge.reflect v).length := by
    rw [Vec2.normalized_dot, edge.reflect_dot_inward v]
  have hs₁ : s ^ 2 ≤ c ^ 2 := sq_le_sq' (by linarith [neg_abs_le s, le_max_right minDeflection |s|])
    ((le_abs_self s).trans (le_max_right _ _))
  have hpos : 0 < (edge.reflect v).length := Real.sqrt_pos_of_pos (by rw [hself]; linarith)
  have hsq : (edge.reflect v).length ^ 2 = 1 - s ^ 2 + c ^ 2 := by
    rw [Vec2.length, Real.sq_sqrt (by rw [hself]; linarith), hself]
  have hroot : (√1.04 : ℝ) ^ 2 = 1.04 := Real.sq_sqrt (by norm_num)
  rw [hdot, div_le_div_iff₀ (Real.sqrt_pos_of_pos (by norm_num)) hpos,
    ← sq_le_sq₀ (by positivity) (by positivity), mul_pow, mul_pow, hsq, hroot]
  nlinarith [sq_nonneg s]

end Edge

/-! ## Mirror images -/

theorem Vec2.normalized_of_dot_self {v : Vec2 ℝ} (h : v.dot v = 1) : v.normalized = v := by
  rw [normalized, length, h, sqrt_one, inv_one]
  ext <;> simp

/-- Two headings point the same way exactly if they differ by full turns. -/
theorem Heading.vector_eq_iff {heading other : ℝ} :
    vector heading = vector other ↔ heading ≡ other [PMOD 360] := by
  rw [AddCommGroup.modEq_iff_eq_add_zsmul]
  constructor
  · intro h
    rw [vector_eq, vector_eq, Vec2.mk.injEq] at h
    obtain ⟨turns, hturns⟩ :=
      Real.Angle.angle_eq_iff_two_pi_dvd_sub.mp (Real.Angle.cos_sin_inj h.1 h.2)
    refine ⟨turns, ?_⟩
    field_simp at hturns
    rw [zsmul_eq_mul]
    linarith
  · rintro ⟨turns, rfl⟩
    rw [zsmul_eq_mul, vector_add_turns]

namespace Edge

/-- The direction along an edge. -/
def along : Edge → Vec2 ℝ
  | .left | .right => ⟨0, 1⟩
  | .top | .bottom => ⟨1, 0⟩

theorem reflect_dot_along (edge : Edge) (v : Vec2 ℝ) :
    (edge.reflect v).dot edge.along = v.dot edge.along := by
  cases edge <;> simp [reflect, inward, along, Vec2.dot]

/-- The mirror image of a heading in an edge. -/
def mirror : Edge → ℝ → ℝ
  | .left, heading | .right, heading => -heading
  | .top, heading | .bottom, heading => 180 - heading

/-- The mirror image points along the edge as before, and across it the other way. -/
theorem vector_mirror (edge : Edge) (heading : ℝ) : Heading.vector (edge.mirror heading) =
    Heading.vector heading +
      (-2 * (Heading.vector heading).dot edge.inward) • edge.inward := by
  have hside : (90 - -heading) * (π / 180) = π - (90 - heading) * (π / 180) := by ring
  have hlevel : (90 - (180 - heading)) * (π / 180) = -((90 - heading) * (π / 180)) := by ring
  cases edge <;> simp only [mirror, Heading.vector_eq, hside, hlevel, cos_pi_sub, sin_pi_sub,
    cos_neg, sin_neg] <;> ext <;> simp [inward, Vec2.dot] <;> ring

variable {edge : Edge} {v : Vec2 ℝ}

theorem reflect_of_inward (h : 1 / 5 ≤ v.dot edge.inward) : edge.reflect v = v := by
  have hpos : 0 ≤ v.dot edge.inward := by linarith
  rw [reflect, minDeflection_eq, abs_of_nonneg hpos, max_eq_right h, sub_self]
  ext <;> simp

theorem reflect_of_outward (h : v.dot edge.inward ≤ -(1 / 5)) :
    edge.reflect v = v + (-2 * v.dot edge.inward) • edge.inward := by
  have hneg : v.dot edge.inward ≤ 0 := by linarith
  rw [reflect, minDeflection_eq, abs_of_nonpos hneg, max_eq_right (by linarith)]
  congr 2
  ring

end Edge

/-- **The law of reflection**: the heading off an edge points along the vector that has the part of
the old one along the edge, and across it, inward, as much as the old one had either way, but
`0.2` at the least. So if the old one had that much, then one that led inward is kept, up to full
turns, and one that led outward becomes its mirror image. -/
theorem reflection_law (edge : Edge) (heading : ℝ) :
    let v := Heading.vector heading
    let bounced := headingAlong (edge.deflect heading)
    (∃ u : Vec2 ℝ, u.dot edge.along = v.dot edge.along ∧
      u.dot edge.inward = max |v.dot edge.inward| 0.2 ∧
      Heading.vector bounced = u.normalized) ∧
    (0.2 ≤ |v.dot edge.inward| →
      (0 < v.dot edge.inward → bounced ≡ heading [PMOD 360]) ∧
      (v.dot edge.inward < 0 → bounced ≡ edge.mirror heading [PMOD 360])) := by
  intro v bounced
  have hbounced : Heading.vector bounced = (edge.reflect v).normalized :=
    edge.vector_headingAlong_deflect heading
  refine ⟨⟨edge.reflect v, edge.reflect_dot_along v, ?_, hbounced⟩, fun hsteep => ?_⟩
  · rw [edge.reflect_dot_inward, minDeflection_eq, max_comm]
    norm_num
  have hfifth : (0.2 : ℝ) = 1 / 5 := by norm_num
  rw [hfifth] at hsteep
  rw [← Heading.vector_eq_iff, ← Heading.vector_eq_iff, hbounced]
  constructor
  · intro hin
    rw [abs_of_pos hin] at hsteep
    rw [Edge.reflect_of_inward hsteep, Vec2.normalized_of_dot_self (Heading.vector_dot_self _)]
  · intro hout
    rw [abs_of_neg hout] at hsteep
    have hreflect : edge.reflect v = v + (-2 * v.dot edge.inward) • edge.inward :=
      Edge.reflect_of_outward (by linarith)
    rw [hreflect, ← edge.vector_mirror, Vec2.normalized_of_dot_self (Heading.vector_dot_self _)]

/-- What runs down to the right onto the bottom edge leaves it up to the right. -/
theorem reflection_law_diagonal :
    let v := Heading.vector 135
    0.2 ≤ |v.dot Edge.bottom.inward| ∧ v.dot Edge.bottom.inward < 0 ∧
      headingAlong (Edge.bottom.deflect 135) ≡ 45 [PMOD (360 : ℝ)] := by
  intro v
  have hdot : v.dot Edge.bottom.inward = -(√2 / 2) := by
    have hangle : ((90 : ℝ) - 135) * (π / 180) = -(π / 4) := by ring
    simp [v, Heading.vector_eq, Vec2.dot, Edge.inward, hangle]
  have hroot : (1 : ℝ) ≤ √2 := Real.one_le_sqrt.mpr one_le_two
  have hneg : v.dot Edge.bottom.inward < 0 := by linarith
  have hsteep : 0.2 ≤ |v.dot Edge.bottom.inward| := by
    rw [abs_of_neg hneg, hdot]
    norm_num
    linarith
  have hmirror : Edge.bottom.mirror 135 = 45 := by norm_num [Edge.mirror]
  exact ⟨hsteep, hneg, hmirror ▸ ((reflection_law .bottom 135).2 hsteep).2 hneg⟩

end StageMotion
