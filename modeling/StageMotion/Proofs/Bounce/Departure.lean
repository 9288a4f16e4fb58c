import StageMotion.Proofs.Bounce.Edges
import StageMotion.Proofs.Bounce.Reflection

/-!
# Departure

A sprite that has bounced off an edge comes off it with its next move, however it ran into it: the
direction it is turned to leads away from the edge at a fixed part of its speed at least
(`Edge.reflect_speed`), also when it slid along the wall or sat in a corner, and the fence has put
it where no gap is negative. So the gap to that edge is open after the move, and a bounce block
that is run then names another edge or none (`bounce_departs`).
-/

namespace StageMotion

variable {γ : Type} [Draws γ ℝ] {size : Vec2 ℝ} {actor : Actor γ (Sprite ℝ) ℝ}

/-- What a bounce off an edge leaves: no gap is negative, and the heading leads away from the
edge. -/
theorem Sprite.Fits.bounce_turned (fits : actor.target.Fits size actor.palette.field)
    {bounce : Call ℝ} (hbounce : bounce.block = .bounceOnEdge) {edge : Edge}
    (hit : (actor.call bounce).edge? = some edge) :
    0 ≤ (Bounds.centered (actor.call bounce).target.position size).gap actor.palette.field edge ∧
      0.2 / √1.04 ≤ (Heading.vector (actor.call bounce).target.heading).dot edge.inward := by
  rcases fits.bounce_cases hbounce with ⟨hnone, -, -⟩ | ⟨edge', hsome, -, hheading, hposition⟩
  · rw [hnone] at hit
    cases hit
  obtain rfl : edge' = edge := Option.some.inj (hsome.symm.trans hit)
  constructor
  · rw [hposition]
    exact Bounds.inside_iff_gap.mp (fits.keepInFence_inside _) edge'
  · rw [hheading, Heading.vector_normalize, edge'.vector_headingAlong_deflect]
    exact Edge.reflect_speed (Heading.vector_dot_self _)

/-- **Departure**: if a bounce block names an edge, then after a move by any steps forward the
clearance of that edge is a fixed part of the steps at least, and a bounce block that is run next
does not name that edge again. -/
theorem bounce_departs (fits : actor.target.Fits size actor.palette.field)
    {bounce move again : Call ℝ} (hbounce : bounce.block = .bounceOnEdge) {edge : Edge}
    (hit : (actor.call bounce).edge? = some edge) {steps : ℝ} (hsteps : 0 < steps)
    (hmove : move.block = .move steps) (hagain : again.block = .bounceOnEdge) :
    let moved := (actor.call bounce).toActor.call move
    (∃ box, moved.target.bounds? = some box ∧
      steps * 0.2 / √1.04 ≤ box.clearance actor.palette.field edge ∧
      0 < box.clearance actor.palette.field edge) ∧
    (moved.toActor.call again).edge? ≠ some edge := by
  intro moved
  obtain ⟨hgap, hspeed⟩ := fits.bounce_turned hbounce hit
  set bounced := actor.call bounce
  have fitsMoved : moved.target.Fits size actor.palette.field :=
    Actor.call_keeps Sprite.Fits.keeps move (Actor.call_keeps Sprite.Fits.keeps bounce fits)
  have hfield : moved.palette.field = actor.palette.field := by
    rw [Actor.call_field, Actor.call_field]
  have hposition : moved.target.position =
      bounced.target.position + steps • Heading.vector bounced.target.heading := by
    simp only [moved, Actor.call, hmove]
    rfl
  -- the gap is what the fence left, and the part of the move that leads away from the edge
  have hopen : steps * 0.2 / √1.04 ≤
      (Bounds.centered moved.target.position size).gap actor.palette.field edge := by
    rw [hposition, ← Bounds.centered_translate, Bounds.gap_translate, Vec2.smul_dot, mul_div_assoc]
    have := mul_le_mul_of_nonneg_left hspeed hsteps.le
    linarith
  have hpos : (0 : ℝ) < steps * 0.2 / √1.04 :=
    div_pos (by linarith) (Real.sqrt_pos_of_pos (by norm_num))
  refine ⟨⟨_, fitsMoved.bounds?_eq, ?_, ?_⟩, fun hagainEdge => ?_⟩
  · rw [Bounds.clearance_eq]
    exact hopen.trans (le_max_right _ _)
  · rw [Bounds.clearance_eq]
    exact (hpos.trans_le hopen).trans_le (le_max_right _ _)
  · rw [← hfield] at fitsMoved hopen
    rcases fitsMoved.bounce_cases hagain with ⟨hnone, -, -⟩ | ⟨edge', hsome, hclosed, -, -⟩
    · rw [hnone] at hagainEdge
      cases hagainEdge
    · obtain rfl : edge' = edge := Option.some.inj (hsome.symm.trans hagainEdge)
      linarith

/-- A ball that slides up along the left wall, partly outside. -/
theorem bounce_departs_slider :
    let field : Playfield ℝ := .standard
    let slider : Sprite ℝ :=
      { Sprite.create "ball" (some ⟨20, 20⟩) field with position := ⟨-235, 0⟩, heading := 0 }
    let actor : Actor (ℕ → ℝ) (Sprite ℝ) ℝ := ⟨⟨field, fun _ => 0⟩, none, slider⟩
    let moment : Moment ℝ := ⟨Stage.empty.world, 0⟩
    let move : Call ℝ := ⟨.move 10, moment, none⟩
    let bounce : Call ℝ := ⟨.bounceOnEdge, moment, none⟩
    let moved := (actor.call bounce).toActor.call move
    slider.Fits ⟨20, 20⟩ field ∧ (actor.call bounce).edge? = some .left ∧ (0 : ℝ) < 10 ∧
      (∃ box, moved.target.bounds? = some box ∧
        10 * 0.2 / √1.04 ≤ box.clearance field .left ∧ 0 < box.clearance field .left) ∧
      (moved.toActor.call bounce).edge? ≠ some .left := by
  intro field slider actor moment move bounce moved
  have fits : actor.target.Fits ⟨20, 20⟩ actor.palette.field :=
    ⟨⟨rfl, rfl, rfl⟩, by norm_num, by norm_num [actor, field, Playfield.standard], by norm_num,
      by norm_num [actor, field, Playfield.standard]⟩
  have hleft : (Bounds.centered actor.target.position ⟨20, 20⟩).gap field .left = -5 := by
    norm_num [Bounds.gap, Bounds.centered_eq, actor, slider, field, Playfield.standard,
      Playfield.half_eq]
  have hopen : ∀ edge ≠ .left,
      0 < (Bounds.centered actor.target.position ⟨20, 20⟩).gap field edge := by
    intro edge hne
    cases edge with
    | left => exact absurd rfl hne
    | _ =>
      norm_num [Bounds.gap, Bounds.centered_eq, actor, slider, field, Playfield.standard,
        Playfield.half_eq]
  have hit : (actor.call bounce).edge? = some .left := by
    rcases fits.bounce_cases (c := bounce) rfl with ⟨-, -, hall⟩ | ⟨edge, hsome, hclosed, -, -⟩
    · have hleftOpen := hall .left
      rw [hleft] at hleftOpen
      norm_num at hleftOpen
    · by_cases hedge : edge = .left
      · exact hedge ▸ hsome
      · exact absurd hclosed (not_le.mpr (hopen edge hedge))
  exact ⟨fits, hit, by norm_num, bounce_departs fits rfl hit (by norm_num) rfl rfl⟩

end StageMotion
