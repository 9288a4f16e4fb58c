import StageMotion.Proofs.Block.Lookup
import StageMotion.Proofs.Bounce.Reflection

/-!
# Pointing and moving

To face a point and to move are two readings of one angle. The heading towards a point is the angle
of the way there, counted from straight up and clockwise; moving takes the vector of the heading,
counted from the right and anticlockwise. The two conventions cancel: the vector of the heading
towards a point, as many steps long as the way, is the way (`Heading.length_smul_vector_towards`),
also where there is no way to go. So a sprite that faces a point and moves goes straight to it, or
as far along the way, or against it, as it is told (`pointing_leads`).
-/

namespace StageMotion

open Real

/-! ## The way to a point -/

namespace Vec2

theorem mul_smul (k l : ℝ) (v : Vec2 ℝ) : (k * l) • v = k • l • v := by
  ext
  · exact mul_assoc k l v.x
  · exact mul_assoc k l v.y

theorem length_smul_normalized {v : Vec2 ℝ} (h : v.x ≠ 0 ∨ v.y ≠ 0) :
    v.length • v.normalized = v := by
  have hself : 0 < v.dot v := by
    rcases h with hx | hy
    · exact add_pos_of_pos_of_nonneg (mul_self_pos.mpr hx) (mul_self_nonneg _)
    · exact add_pos_of_nonneg_of_pos (mul_self_nonneg _) (mul_self_pos.mpr hy)
  have hlength : v.length ≠ 0 := (Real.sqrt_pos.mpr hself).ne'
  rw [normalized]
  ext
  · exact mul_inv_cancel_left₀ hlength v.x
  · exact mul_inv_cancel_left₀ hlength v.y

end Vec2

namespace Heading

theorem vector_towards {source goal : Vec2 ℝ}
    (h : (goal - source).x ≠ 0 ∨ (goal - source).y ≠ 0) :
    vector (towards source goal) = (goal - source).normalized := by
  rw [towards, vector_sub_degrees, Vec2.normalized_eq h]

/-- The vector towards a point, as long as the way there, is the way. -/
theorem length_smul_vector_towards (source goal : Vec2 ℝ) :
    (goal - source).length • vector (towards source goal) = goal - source := by
  by_cases h : (goal - source).x ≠ 0 ∨ (goal - source).y ≠ 0
  · rw [vector_towards h, Vec2.length_smul_normalized h]
  · -- there is no way to go, and whatever the heading is, no step is made
    push Not at h
    have hlength : (goal - source).length = 0 := by
      rw [Vec2.length, Vec2.dot, h.1, h.2]
      simp
    rw [hlength]
    ext
    · rw [Vec2.smul_x, zero_mul, h.1]
    · rw [Vec2.smul_y, zero_mul, h.2]

end Heading

/-! ## Sprites -/

/-- **Pointing leads there**: a sprite that faces what its destination is found at, and then moves
by the length of the way, is at that point; and moved by any part of the length, it is that part of
the way from where it was. -/
theorem pointing_leads {γ : Type} [Draws γ ℝ] {actor : Actor γ (Sprite ℝ) ℝ} {goal : Destination}
    (hgoal : goal ≠ .random) {face : Call ℝ} (hface : face.block = .pointTowards goal)
    {point : Vec2 ℝ}
    (hfound : (actor.palette.lookUp face.moment.world goal).point? = some point) :
    let start := actor.target.position
    let faced := (actor.call face).toActor
    (∀ move : Call ℝ, move.block = .move (point - start).length →
      (faced.call move).target.position = point) ∧
    ∀ (part : ℝ) (move : Call ℝ), move.block = .move (part * (point - start).length) →
      (faced.call move).target.position = start + part • (point - start) := by
  intro start faced
  have hfaced : faced.target = actor.target.setHeading (Heading.towards start point) := by
    let lent : Actor γ (Sprite ℝ) ℝ := { actor with slot := face.slot }
    have hturn : actor.call face = (Block.pointTowards goal).tick face.moment lent := by
      rw [Actor.call, hface]
    have hlent : (lent.palette.lookUp face.moment.world goal).point? = some point := hfound
    simp only [faced, hturn, Block.pointTowards_of_found hgoal hlent]
    rfl
  have hmoved : ∀ (steps : ℝ) (move : Call ℝ), move.block = .move steps →
      (faced.call move).target.position =
        start + steps • Heading.vector (Heading.towards start point) := by
    intro steps move hmove
    have hstep : (faced.call move).target.position =
        faced.target.position + steps • Heading.vector faced.target.heading :=
      congrArg Sprite.position (faced.call_move hmove)
    have hheading : faced.target.heading = Heading.normalize (Heading.towards start point) := by
      rw [hfaced]
      rfl
    have hposition : faced.target.position = start := by
      rw [hfaced]
      rfl
    rw [hstep, hheading, hposition, Heading.vector_normalize]
  refine ⟨fun move hmove => ?_, fun part move hmove => ?_⟩
  · rw [hmoved _ move hmove, Heading.length_smul_vector_towards, Vec2.add_sub_self]
  · rw [hmoved _ move hmove, Vec2.mul_smul, Heading.length_smul_vector_towards]

/-- A cat that faces a dog five steps away, down to the left, and goes to it, or backs away. -/
theorem pointing_leads_dog :
    let stage : Stage ℝ := Stage.empty.place "dog" ⟨-2, -2⟩
    let cat : Sprite ℝ := { Sprite.create "cat" none .standard with position := ⟨1, 2⟩ }
    let actor : Actor (ℕ → ℝ) (Sprite ℝ) ℝ := ⟨⟨.standard, fun _ => 0⟩, none, cat⟩
    let face : Call ℝ := ⟨.pointTowards (.named "dog"), ⟨stage.world, 0⟩, none⟩
    let move : ℝ → Call ℝ := fun steps => ⟨.move steps, ⟨stage.world, 0⟩, none⟩
    let faced := (actor.call face).toActor
    (actor.palette.lookUp stage.world (.named "dog")).point? = some ⟨-2, -2⟩ ∧
      (faced.call (move 5)).target.position = ⟨-2, -2⟩ ∧
      (faced.call (move (-5))).target.position = ⟨4, 6⟩ := by
  intro stage cat actor face move faced
  have hdog : stage.world.spriteAt? "dog" = some ⟨-2, -2⟩ := by
    rw [Stage.world_place, if_pos rfl]
  have hfound : (actor.palette.lookUp stage.world (.named "dog")).point? = some ⟨-2, -2⟩ := by
    rw [actor.palette.lookUp_of_present hdog]
  let way : Vec2 ℝ := ⟨-2, -2⟩ - actor.target.position
  have hself : way.dot way = 5 * 5 := by
    norm_num [way, Vec2.dot, actor, cat]
  have hlength : way.length = 5 := by
    rw [Vec2.length, hself, Real.sqrt_mul_self (by norm_num)]
  have hface : face.block = .pointTowards (.named "dog") := rfl
  obtain ⟨hthere, hpart⟩ := pointing_leads Destination.noConfusion hface hfound
  have hforth : (move 5).block = .move way.length := by rw [hlength]
  have hback : (move (-5)).block = .move (-1 * way.length) := by
    rw [hlength]
    norm_num [move]
  refine ⟨hfound, hthere (move 5) hforth, ?_⟩
  rw [hpart (-1) (move (-5)) hback]
  ext <;> norm_num [actor, cat]

end StageMotion
