import StageMotion.Proofs.Bounce.Settling

/-!
# Containment

A sprite whose costume fits the playfield may be carried anywhere by its blocks, but each bounce
block leaves it inside, whether it bounced or not, and a move after that carries it no further out
than the length of the move (`bounce_contains`). Of the elementary functions this needs only that
the squares of a cosine and a sine add up to one.
-/

namespace StageMotion

section

variable [Elementary] {γ : Type} [Draws γ ℝ]

/-- The vector of a heading reaches no further than one unit along either axis. -/
theorem Heading.abs_vector_le (pyth : ∀ θ : ℝ, Scalar.cos θ ^ 2 + Scalar.sin θ ^ 2 = 1)
    (heading : ℝ) :
    |(Heading.vector heading).x| ≤ 1 ∧ |(Heading.vector heading).y| ≤ 1 := by
  have h := pyth (radians (90.0 - heading))
  rw [← sq_le_one_iff_abs_le_one, ← sq_le_one_iff_abs_le_one]
  constructor
  · change Scalar.cos (radians (90.0 - heading)) ^ 2 ≤ 1
    nlinarith [sq_nonneg (Scalar.sin (radians (90.0 - heading)))]
  · change Scalar.sin (radians (90.0 - heading)) ^ 2 ≤ 1
    nlinarith [sq_nonneg (Scalar.cos (radians (90.0 - heading)))]

namespace Sprite.Fits

variable {size : Vec2 ℝ} {actor : Actor γ (Sprite ℝ) ℝ}

/-- A bounce block leaves a sprite whose costume fits inside the playfield. -/
theorem bounce_inside (fits : actor.target.Fits size actor.palette.field) {c : Call ℝ}
    (hc : c.block = .bounceOnEdge) :
    (Bounds.centered (actor.call c).target.position size).Inside actor.palette.field.bounds := by
  rw [fits.bounce_position rfl hc]
  exact fits.keepInFence_inside _

/-- A move carries the sprite no further out of a room than the length of the move. -/
theorem move_inside (pyth : ∀ θ : ℝ, Scalar.cos θ ^ 2 + Scalar.sin θ ^ 2 = 1)
    {room : Bounds ℝ} (inside : (Bounds.centered actor.target.position size).Inside room)
    {c : Call ℝ} {steps : ℝ} (hc : c.block = .move steps) :
    (Bounds.centered (actor.call c).target.position size).Inside (room.grow |steps|) := by
  obtain ⟨hx, hy⟩ := Heading.abs_vector_le pyth actor.target.heading
  have e : (actor.call c).target.position =
      actor.target.position + steps • Heading.vector actor.target.heading :=
    congrArg Sprite.position (actor.call_move hc)
  rw [e, ← Bounds.centered_translate]
  apply inside.translate
  · rw [Vec2.smul_x, abs_mul]
    exact mul_le_of_le_one_right (abs_nonneg steps) hx
  · rw [Vec2.smul_y, abs_mul]
    exact mul_le_of_le_one_right (abs_nonneg steps) hy

end Sprite.Fits

/-- **Containment**: after any run of blocks that ends in a bounce, the box of the sprite is inside
the playfield, and if one more block moves the sprite by some steps, no side of the box is further
out than that. -/
theorem bounce_contains (pyth : ∀ θ : ℝ, Scalar.cos θ ^ 2 + Scalar.sin θ ^ 2 = 1)
    {actor : Actor γ (Sprite ℝ) ℝ} {size : Vec2 ℝ}
    (fits : actor.target.Fits size actor.palette.field) (calls : List (Call ℝ))
    {bounce : Call ℝ} (hbounce : bounce.block = .bounceOnEdge) :
    (∃ box, (actor.run (calls ++ [bounce])).target.bounds? = some box ∧
      box.Inside actor.palette.field.bounds) ∧
    ∀ (next : Call ℝ) (steps : ℝ), next.block = .move steps →
      ∃ box, (actor.run (calls ++ [bounce, next])).target.bounds? = some box ∧
        box.Inside (actor.palette.field.bounds.grow |steps|) := by
  have ran : ∀ more, (actor.run more).target.Fits size actor.palette.field := fun more =>
    Actor.run_keeps Sprite.Fits.keeps more fits
  have inside : (Bounds.centered (actor.run (calls ++ [bounce])).target.position size).Inside
      actor.palette.field.bounds := by
    have h := ran calls
    rw [← Actor.run_field actor calls] at h ⊢
    rw [Actor.run_append, Actor.run_cons, Actor.run_nil]
    exact h.bounce_inside hbounce
  refine ⟨⟨_, (ran _).bounds?_eq, inside⟩, fun next steps hnext => ⟨_, (ran _).bounds?_eq, ?_⟩⟩
  rw [show calls ++ [bounce, next] = calls ++ [bounce] ++ [next] by simp, Actor.run_append,
    Actor.run_cons, Actor.run_nil]
  exact Sprite.Fits.move_inside pyth inside hnext

end

/-- A ball far out on the right, that moves on before it bounces and moves again. -/
theorem bounce_contains_stray :
    let field : Playfield ℝ := .standard
    let stray : Sprite ℝ := { Sprite.create "ball" (some ⟨20, 20⟩) field with position := ⟨300, 0⟩ }
    let actor : Actor (ℕ → ℝ) (Sprite ℝ) ℝ := ⟨⟨field, fun _ => 0⟩, none, stray⟩
    let moment : Moment ℝ := ⟨Stage.empty.world, 0⟩
    let move : Call ℝ := ⟨.move 10, moment, none⟩
    let bounce : Call ℝ := ⟨.bounceOnEdge, moment, none⟩
    stray.Fits ⟨20, 20⟩ field ∧
      (∃ box, (actor.run [move, bounce]).target.bounds? = some box ∧ box.Inside field.bounds) ∧
      ∃ box, (actor.run [move, bounce, move]).target.bounds? = some box ∧
        box.Inside (field.bounds.grow |10|) := by
  intro field stray actor moment move bounce
  have fits : actor.target.Fits ⟨20, 20⟩ actor.palette.field :=
    ⟨⟨rfl, rfl, rfl⟩, by norm_num, by norm_num [actor, field, Playfield.standard], by norm_num,
      by norm_num [actor, field, Playfield.standard]⟩
  have hbounce : bounce.block = .bounceOnEdge := rfl
  obtain ⟨hinside, hnear⟩ := bounce_contains Real.cos_sq_add_sin_sq fits [move] hbounce
  exact ⟨fits, hinside, hnear move 10 rfl⟩

end StageMotion
