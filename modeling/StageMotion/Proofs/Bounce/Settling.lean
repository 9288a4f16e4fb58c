import StageMotion.Proofs.Block.Frame
import StageMotion.Proofs.Bounce.Edges

/-!
# Where a bounce puts a sprite

A bounce block puts a sprite where the fence says, also where it does not bounce at all
(`Sprite.Wears.bounce_position`), and the fence treats the two axes alike: on each of them it pushes
the middle of an interval (`pushed`). Where the interval fits the room, one push is enough. Where it
does not, both ends may stick out at once, or the push for one end may make the other stick out: the
second push undoes the first, and only the centre stays where it is (`pushed_pushed_iff`). So the
place of a bounce is settled exactly on the axes on which the costume fits or the sprite is centred
(`bounce_settles_iff`).
-/

namespace StageMotion

section

variable [Elementary]

/-! ## One axis -/

/-- Where an interval with its middle at `x` has its middle after the correction, in a room around
zero. -/
noncomputable def pushed (room reach x : ℝ) : ℝ := x + nudge (-room) room (x - reach) (x + reach)

theorem pushed_of_inside {room reach x : ℝ} (hlo : -room ≤ x - reach) (hhi : x + reach ≤ room) :
    pushed room reach x = x := by
  rw [pushed, nudge_of_inside hlo hhi, add_zero]

/-- An interval that is longer than the room is pushed past the centre. -/
theorem pushed_of_lt {room reach : ℝ} (h : room < reach) (x : ℝ) :
    pushed room reach x = max (room - reach) (min (-x) (reach - room)) := by
  rw [pushed, nudge]
  rcases lt_or_ge x (reach - room) with hleft | hleft
  · rw [if_pos (by linarith)]
    rcases lt_or_ge (room - reach) x with hright | hright
    · rw [if_pos (by linarith), min_eq_left (by linarith), max_eq_right (by linarith)]
      ring
    · rw [if_neg (by linarith), min_eq_right (by linarith), max_eq_right (by linarith)]
      norm_num
      ring
  · rw [if_neg (by linarith), if_pos (by linarith), min_eq_left (by linarith),
      max_eq_left (by linarith)]
    norm_num
    ring

/-- A second push changes nothing exactly if the interval fits the room or is in its middle. -/
theorem pushed_pushed_iff (room reach x : ℝ) :
    pushed room reach (pushed room reach x) = pushed room reach x ↔ reach ≤ room ∨ x = 0 := by
  rcases le_or_gt reach room with hfits | hlarge
  · have hlength : x + reach - (x - reach) ≤ room - -room := by linarith
    obtain ⟨hlo, hhi⟩ := nudge_inside hlength
    have hinside : pushed room reach (pushed room reach x) = pushed room reach x :=
      pushed_of_inside (by rw [pushed]; linarith) (by rw [pushed]; linarith)
    simp [hinside, hfits]
  · -- both pushes go past the centre, so together they only bring `x` within reach
    rw [pushed_of_lt hlarge, pushed_of_lt hlarge]
    constructor
    · intro h
      right
      simp only [max_def, min_def] at h
      split_ifs at h <;> linarith
    · rintro (hfits | rfl)
      · linarith
      · have hcentre : max (room - reach) (min (-0) (reach - room)) = 0 := by
          rw [neg_zero, min_eq_left (by linarith), max_eq_right (by linarith)]
        rw [hcentre, hcentre]

/-! ## Sprites -/

namespace Sprite.Wears

variable {sprite : Sprite ℝ} {size : Vec2 ℝ} {field : Playfield ℝ}

/-- The fence pushes a sprite on each axis, wherever it came from. -/
theorem keepInFence_eq (wears : sprite.Wears size field) (goal : Vec2 ℝ) :
    sprite.keepInFence goal = ⟨pushed (field.width / 2) (size.x / 2) goal.x,
      pushed (field.height / 2) (size.y / 2) goal.y⟩ := by
  have hgoal : (Bounds.centered sprite.position size).translate (goal - sprite.position) =
      .centered goal size := by
    rw [Bounds.centered_translate, Vec2.add_sub_self]
  rw [keepInFence, wears.bounds?_eq, wears.field_eq]
  simp only [Playfield.fence, hgoal]
  rw [Bounds.centered_eq, Playfield.bounds_eq]
  rfl

theorem keepInFence_of_open (wears : sprite.Wears size field)
    (hopen : ∀ edge, 0 < (Bounds.centered sprite.position size).gap field edge) :
    sprite.keepInFence sprite.position = sprite.position := by
  obtain ⟨hleft, hright, htop, hbottom⟩ := Bounds.inside_iff_gap.mpr fun edge => (hopen edge).le
  simp only [Bounds.centered_eq, Playfield.bounds_eq] at hleft hright htop hbottom
  rw [wears.keepInFence_eq, pushed_of_inside hleft hright, pushed_of_inside hbottom htop]

variable {γ : Type} [Draws γ ℝ] {actor : Actor γ (Sprite ℝ) ℝ}

/-- A bounce block puts the sprite where the fence says, whether it bounces or not. -/
theorem bounce_position (wears : actor.target.Wears size field)
    (hfield : actor.palette.field = field) {c : Call ℝ} (hc : c.block = .bounceOnEdge) :
    (actor.call c).target.position = actor.target.keepInFence actor.target.position := by
  subst hfield
  rcases wears.bounce_cases hc with ⟨-, hsame, hopen⟩ | ⟨-, -, -, -, hposition⟩
  · rw [hsame, wears.keepInFence_of_open hopen]
  · exact hposition

/-- A second push moves the sprite no more exactly if on each axis its costume fits or it is in the
middle. -/
theorem keepInFence_idem_iff {other : Sprite ℝ} (wears : sprite.Wears size field)
    (hother : other.Wears size field) (goal : Vec2 ℝ) :
    other.keepInFence (sprite.keepInFence goal) = sprite.keepInFence goal ↔
      (size.x ≤ field.width ∨ goal.x = 0) ∧ (size.y ≤ field.height ∨ goal.y = 0) := by
  rw [hother.keepInFence_eq, wears.keepInFence_eq, Vec2.mk.injEq, pushed_pushed_iff,
    pushed_pushed_iff, div_le_div_iff_of_pos_right two_pos, div_le_div_iff_of_pos_right two_pos]

end Sprite.Wears

/-- **Where bounces settle**: the place that the fence gives a sprite is one that the fence leaves
as it is, exactly if on each axis the costume is no larger than the playfield or the sprite was in
the middle. The same decides whether a second bounce block, after any blocks that do not move the
sprite, leaves it where the first one put it. -/
theorem bounce_settles_iff {γ : Type} [Draws γ ℝ] {actor : Actor γ (Sprite ℝ) ℝ} {size : Vec2 ℝ}
    (wears : actor.target.Wears size actor.palette.field) :
    let sprite := actor.target
    let field := actor.palette.field
    let put := sprite.keepInFence sprite.position
    let Settles : Prop := (size.x ≤ field.width ∨ sprite.position.x = 0) ∧
      (size.y ≤ field.height ∨ sprite.position.y = 0)
    ((Movable.setPosition sprite put).keepInFence put = put ↔ Settles) ∧
    ∀ (bounce again : Call ℝ) (between : List (Call ℝ)), bounce.block = .bounceOnEdge →
      again.block = .bounceOnEdge → (∀ c ∈ between, .position ∉ c.block.aspects) →
        let bounced := (actor.call bounce).toActor
        (((bounced.run between).call again).target.position = bounced.target.position ↔
          Settles) := by
  intro sprite field put Settles
  refine ⟨wears.keepInFence_idem_iff (Sprite.Wears.keeps .position sprite put wears) _, ?_⟩
  intro bounce again between hbounce hagain hstill bounced
  have hput : bounced.target.position = put := wears.bounce_position rfl hbounce
  have hplace : (bounced.run between).target.position = put := by
    have hkept : .position ∉ between.flatMap fun c => c.block.aspects := by
      intro hmem
      obtain ⟨c, hc, haspect⟩ := List.mem_flatMap.mp hmem
      exact hstill c hc haspect
    exact ((bounced.run_sameBut between).position hkept).trans hput
  have hrun : (bounced.run between).target.Wears size field :=
    Actor.run_keeps Sprite.Wears.keeps between (Actor.call_keeps Sprite.Wears.keeps bounce wears)
  have hfield : (bounced.run between).palette.field = field := by
    rw [Actor.run_field, Actor.call_field]
  rw [hrun.bounce_position hfield hagain, hplace, hput]
  exact wears.keepInFence_idem_iff hrun _

end

/-- A banner wider than the stage, that hangs too high in the middle of it and turns between the
bounces. -/
theorem bounce_settles_iff_banner :
    let field : Playfield ℝ := .standard
    let banner : Sprite ℝ :=
      { Sprite.create "banner" (some ⟨600, 100⟩) field with position := ⟨0, 300⟩ }
    let actor : Actor (ℕ → ℝ) (Sprite ℝ) ℝ := ⟨⟨field, fun _ => 0⟩, none, banner⟩
    let bounce : Call ℝ := ⟨.bounceOnEdge, ⟨Stage.empty.world, 0⟩, none⟩
    let turn : Call ℝ := ⟨.turnRight 30, ⟨Stage.empty.world, 0⟩, none⟩
    let bounced := (actor.call bounce).toActor
    banner.Wears ⟨600, 100⟩ field ∧ (∀ c ∈ [turn], .position ∉ c.block.aspects) ∧
      ((bounced.run [turn]).call bounce).target.position = bounced.target.position := by
  intro field banner actor bounce turn bounced
  have wears : actor.target.Wears ⟨600, 100⟩ actor.palette.field := ⟨rfl, rfl, rfl⟩
  have hstill : ∀ c ∈ [turn], .position ∉ c.block.aspects := by simp [turn, Block.aspects]
  refine ⟨wears, hstill, ?_⟩
  refine ((bounce_settles_iff wears).2 bounce bounce [turn] rfl rfl hstill).mpr ⟨.inr rfl, .inl ?_⟩
  norm_num [actor, field, Playfield.standard]

/-- A banner wider than the stage, off its middle, swings: the fence takes it to the other side of
the middle, and from there back, and so do two bounces. -/
theorem bounce_swings :
    let field : Playfield ℝ := .standard
    let banner : Sprite ℝ :=
      { Sprite.create "banner" (some ⟨600, 100⟩) field with position := ⟨10, 0⟩ }
    let actor : Actor (ℕ → ℝ) (Sprite ℝ) ℝ := ⟨⟨field, fun _ => 0⟩, none, banner⟩
    let put := banner.keepInFence banner.position
    let bounce : Call ℝ := ⟨.bounceOnEdge, ⟨Stage.empty.world, 0⟩, none⟩
    let bounced := (actor.call bounce).toActor
    banner.Wears ⟨600, 100⟩ field ∧
      (Movable.setPosition banner put).keepInFence put ≠ put ∧
      bounced.target.position = ⟨-10, 0⟩ ∧ (bounced.call bounce).target.position = ⟨10, 0⟩ := by
  intro field banner actor put bounce bounced
  have hpushed : ∀ x : ℝ, |x| ≤ 60 → pushed (480 / 2) (600 / 2) x = -x := by
    intro x hx
    obtain ⟨hlo, hhi⟩ := abs_le.mp hx
    rw [pushed_of_lt (by norm_num), min_eq_left (by linarith), max_eq_right (by linarith)]
  have hlevel : pushed (360 / 2) (100 / 2) 0 = 0 := pushed_of_inside (by norm_num) (by norm_num)
  have hfield : field = ⟨480, 360⟩ := by norm_num [field, Playfield.standard]
  have hkeep : ∀ {sprite : Sprite ℝ}, sprite.Wears ⟨600, 100⟩ field → ∀ x : ℝ, |x| ≤ 60 →
      sprite.keepInFence ⟨x, 0⟩ = ⟨-x, 0⟩ := by
    intro sprite wears x hx
    rw [wears.keepInFence_eq, hfield, hpushed x hx, hlevel]
  have wears : actor.target.Wears ⟨600, 100⟩ actor.palette.field := ⟨rfl, rfl, rfl⟩
  have hput : put = ⟨-10, 0⟩ := hkeep wears 10 (by norm_num)
  have hback : ∀ {sprite : Sprite ℝ}, sprite.Wears ⟨600, 100⟩ field →
      sprite.keepInFence ⟨-10, 0⟩ = ⟨10, 0⟩ := by
    intro sprite hsprite
    rw [hkeep hsprite (-10) (by norm_num), neg_neg]
  have hbounced : bounced.target.position = ⟨-10, 0⟩ :=
    (wears.bounce_position rfl rfl).trans hput
  have hwears : bounced.target.Wears ⟨600, 100⟩ field :=
    Actor.call_keeps Sprite.Wears.keeps bounce wears
  refine ⟨wears, ?_, hbounced, ?_⟩
  · rw [hput, hback (Sprite.Wears.keeps .position banner _ wears)]
    norm_num
  · rw [hwears.bounce_position (actor.call_field bounce) rfl, hbounced, hback hwears]

end StageMotion
