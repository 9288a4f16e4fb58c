import Mathlib.Algebra.Group.Int.Even
import StageMotion.Proofs.Block.Chance
import StageMotion.Proofs.Bounce.Fence
import StageMotion.Proofs.Glide.Trajectory
import StageMotion.Proofs.Number.Rounding
import StageMotion.Proofs.Settings.Usable

/-!
# Random places

A random place is made by rounding, and rounding comes last: a number between zero and one is scaled
to the side of the stage first. So the place has whole coordinates, whatever the stage, but it need
not be on the stage. Of a side of one unit and a half only the middle is a whole unit, and numbers
far from a half are rounded past its ends. In general the last whole unit of a half side is as far
out as the whole part of the half side, and a number is rounded past it if it is scaled to that
distance and a half, or farther (`abs_round_spread_le_iff`). That happens to some number exactly if
the whole part of the side is odd (`forall_abs_round_spread_le_iff`).

What the blocks make of a random place follows: it is where a destination is found, where a block
that goes there puts its target, and where a glide ends that starts now, however many ticks it takes
(`Palette.sends`).
-/

namespace StageMotion

/-! ## Points of a room -/

/-- The point is in the room, its sides included. -/
structure Bounds.Holds (room : Bounds ℝ) (point : Vec2 ℝ) : Prop where
  left : room.left ≤ point.x
  right : point.x ≤ room.right
  top : point.y ≤ room.top
  bottom : room.bottom ≤ point.y

/-- Both coordinates are whole numbers. -/
def Vec2.Whole (point : Vec2 ℝ) : Prop := ∃ m n : ℤ, point = ⟨m, n⟩

section

variable [Elementary]

theorem Playfield.holds_iff {field : Playfield ℝ} {point : Vec2 ℝ} : field.bounds.Holds point ↔
    |point.x| ≤ field.width / 2 ∧ |point.y| ≤ field.height / 2 := by
  rw [field.bounds_eq, abs_le, abs_le]
  constructor
  · rintro ⟨hl, hr, ht, hb⟩
    exact ⟨⟨hl, hr⟩, hb, ht⟩
  · rintro ⟨⟨hl, hr⟩, hb, ht⟩
    exact ⟨hl, hr, ht, hb⟩

end

/-! ## One coordinate -/

section

variable {side u : ℝ}

/-- How far from the middle a number is scaled to. -/
theorem abs_spread (h : 0 < side) : |side * (u - 0.5)| = side * |u - 1 / 2| := by
  rw [abs_mul, abs_of_pos h]
  norm_num

theorem spread_le (h : 0 < side) (hu : u ∈ Set.Ico (0 : ℝ) 1) : side * |u - 1 / 2| ≤ side / 2 := by
  have hhalf : |u - 1 / 2| ≤ 1 / 2 := abs_le.mpr ⟨by linarith [hu.1], by linarith [hu.2]⟩
  have hscaled : side * |u - 1 / 2| ≤ side * (1 / 2) := mul_le_mul_of_nonneg_left hhalf h.le
  linarith

/-- The whole part of a side is even if the end of the side is rounded toward the middle. -/
theorem even_floor_iff : Even ⌊side⌋ ↔ side / 2 < ⌊side / 2⌋ + 1 / 2 := by
  have hfloor : ⌊side / 2⌋ = ⌊side⌋ / 2 := Int.floor_div_natCast side 2
  have hend : side / 2 < ⌊side / 2⌋ + 1 / 2 ↔ ⌊side⌋ < 2 * ⌊side / 2⌋ + 1 := by
    rw [Int.floor_lt]
    push_cast
    constructor <;> intro h <;> linarith
  rw [hend, hfloor, Int.even_iff]
  omega

variable [Elementary]

theorem abs_round_spread_le (h : 0 < side) (hu : u ∈ Set.Ico (0 : ℝ) 1) :
    |Scalar.round (side * (u - 0.5))| ≤ (side + 1) / 2 := by
  have hround := Scalar.abs_round_le (side * (u - 0.5))
  rw [abs_spread h] at hround
  linarith [spread_le h hu]

theorem abs_round_spread_le_iff (h : 0 < side) :
    |Scalar.round (side * (u - 0.5))| ≤ side / 2 ↔ side * |u - 1 / 2| < ⌊side / 2⌋ + 1 / 2 := by
  rw [Scalar.abs_round_le_iff, abs_spread h]

/-- No number is scaled farther out than zero, which is scaled to the end of the side. -/
theorem forall_abs_round_spread_le_iff (h : 0 < side) :
    (∀ u ∈ Set.Ico (0 : ℝ) 1, |Scalar.round (side * (u - 0.5))| ≤ side / 2) ↔ Even ⌊side⌋ := by
  rw [even_floor_iff]
  constructor
  · intro hall
    have hzero := (abs_round_spread_le_iff h).mp (hall 0 ⟨le_rfl, one_pos⟩)
    have hend : side * |(0 : ℝ) - 1 / 2| = side / 2 := by
      rw [zero_sub, abs_neg, abs_of_pos (by norm_num)]
      ring
    rwa [hend] at hzero
  · intro hend u hu
    exact (abs_round_spread_le_iff h).mpr ((spread_le h hu).trans_lt hend)

theorem Playfield.whole_pointAt (field : Playfield ℝ) (u v : ℝ) : (field.pointAt u v).Whole := by
  obtain ⟨m, hm⟩ := Scalar.exists_round_eq (field.width * (u - 0.5))
  obtain ⟨n, hn⟩ := Scalar.exists_round_eq (field.height * (v - 0.5))
  exact ⟨m, n, Vec2.ext hm hn⟩

theorem Settings.field_pos {settings : Settings ℝ} (h : settings.check = .ok settings) :
    0 < settings.field.width ∧ 0 < settings.field.height := by
  obtain ⟨⟨⟨⟨-, hwidth⟩, -, hheight⟩, -⟩, -⟩ := (settings.check_eq_ok_iff settings).mp h
  have hzero : (0.0 : ℝ) = 0 := by norm_num
  rw [hzero] at hwidth hheight
  exact ⟨hwidth, hheight⟩

end

/-! ## What the blocks make of it -/

section

variable {γ α : Type} [Scalar α] [Draws γ α]

/-- A palette takes what goes to a random place to the given one. A glide that takes its time ends
there on the first tick that finds it over, whatever the visits before say and do. -/
structure Palette.Sends (palette : Palette γ α) (place : Vec2 α) : Prop where
  lookUp (world : World α) : (palette.lookUp world .random).point? = some place
  goTo {τ : Type} [Movable τ α] (moment : Moment α) (slot : Option (Glide α)) (target : τ) :
    ((Block.goTo .random).tick moment { palette, slot, target }).target =
      Movable.setPosition target place
  glideTo_at_once {τ : Type} [Movable τ α] (moment : Moment α) (target : τ) {seconds : α} :
    seconds ≤ 0.0 →
      ((Block.glideTo seconds .random).tick moment { palette, slot := none, target }).target =
        Movable.setPosition target place
  glideTo_lands {τ : Type} [Movable τ α] (moment : Moment α) (target : τ) {seconds : α} :
    ¬ seconds ≤ 0.0 →
      let first := ((Block.glideTo seconds .random).tick moment
        { palette, slot := none, target }).glideTick
      ∃ glide, first.slot = some glide ∧
        ∀ visits : List (Visit τ α), (∀ v ∈ visits, v.InTime glide) →
          ∀ (time seconds' : α) (stop' : Vec2 α), ¬ glide.InTime time →
            let ride := first.ride.run visits
            (ride.tick time seconds' stop').target = Movable.setPosition ride.target place

theorem Palette.sends (palette : Palette γ α) : palette.Sends
    (palette.field.pointAt (Draws.nth palette.source 0) (Draws.nth palette.source 1)) where
  lookUp := palette.deals.lookUp
  goTo := palette.deals.goTo
  glideTo_at_once moment target seconds := by
    intro hseconds
    have htick := palette.deals.glideTo moment none target seconds
    rw [Glide.tick, Glide.launch_of_nonpositive hseconds] at htick
    exact congrArg GlideTick.target htick
  glideTo_lands moment target seconds := by
    intro hseconds first
    have hfirst : first = _ := palette.deals.glideTo moment none target seconds
    rw [Glide.tick, Glide.launch_of_positive hseconds] at hfirst
    have hslot : first.ride.slot = some _ := congrArg GlideTick.slot hfirst
    refine ⟨_, hslot, fun visits hvisits time seconds' stop' hlate => ?_⟩
    intro ride
    have hride : ride.slot = some _ := Ride.run_slot hslot hvisits
    rw [Ride.tick, hride, Glide.tick, Glide.proceed_of_late hlate]
    rfl

end

/-- **Random places and the stage**: with checked settings, a random place has whole coordinates and
is past no side of the stage by more than half a unit. It is on the stage exactly if neither number
is scaled as far out as the last whole unit of its half side and a half. All random places are on
the stage exactly if the whole parts of both sides are even. And to the place that its next two
numbers give a palette sends what goes to a random place. -/
theorem random_place_on_stage_iff [Elementary] {settings : Settings ℝ}
    (h : settings.check = .ok settings) :
    let field := settings.field
    (∀ u ∈ Set.Ico (0 : ℝ) 1, ∀ v ∈ Set.Ico (0 : ℝ) 1,
      let place := field.pointAt u v
      place.Whole ∧
      (|place.x| ≤ (field.width + 1) / 2 ∧ |place.y| ≤ (field.height + 1) / 2) ∧
      (field.bounds.Holds place ↔
        field.width * |u - 1 / 2| < ⌊field.width / 2⌋ + 1 / 2 ∧
          field.height * |v - 1 / 2| < ⌊field.height / 2⌋ + 1 / 2)) ∧
    ((∀ u ∈ Set.Ico (0 : ℝ) 1, ∀ v ∈ Set.Ico (0 : ℝ) 1, field.bounds.Holds (field.pointAt u v)) ↔
      Even ⌊field.width⌋ ∧ Even ⌊field.height⌋) ∧
    ∀ {γ : Type} [Draws γ ℝ] (palette : Palette γ ℝ), palette.field = field →
      palette.Sends
        (field.pointAt (Draws.nth palette.source 0) (Draws.nth palette.source 1)) := by
  intro field
  obtain ⟨hwidth, hheight⟩ := settings.field_pos h
  refine ⟨fun u hu v hv => ⟨field.whole_pointAt u v, ⟨?_, ?_⟩, ?_⟩, ?_, ?_⟩
  · exact abs_round_spread_le hwidth hu
  · exact abs_round_spread_le hheight hv
  · rw [Playfield.holds_iff]
    exact and_congr (abs_round_spread_le_iff hwidth) (abs_round_spread_le_iff hheight)
  · rw [← forall_abs_round_spread_le_iff hwidth, ← forall_abs_round_spread_le_iff hheight]
    constructor
    · intro hall
      -- the other coordinate is no matter, so it may be made of any number
      have hhalf : (1 / 2 : ℝ) ∈ Set.Ico (0 : ℝ) 1 := by norm_num
      exact ⟨fun u hu => (Playfield.holds_iff.mp (hall u hu _ hhalf)).1,
        fun v hv => (Playfield.holds_iff.mp (hall _ hhalf v hv)).2⟩
    · rintro ⟨hx, hy⟩ u hu v hv
      exact Playfield.holds_iff.mpr ⟨hx u hu, hy v hv⟩
  · intro γ _ palette hfield
    rw [← hfield]
    exact palette.sends

/-- Half a unit more than an even width does no harm: the numbers that are scaled farthest out give
a corner of the usual stage. -/
theorem random_place_on_stage_iff_wide :
    let settings : Settings ℝ := { Settings.standard with stageWidth := 480.5 }
    let palette : Palette (ℕ → ℝ) ℝ := ⟨settings.field, fun _ => 0⟩
    let cat : Sprite ℝ := .create "cat" none settings.field
    let moment : Moment ℝ := ⟨Stage.empty.world, 0⟩
    settings.check = .ok settings ∧
      (∀ u ∈ Set.Ico (0 : ℝ) 1, ∀ v ∈ Set.Ico (0 : ℝ) 1,
        settings.field.bounds.Holds (settings.field.pointAt u v)) ∧
      ((Block.goTo .random).tick moment ⟨palette, none, cat⟩).target.position = ⟨-240, -180⟩ := by
  intro settings palette cat moment
  have hcheck : settings.check = .ok settings := by
    apply Settings.check_of_usable
    norm_num [settings, Settings.Usable, Settings.HasStage, Settings.HasRate, Settings.standard,
      Settings.standardTickRate, Playfield.standard, Scalar.isFinite]
  obtain ⟨-, hall, hsends⟩ := random_place_on_stage_iff hcheck
  have hwidth : ⌊settings.field.width⌋ = 480 := by
    norm_num [settings, Settings.field, Int.floor_eq_iff]
  have hheight : ⌊settings.field.height⌋ = 360 := by
    norm_num [settings, Settings.field, Settings.standard, Playfield.standard, Int.floor_eq_iff]
  refine ⟨hcheck, hall.mpr ⟨?_, ?_⟩, ?_⟩
  · rw [hwidth]
    decide
  · rw [hheight]
    decide
  · rw [(hsends palette rfl).goTo]
    change settings.field.pointAt 0 0 = _
    norm_num [settings, Settings.field, Settings.standard, Playfield.pointAt, Playfield.standard,
      Scalar.round]

/-- On a stage of one unit and a half each way, only the middle is a whole unit. A number of at most
one sixth is rounded to the next one, which is not on the stage, and the cat goes there. -/
theorem random_place_off_stage :
    let settings : Settings ℝ := { Settings.standard with stageWidth := 1.5, stageHeight := 1.5 }
    let palette : Palette (ℕ → ℝ) ℝ := ⟨settings.field, fun _ => 1 / 8⟩
    let cat : Sprite ℝ := .create "cat" none settings.field
    let moment : Moment ℝ := ⟨Stage.empty.world, 0⟩
    settings.check = .ok settings ∧ (1 / 8 : ℝ) ∈ Set.Ico (0 : ℝ) 1 ∧
      settings.field.pointAt (1 / 8) (1 / 8) = ⟨-1, -1⟩ ∧
      (palette.lookUp moment.world .random).point? = some ⟨-1, -1⟩ ∧
      ((Block.goTo .random).tick moment ⟨palette, none, cat⟩).target.position = ⟨-1, -1⟩ ∧
      ¬ settings.field.bounds.Holds ⟨-1, -1⟩ := by
  intro settings palette cat moment
  have hcheck : settings.check = .ok settings := by
    apply Settings.check_of_usable
    norm_num [settings, Settings.Usable, Settings.HasStage, Settings.HasRate, Settings.standard,
      Settings.standardTickRate, Scalar.isFinite]
  have hpoint : settings.field.pointAt (1 / 8) (1 / 8) = ⟨-1, -1⟩ := by
    norm_num [settings, Settings.field, Playfield.pointAt, Scalar.round, Int.ceil_eq_iff]
  have hsends : palette.Sends (settings.field.pointAt (1 / 8) (1 / 8)) := palette.sends
  rw [hpoint] at hsends
  refine ⟨hcheck, by norm_num, hpoint, hsends.lookUp _, ?_, ?_⟩
  · rw [hsends.goTo]
    rfl
  · rw [Playfield.holds_iff]
    norm_num [settings, Settings.field]

end StageMotion
