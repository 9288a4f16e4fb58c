import Mathlib.Analysis.Convex.Basic
import StageMotion.Proofs.Bounce.Reflection
import StageMotion.Proofs.Glide.Trajectory

/-!
# The way of a glide

In exact arithmetic a glide keeps to the segment between its two ends. It is over exactly when its
time is; before, it is at some part of the way, the same on both axes, and short of the whole of it
(`Glide.part_mem_Ico`). The part grows with the time that has passed and is zero while none has, so
a glide does not go back, and on a clock that was put back it waits at its start
(`glide_keeps_to_segment`). All this asks of a glide that it takes some time, and that is so of
every glide that ticks put into an empty slot (`Ride.duration_pos_run`).
-/

namespace StageMotion

/-! ## Parts of a way -/

namespace Vec2

/-- The point after a part of the way from one point to another. -/
def partway (source goal : Vec2 ℝ) (part : ℝ) : Vec2 ℝ := source + part • (goal - source)

variable (source goal : Vec2 ℝ) {part : ℝ}

theorem length_smul {k : ℝ} (hk : 0 ≤ k) (v : Vec2 ℝ) : (k • v).length = k * v.length := by
  have hdot : (k • v).dot (k • v) = k ^ 2 * v.dot v := by
    simp only [dot, smul_x, smul_y]
    ring
  rw [length, hdot, Real.sqrt_mul (sq_nonneg k), Real.sqrt_sq hk, length]

theorem partway_zero : source.partway goal 0 = source := by
  ext <;> simp [partway]

theorem partway_sub : source.partway goal part - source = part • (goal - source) := by
  ext <;> simp [partway]

theorem sub_partway : goal - source.partway goal part = (1 - part) • (goal - source) := by
  ext <;> simp only [partway, sub_x, sub_y, add_x, add_y, smul_x, smul_y] <;> ring

theorem partway_mem_uIcc (h : part ∈ Set.Icc 0 1) :
    (source.partway goal part).x ∈ Set.uIcc source.x goal.x ∧
      (source.partway goal part).y ∈ Set.uIcc source.y goal.y := by
  have hbetween : ∀ a b : ℝ, a + part * (b - a) ∈ Set.uIcc a b := fun a b =>
    (convex_uIcc a b).add_smul_sub_mem Set.left_mem_uIcc Set.right_mem_uIcc h
  exact ⟨hbetween source.x goal.x, hbetween source.y goal.y⟩

/-- Only where there is no way to go is a part of it enough. -/
theorem partway_eq_goal_iff (h : part < 1) : source.partway goal part = goal ↔ source = goal := by
  have hrest : ∀ a b : ℝ, a + part * (b - a) = b ↔ a = b := by
    intro a b
    have hfactor : a + part * (b - a) - b = (1 - part) * (a - b) := by ring
    rw [← sub_eq_zero, hfactor, mul_eq_zero, sub_eq_zero, sub_eq_zero]
    exact or_iff_right h.ne'
  rw [Vec2.ext_iff, Vec2.ext_iff]
  exact and_congr (hrest source.x goal.x) (hrest source.y goal.y)

end Vec2

/-! ## The part that time makes -/

namespace Glide

variable {glide : Glide ℝ} {elapsed early late : ℝ}

/-- The part of its way that a glide has behind it after some time. -/
noncomputable def part (glide : Glide ℝ) (elapsed : ℝ) : ℝ := max 0 (elapsed / glide.duration)

theorem part_mem_Ico (hpos : 0 < glide.duration) (h : elapsed < glide.duration) :
    glide.part elapsed ∈ Set.Ico 0 1 :=
  ⟨le_max_left _ _, max_lt one_pos ((div_lt_one hpos).mpr h)⟩

theorem part_of_nonpos (hpos : 0 < glide.duration) (h : elapsed ≤ 0) : glide.part elapsed = 0 :=
  max_eq_left (div_nonpos_of_nonpos_of_nonneg h hpos.le)

theorem part_mono (hpos : 0 < glide.duration) (h : early ≤ late) :
    glide.part early ≤ glide.part late :=
  max_le_max le_rfl (div_le_div_of_nonneg_right h hpos.le)

variable [Elementary]

theorem positionAt?_of_lt (h : elapsed < glide.duration) :
    glide.positionAt? elapsed = some (glide.start.partway glide.stop (glide.part elapsed)) := by
  have hzero : (0.0 : ℝ) = 0 := by norm_num
  rw [positionAt?, if_pos h, atLeast_eq_max, hzero]
  rfl

theorem positionAt?_eq_none_iff : glide.positionAt? elapsed = none ↔ glide.duration ≤ elapsed := by
  unfold positionAt?
  split_ifs with h
  · simpa using h
  · simpa using not_lt.mp h

end Glide

variable [Elementary]

/-! ## Glides in slots -/

namespace Ride

variable {τ : Type} [Movable τ ℝ] {ride : Ride τ ℝ}

theorem duration_pos_visit (h : ∀ glide ∈ ride.slot, 0 < glide.duration) (v : Visit τ ℝ) :
    ∀ glide ∈ (ride.visit v).slot, 0 < glide.duration := by
  intro glide hglide
  cases v with
  | elsewhere change => exact h glide hglide
  | tick now seconds stop =>
    rcases Glide.of_slot_tick (show (ride.tick now seconds stop).slot = some glide from hglide) with
      hkept | ⟨hseconds, rfl⟩
    · exact h glide hkept
    · norm_num [Glide.captured] at hseconds ⊢
      exact hseconds

/-- Whatever happens to it, a slot that was empty holds no glide that takes no time. -/
theorem duration_pos_run (h : ∀ glide ∈ ride.slot, 0 < glide.duration) (visits : List (Visit τ ℝ)) :
    ∀ glide ∈ (ride.run visits).slot, 0 < glide.duration := by
  induction visits generalizing ride with
  | nil => exact h
  | cons v visits ih => exact ih (duration_pos_visit h v)

end Ride

/-- **A glide keeps to its segment**: every glide in a slot that was empty takes time. A glide that
takes time is over exactly when its time is, and before that it is on the segment between its ends:
at the start as long as no time has passed, at the part of the way on both axes that time makes, and
at the end only if that is the start. The more time has passed, the farther it is from the start and
the nearer to the end. -/
theorem glide_keeps_to_segment :
    (∀ {τ : Type} [Movable τ ℝ] (ride : Ride τ ℝ) (visits : List (Visit τ ℝ)), ride.slot = none →
      ∀ glide, (ride.run visits).slot = some glide → 0 < glide.duration) ∧
    ∀ glide : Glide ℝ, 0 < glide.duration →
      (∀ elapsed, glide.positionAt? elapsed = none ↔ glide.duration ≤ elapsed) ∧
      (∀ elapsed ≤ 0, glide.positionAt? elapsed = some glide.start) ∧
      (∀ elapsed < glide.duration, ∃ place, glide.positionAt? elapsed = some place ∧
        glide.part elapsed ∈ Set.Ico (0 : ℝ) 1 ∧
        place = glide.start + glide.part elapsed • (glide.stop - glide.start) ∧
        place.x ∈ Set.uIcc glide.start.x glide.stop.x ∧
        place.y ∈ Set.uIcc glide.start.y glide.stop.y ∧
        (place = glide.stop ↔ glide.start = glide.stop)) ∧
      ∀ early late, early ≤ late → late < glide.duration → ∃ place later,
        glide.positionAt? early = some place ∧ glide.positionAt? late = some later ∧
        (place - glide.start).length ≤ (later - glide.start).length ∧
        (glide.stop - later).length ≤ (glide.stop - place).length := by
  refine ⟨fun ride visits hempty => Ride.duration_pos_run (by simp [hempty]) visits, ?_⟩
  intro glide hpos
  refine ⟨fun _ => Glide.positionAt?_eq_none_iff, fun elapsed hback => ?_, fun elapsed hin => ?_,
    ?_⟩
  · rw [Glide.positionAt?_of_lt (lt_of_le_of_lt hback hpos), Glide.part_of_nonpos hpos hback,
      Vec2.partway_zero]
  · have hpart := Glide.part_mem_Ico hpos hin
    obtain ⟨hx, hy⟩ := glide.start.partway_mem_uIcc glide.stop (Set.Ico_subset_Icc_self hpart)
    exact ⟨_, Glide.positionAt?_of_lt hin, hpart, rfl, hx, hy,
      glide.start.partway_eq_goal_iff glide.stop hpart.2⟩
  · intro early late hle hin
    have hearly := Glide.part_mem_Ico hpos (lt_of_le_of_lt hle hin)
    have hlate := Glide.part_mem_Ico hpos hin
    have hpart := Glide.part_mono hpos hle
    have hlength : 0 ≤ (glide.stop - glide.start).length := Real.sqrt_nonneg _
    refine ⟨_, _, Glide.positionAt?_of_lt (lt_of_le_of_lt hle hin), Glide.positionAt?_of_lt hin,
      ?_, ?_⟩
    · rw [Vec2.partway_sub, Vec2.partway_sub, Vec2.length_smul hearly.1, Vec2.length_smul hlate.1]
      exact mul_le_mul_of_nonneg_right hpart hlength
    · rw [Vec2.sub_partway, Vec2.sub_partway, Vec2.length_smul (sub_nonneg.mpr hearly.2.le),
        Vec2.length_smul (sub_nonneg.mpr hlate.2.le)]
      exact mul_le_mul_of_nonneg_right (sub_le_sub_left hpart 1) hlength

/-- A cat that glides straight down for two seconds. If the clock is put back it waits at its start.
After half a second it has a quarter of its way behind it, a second later three quarters, and after
two seconds the glide is over. -/
theorem glide_keeps_to_segment_downward :
    let cat : Sprite ℝ := { Sprite.create "cat" none .standard with position := ⟨10, -20⟩ }
    let ride : Ride (Sprite ℝ) ℝ := ⟨none, cat⟩
    let glide : Glide ℝ := ⟨⟨500⟩, 2000, ⟨10, -20⟩, ⟨10, -120⟩⟩
    let early : Vec2 ℝ := ⟨10, -45⟩
    let late : Vec2 ℝ := ⟨10, -95⟩
    (ride.run [.tick 500 2 ⟨10, -120⟩]).slot = some glide ∧ 0 < glide.duration ∧
      glide.positionAt? (-300) = some glide.start ∧ glide.positionAt? 500 = some early ∧
      glide.positionAt? 1500 = some late ∧ glide.positionAt? 2000 = none ∧
      early.y ∈ Set.uIcc (-20) (-120) ∧ early ≠ glide.stop ∧
      (early - glide.start).length ≤ (late - glide.start).length := by
  intro cat ride glide early late
  obtain ⟨htakesTime, hsegment⟩ := glide_keeps_to_segment
  have hslot : (ride.run [.tick 500 2 ⟨10, -120⟩]).slot = some glide := by
    change (Glide.launch 500 2 ⟨10, -120⟩ cat).slot = _
    rw [Glide.launch_of_positive (by norm_num)]
    norm_num [Glide.captured, glide, Stopwatch.start, cat, Movable.position]
  have hpos : 0 < glide.duration := htakesTime ride _ rfl glide hslot
  obtain ⟨hover, hback, honWay, hforward⟩ := hsegment glide hpos
  obtain ⟨place, hplace, -, hpart, -, hy, hend⟩ := honWay 500 (by norm_num [glide])
  obtain ⟨later, hlater, -, hpart', -⟩ := honWay 1500 (by norm_num [glide])
  obtain rfl : place = early := by
    rw [hpart]
    ext <;> norm_num [Glide.part, glide, early]
  obtain rfl : later = late := by
    rw [hpart']
    ext <;> norm_num [Glide.part, glide, late]
  obtain ⟨place', later', hplace', hlater', hfarther, -⟩ :=
    hforward 500 1500 (by norm_num) (by norm_num [glide])
  obtain rfl : early = place' := Option.some.inj (hplace.symm.trans hplace')
  obtain rfl : late = later' := Option.some.inj (hlater.symm.trans hlater')
  refine ⟨hslot, hpos, hback (-300) (by norm_num), hplace, hlater,
    (hover 2000).mpr (by norm_num [glide]), hy, fun hthere => ?_, hfarther⟩
  have hsame := hend.mp hthere
  norm_num [glide] at hsame

end StageMotion
