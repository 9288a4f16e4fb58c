import StageMotion.Proofs.Block.Runs
import StageMotion.Proofs.Number.Wrapping
import StageMotion.Movable

/-!
# The range of headings

A heading is normalized to the one number of `Heading.range` that differs from it by full turns
(`Heading.normalize_eq_iff`). As the ends of a range count as places in `wrap`, that range is
one turn long and starts at `-179`; so it is the range from `-180` to `180` on whole degrees, and
between them it is not. A sprite has the heading that it began with until it is turned, and from
then on, whatever turns it, one in the range (`heading_range`).
-/

namespace StageMotion

/-! ## Steering -/

/-- What can turn a target: to be told a heading, or a call of a block. -/
inductive Steering (α : Type)
  | told (heading : α)
  | call (c : Call α)

namespace Actor

variable {γ τ α : Type} [Scalar α] [Draws γ α] [Movable τ α]

/-- The actor after it is steered once. -/
def steer (actor : Actor γ τ α) : Steering α → Actor γ τ α
  | .told heading => actor.setHeading heading
  | .call c => (actor.call c).toActor

/-- The actor after it is steered some times, one after another. -/
def steered (actor : Actor γ τ α) (steerings : List (Steering α)) : Actor γ τ α :=
  steerings.foldl steer actor

theorem steered_concat (actor : Actor γ τ α) (steerings : List (Steering α))
    (steering : Steering α) :
    actor.steered (steerings ++ [steering]) = (actor.steered steerings).steer steering := by
  simp [steered]

theorem steered_keeps {P : τ → Prop} (keeps : ∀ aspect, Movable.Keeps P aspect)
    (steerings : List (Steering α)) {actor : Actor γ τ α} (h : P actor.target) :
    P (actor.steered steerings).target := by
  induction steerings generalizing actor with
  | nil => exact h
  | cons steering steerings ih =>
    apply ih
    cases steering with
    | told heading => exact keeps .heading _ _ h
    | call c => exact call_keeps keeps c h

end Actor

/-! ## Normalized headings -/

/-- The headings that are normalized. -/
def Heading.range : Set ℝ := Set.Ico (-179) 181

theorem Heading.mem_Ioc_iff {heading : ℝ} (h : heading ∈ Set.Ioo (-180) 181) :
    heading ∈ Set.Ioc (-180) 180 ↔ heading ∉ Set.Ioo 180 181 := by
  constructor
  · rintro ⟨-, hle⟩ ⟨hlt, -⟩
    linarith
  · intro hout
    refine ⟨h.1, ?_⟩
    by_contra hgt
    exact hout ⟨not_le.mp hgt, h.2⟩

/-- Normalized headings are above `-180`, and below `181` but not always up to `180`. -/
theorem Heading.range_subset : range ⊆ Set.Ioo (-180) 181 :=
  Set.Ico_subset_Ioo_left (by norm_num)

section

variable [Elementary]

namespace Heading

theorem normalize_eq_iff {heading normalized : ℝ} : normalize heading = normalized ↔
    normalized ∈ range ∧ ∃ turns : ℤ, heading = normalized + turns * 360 := by
  rw [normalize, wrap_eq_iff (by norm_num), range]
  norm_num

theorem normalize_mem_range (heading : ℝ) : normalize heading ∈ range :=
  (normalize_eq_iff.mp rfl).1

theorem normalize_mem_Ioc_iff (heading : ℝ) : normalize heading ∈ Set.Ioc (-180) 180 ↔
    ∀ turns : ℤ, heading + turns * 360 ∉ Set.Ioo 180 181 := by
  rw [mem_Ioc_iff (range_subset (normalize_mem_range heading))]
  constructor
  · intro hout turns hmem
    have hnormal : normalize heading = heading + turns * 360 := by
      refine normalize_eq_iff.mpr ⟨⟨by linarith [hmem.1], hmem.2⟩, -turns, ?_⟩
      push_cast
      ring
    exact hout (hnormal ▸ hmem)
  · intro hout hmem
    obtain ⟨-, turns, hturns⟩ := normalize_eq_iff.mp (rfl : normalize heading = _)
    refine hout (-turns) ?_
    have hback : heading + ((-turns : ℤ) : ℝ) * 360 = normalize heading := by
      push_cast
      linarith
    rwa [hback]

end Heading

/-- A property of sprites that have kept a heading or have one in the range survives all setters. -/
theorem Sprite.keeps_heading (start : ℝ) (aspect : Aspect) : Movable.Keeps
    (fun sprite : Sprite ℝ => sprite.heading = start ∨ sprite.heading ∈ Heading.range) aspect := by
  cases aspect with
  | position | style => exact fun _ _ h => h
  | heading => exact fun _ heading _ => .inr (Heading.normalize_mem_range heading)

/-- **The range of headings**: however a sprite is steered, its heading is the one that it began
with or one in `[-179, 181)`. If it began above `-180` and below `181`, then it is in `(-180, 180]`
unless it is strictly between `180` and `181`; and that is where a heading that it is told takes it
exactly if the told heading is there up to full turns. -/
theorem heading_range {γ : Type} [Draws γ ℝ] (actor : Actor γ (Sprite ℝ) ℝ)
    (steerings : List (Steering ℝ)) :
    let start := actor.target.heading
    let heading := (actor.steered steerings).target.heading
    (heading = start ∨ heading ∈ Set.Ico (-179) 181) ∧
    (start ∈ Set.Ioo (-180) 181 →
      (heading ∈ Set.Ioc (-180) 180 ↔ heading ∉ Set.Ioo 180 181)) ∧
    ∀ told : ℝ,
      (actor.steered (steerings ++ [.told told])).target.heading ∈ Set.Ioc (-180) 180 ↔
        ∀ turns : ℤ, told + turns * 360 ∉ Set.Ioo 180 181 := by
  intro start heading
  have hrange : heading = start ∨ heading ∈ Heading.range :=
    Actor.steered_keeps (Sprite.keeps_heading start) steerings (.inl rfl)
  refine ⟨hrange, fun hstart => ?_, fun told => ?_⟩
  · apply Heading.mem_Ioc_iff
    rcases hrange with hsame | hmem
    · rwa [hsame]
    · exact Heading.range_subset hmem
  · rw [Actor.steered_concat]
    exact Heading.normalize_mem_Ioc_iff told

end

/-- A cat that is told to head a quarter turn and half a degree more than a full turn, and then
turns right by a hundred degrees. -/
theorem heading_range_cat :
    let cat : Sprite ℝ := .create "cat" none .standard
    let actor : Actor (ℕ → ℝ) (Sprite ℝ) ℝ := ⟨⟨.standard, fun _ => 0⟩, none, cat⟩
    let turn : Call ℝ := ⟨.turnRight 100, ⟨Stage.empty.world, 0⟩, none⟩
    let heading := (actor.steered [.told 450.5, .call turn]).target.heading
    cat.heading ∈ Set.Ioo (-180) 181 ∧ heading = -169.5 ∧ heading ∈ Set.Ioc (-180) 180 := by
  intro cat actor turn heading
  have hstart : cat.heading ∈ Set.Ioo (-180) 181 := by
    norm_num [cat, Sprite.create]
  have htold : Heading.normalize 450.5 = (90.5 : ℝ) :=
    Heading.normalize_eq_iff.mpr ⟨by norm_num [Heading.range], 1, by norm_num⟩
  have hheading : heading = -169.5 := by
    change Heading.normalize (Heading.normalize 450.5 + 100) = _
    rw [htold]
    exact Heading.normalize_eq_iff.mpr ⟨by norm_num [Heading.range], 1, by norm_num⟩
  refine ⟨hstart, hheading, ((heading_range actor _).2.1 hstart).mpr ?_⟩
  change heading ∉ Set.Ioo 180 181
  rw [hheading]
  norm_num

/-- A cat that is told to head half a degree beyond straight down keeps that number, and not the one
of the same direction that is between `-180` and `180`. -/
theorem heading_beyond_down :
    let cat : Sprite ℝ := (Sprite.create "cat" none .standard).setHeading 180.5
    cat.heading = 180.5 ∧ cat.heading ∉ Set.Ioc (-180) 180 := by
  intro cat
  have hheading : cat.heading = 180.5 :=
    Heading.normalize_eq_iff.mpr ⟨by norm_num [Heading.range], 0, by norm_num⟩
  refine ⟨hheading, ?_⟩
  rw [hheading]
  norm_num

end StageMotion
