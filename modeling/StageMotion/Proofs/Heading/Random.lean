import StageMotion.Proofs.Block.Chance
import StageMotion.Proofs.Heading.Range
import StageMotion.Proofs.Number.Rounding

/-!
# Random headings

A random heading is made of one number between zero and one: scaled to a turn, rounded to whole
degrees and counted from straight down. That gives one whole number more than there are headings,
because a turn begins and ends straight down. A heading is normalized when a sprite is told it, and
this makes one heading of the two. So every whole heading is made of the numbers that are scaled to
less than half a degree from it, full turns aside, or to half a degree before it
(`Heading.normalize_atFraction_eq_iff`), and there is no other heading
(`Heading.exists_normalize_atFraction_eq`).
-/

namespace StageMotion

section

variable [Elementary]

namespace Heading

/-- A whole number of degrees is normalized to a whole number of them. -/
theorem exists_normalize_intCast_eq (degrees : ℤ) :
    ∃ n ∈ Set.Ioc (-180 : ℤ) 180, normalize (degrees : ℝ) = n := by
  have hrange : (-179 : ℤ) ≤ 180 := by decide
  obtain ⟨hfirst, hlast⟩ := add_emod_mem hrange degrees
  refine ⟨_, ⟨by omega, hlast⟩, ?_⟩
  rw [← wrap_intCast hrange degrees]
  norm_num [normalize]

theorem exists_normalize_atFraction_eq (u : ℝ) :
    ∃ n ∈ Set.Ioc (-180 : ℤ) 180, normalize (atFraction u) = n := by
  obtain ⟨k, hk⟩ := Scalar.exists_round_eq (u * 360.0)
  have hwhole : atFraction u = ((k - 180 : ℤ) : ℝ) := by
    rw [atFraction, hk]
    norm_num
  rw [hwhole]
  exact exists_normalize_intCast_eq _

/-- A whole heading is made of the numbers that are scaled close to it, full turns aside. -/
theorem normalize_atFraction_eq_iff {u : ℝ} (hu : 0 ≤ u) {n : ℤ} (hn : n ∈ Set.Ioc (-180) 180) :
    normalize (atFraction u) = n ↔
      ∃ turns : ℤ, u * 360 - 180 + turns * 360 ∈ Set.Ico (n - 1 / 2 : ℝ) (n + 1 / 2) := by
  have hscaled : u * 360.0 = u * 360 := by norm_num
  have hround : atFraction u = ⌊u * 360 + 1 / 2⌋ - 180 := by
    rw [atFraction, hscaled, Scalar.round_of_nonneg (by positivity)]
    norm_num
  have hrange : (n : ℝ) ∈ range := by
    have hlow : -179 ≤ n := hn.1
    have hhigh : n < 181 := Int.lt_add_one_iff.mpr hn.2
    exact ⟨by exact_mod_cast hlow, by exact_mod_cast hhigh⟩
  -- the turns that the heading is away from the range are those that bring the number close to it
  have hturns (turns : ℤ) : atFraction u = n + turns * 360 ↔
      u * 360 - 180 + ((-turns : ℤ) : ℝ) * 360 ∈ Set.Ico (n - 1 / 2 : ℝ) (n + 1 / 2) := by
    have hfloor : atFraction u = n + turns * 360 ↔
        ⌊u * 360 + 1 / 2⌋ = n + 180 + turns * 360 := by
      rw [hround, sub_eq_iff_eq_add, ← @Int.cast_inj ℝ]
      push_cast
      rw [add_right_comm]
    rw [hfloor, Int.floor_eq_iff]
    push_cast
    constructor <;> rintro ⟨hlow, hhigh⟩ <;> constructor <;> linarith
  rw [normalize_eq_iff]
  constructor
  · rintro ⟨-, turns, h⟩
    exact ⟨-turns, (hturns turns).mp h⟩
  · rintro ⟨turns, h⟩
    refine ⟨hrange, -turns, (hturns (-turns)).mpr ?_⟩
    rwa [neg_neg]

/-- Every whole heading is that of some number: its own place in the turn that starts from straight
down, and straight down itself where the turn begins. -/
theorem exists_atFraction_eq {n : ℤ} (hn : n ∈ Set.Ioc (-180) 180) :
    ∃ u ∈ Set.Ico (0 : ℝ) 1, normalize (atFraction u) = n := by
  have hlow : (-180 : ℝ) < n := by exact_mod_cast hn.1
  have hhigh : (n : ℝ) ≤ 180 := by exact_mod_cast hn.2
  rcases hhigh.eq_or_lt with hdown | hlt
  · refine ⟨0, by norm_num, (normalize_atFraction_eq_iff le_rfl hn).mpr ⟨1, ?_⟩⟩
    rw [hdown]
    norm_num
  · have hplace : (n + 180) / 360 * 360 - 180 + ((0 : ℤ) : ℝ) * 360 = n := by
      push_cast
      ring
    refine ⟨(n + 180) / 360, ⟨by linarith, by linarith⟩,
      (normalize_atFraction_eq_iff (by linarith) hn).mpr ⟨0, ?_⟩⟩
    rw [hplace]
    constructor <;> linarith

end Heading

/-- **Random headings are the whole headings**: a sprite that is pointed at random gets a whole
heading above `-180` and up to `180`, and keeps its place and all else. Each of these headings it
gets exactly from the numbers that are scaled close to it, full turns aside, and there is one
between zero and one that it gets it from. -/
theorem random_heading_covers {γ : Type} [Draws γ ℝ] (moment : Moment ℝ) :
    let after := fun actor : Actor γ (Sprite ℝ) ℝ =>
      ((Block.pointTowards .random).tick moment actor).target
    let number := fun actor : Actor γ (Sprite ℝ) ℝ => Draws.nth actor.palette.source 0
    (∀ actor, ∃ n ∈ Set.Ioc (-180 : ℤ) 180,
      after actor = { actor.target with heading := (n : ℝ) }) ∧
    ∀ n ∈ Set.Ioc (-180 : ℤ) 180,
      (∀ actor, number actor ∈ Set.Ico (0 : ℝ) 1 → ((after actor).heading = n ↔
        ∃ turns : ℤ, number actor * 360 - 180 + turns * 360 ∈
          Set.Ico (n - 1 / 2 : ℝ) (n + 1 / 2))) ∧
      ∃ u ∈ Set.Ico (0 : ℝ) 1, ∀ actor, number actor = u →
        after actor = { actor.target with heading := (n : ℝ) } := by
  intro after number
  have hafter (actor : Actor γ (Sprite ℝ) ℝ) : after actor =
      { actor.target with heading := Heading.normalize (Heading.atFraction (number actor)) } :=
    actor.palette.deals.pointTowards moment actor.slot actor.target
  refine ⟨fun actor => ?_, fun n hn => ⟨fun actor hu => ?_, ?_⟩⟩
  · obtain ⟨n, hn, hheading⟩ := Heading.exists_normalize_atFraction_eq (number actor)
    exact ⟨n, hn, by rw [hafter, hheading]⟩
  · rw [hafter]
    exact Heading.normalize_atFraction_eq_iff hu.1 hn
  · obtain ⟨u, hu, hheading⟩ := Heading.exists_atFraction_eq hn
    refine ⟨u, hu, fun actor hnumber => ?_⟩
    rw [hafter, hnumber, hheading]

end

/-- Both ends of a turn are straight down, for a cat anywhere. -/
theorem random_heading_covers_down :
    let cat : Sprite ℝ := { Sprite.create "cat" none .standard with position := ⟨30, -40⟩ }
    let spin (u : ℝ) : Sprite ℝ := ((Block.pointTowards .random).tick ⟨Stage.empty.world, 0⟩
      (⟨⟨.standard, fun _ => u⟩, none, cat⟩ : Actor (ℕ → ℝ) (Sprite ℝ) ℝ)).target
    (0 : ℝ) ∈ Set.Ico (0 : ℝ) 1 ∧ (0.999 : ℝ) ∈ Set.Ico (0 : ℝ) 1 ∧
      (180 : ℤ) ∈ Set.Ioc (-180 : ℤ) 180 ∧
      (spin 0).heading = 180 ∧ (spin 0.999).heading = 180 ∧ (spin 0.999).position = ⟨30, -40⟩ := by
  intro cat spin
  have hstart : (0 : ℝ) ∈ Set.Ico (0 : ℝ) 1 := by norm_num
  have hend : (0.999 : ℝ) ∈ Set.Ico (0 : ℝ) 1 := by norm_num
  have hdown : (180 : ℤ) ∈ Set.Ioc (-180 : ℤ) 180 := by decide
  obtain ⟨hwhole, hcovers⟩ := random_heading_covers (γ := ℕ → ℝ) ⟨Stage.empty.world, 0⟩
  obtain ⟨hmade, -⟩ := hcovers 180 hdown
  obtain ⟨n, -, hspin⟩ := hwhole ⟨⟨.standard, fun _ => 0.999⟩, none, cat⟩
  refine ⟨hstart, hend, hdown, ?_, ?_, congrArg Sprite.position hspin⟩
  · exact_mod_cast (hmade ⟨⟨.standard, fun _ => 0⟩, none, cat⟩ hstart).mpr
      ⟨1, by norm_num [Draws.nth, Draws.draw]⟩
  · exact_mod_cast (hmade ⟨⟨.standard, fun _ => 0.999⟩, none, cat⟩ hend).mpr
      ⟨0, by norm_num [Draws.nth, Draws.draw]⟩

end StageMotion
