import StageMotion.Proofs.Block.Lookup
import StageMotion.Proofs.Block.Runs
import StageMotion.Scalar.Real
import StageMotion.Movable

/-!
# What is left to chance

The blocks of one palette draw their random numbers from one source. What they draw is accounted for
by what they ask of chance, and by nothing else: a random place takes two numbers, the horizontal
one first, a random heading takes one (`Chance.draws`), and whatever has another destination or none
takes no number (`Use.chance?`). Targets, slots, clocks and worlds may be anything, also other ones
in each use. So the numbers that a use sees depend on the source and on what was asked of chance
before (`draws_accounted`).
-/

namespace StageMotion

variable {γ τ α : Type} [Draws γ α]

/-! ## Numbers of a source -/

namespace Draws

/-- The number that a source gives after `n` others. -/
def nth (source : γ) (n : ℕ) : α := (draw (skip n source)).1

theorem nth_skip (source : γ) (m n : ℕ) : nth (skip m source) n = nth source (m + n) := by
  rw [nth, nth, skip_add]

end Draws

/-! ## What is asked of chance -/

/-- What can be asked of chance. -/
inductive Chance
  | place
  | heading
  deriving DecidableEq, Repr

/-- How many numbers it takes. -/
def Chance.draws : Chance → ℕ
  | place => 2
  | heading => 1

/-- What looking a destination up asks of chance. -/
def Destination.chance? : Destination → Option Chance
  | random => some .place
  | pointer | named _ => none

/-- What a block asks of chance. -/
def Block.chance? : Block α → Option Chance
  | goTo goal | glideTo _ goal => goal.chance?
  | pointTowards .random => some .heading
  | _ => none

/-- A use of a palette: a destination is looked up, a target is read, or a block is run on a target
with the slot that it is lent. -/
inductive Use (α : Type) [Scalar α] : Type 1
  | lookUp (world : World α) (goal : Destination)
  | read {τ : Type} [Movable τ α] (target : τ)
  | run {τ : Type} [Movable τ α] (block : Block α) (moment : Moment α) (slot : Option (Glide α))
    (target : τ)

variable [Scalar α]

/-- What a use asks of chance. -/
def Use.chance? : Use α → Option Chance
  | lookUp _ goal => goal.chance?
  | read .. => none
  | run block .. => block.chance?

namespace Palette

/-- The palette after a use. -/
def after (palette : Palette γ α) : Use α → Palette γ α
  | Use.lookUp world goal => { palette with source := (palette.lookUp world goal).source }
  | Use.read .. => palette
  | Use.run block moment slot target => (block.tick moment { palette, slot, target }).palette

/-- The palette after some uses, one after another. -/
def run (palette : Palette γ α) (uses : List (Use α)) : Palette γ α := uses.foldl after palette

/-- What the blocks of a palette make of the next two numbers, when they are asked for a random
place or a random heading. -/
structure Deals (palette : Palette γ α) (u v : α) : Prop where
  lookUp (world : World α) :
    (palette.lookUp world .random).point? = some (palette.field.pointAt u v)
  goTo {τ : Type} [Movable τ α] (moment : Moment α) (slot : Option (Glide α)) (target : τ) :
    ((Block.goTo .random).tick moment { palette, slot, target }).target =
      Movable.setPosition target (palette.field.pointAt u v)
  glideTo {τ : Type} [Movable τ α] (moment : Moment α) (slot : Option (Glide α)) (target : τ)
    (seconds : α) :
    ((Block.glideTo seconds .random).tick moment { palette, slot, target }).glideTick =
      Glide.tick slot moment.now seconds (palette.field.pointAt u v) target
  pointTowards {τ : Type} [Movable τ α] (moment : Moment α) (slot : Option (Glide α))
    (target : τ) :
    ((Block.pointTowards .random).tick moment { palette, slot, target }).target =
      Movable.setHeading target (Heading.atFraction u)

end Palette

/-! ## One use -/

theorem Palette.lookUp_draws (palette : Palette γ α) (world : World α) (goal : Destination) :
    (palette.lookUp world goal).source =
      Draws.skip (goal.chance?.elim 0 Chance.draws) palette.source := by
  cases goal with
  | random => rfl
  | pointer | named => exact palette.lookUp_source Destination.noConfusion

/-- A block draws what it asks of chance, whatever it finds and wherever its slot is in a glide. -/
theorem Block.tick_draws [Movable τ α] (block : Block α) (moment : Moment α)
    (actor : Actor γ τ α) : (block.tick moment actor).palette.source =
      Draws.skip (block.chance?.elim 0 Chance.draws) actor.palette.source := by
  cases block with
  | goTo goal | glideTo _ goal =>
    have hdraws := actor.palette.lookUp_draws moment.world goal
    simp only [tick, tick_resolve]
    split <;> exact hdraws
  | pointTowards goal =>
    cases goal with
    | random | pointer => rfl
    | named name =>
      have hdraws := actor.palette.lookUp_draws moment.world (.named name)
      simp only [tick, tick_resolve]
      split <;> exact hdraws
  | bounceOnEdge | setRotationStyle =>
    simp only [tick]
    split <;> rfl
  | _ => rfl

namespace Palette

theorem after_draws (palette : Palette γ α) (use : Use α) : (palette.after use).source =
    Draws.skip (use.chance?.elim 0 Chance.draws) palette.source := by
  cases use with
  | lookUp world goal => exact palette.lookUp_draws world goal
  | read => rfl
  | run block moment slot target => exact block.tick_draws moment _

theorem after_field (palette : Palette γ α) (use : Use α) :
    (palette.after use).field = palette.field := by
  cases use with
  | lookUp | read => rfl
  | run block moment slot target => exact block.tick_field moment _

/-- What is asked of chance next gets the next two numbers, or the first of them. -/
theorem deals (palette : Palette γ α) :
    palette.Deals (Draws.nth palette.source 0) (Draws.nth palette.source 1) where
  lookUp _ := rfl
  goTo _ _ _ := rfl
  glideTo _ _ _ seconds := Block.glideTick_glideTo_of_found seconds rfl
  pointTowards _ _ _ := rfl

/-! ## Runs -/

theorem run_field (palette : Palette γ α) (uses : List (Use α)) :
    (palette.run uses).field = palette.field := by
  induction uses generalizing palette with
  | nil => rfl
  | cons use uses ih => exact (ih (palette.after use)).trans (palette.after_field use)

theorem run_draws (palette : Palette γ α) (uses : List (Use α)) : (palette.run uses).source =
    Draws.skip ((uses.filterMap Use.chance?).map Chance.draws).sum palette.source := by
  induction uses generalizing palette with
  | nil => rfl
  | cons use uses ih =>
    change ((palette.after use).run uses).source = _
    rw [ih, after_draws, ← Draws.skip_add]
    cases h : use.chance? with
    | none => simp [h]
    | some chance => simp [h]

end Palette

/-- **Random numbers are accounted for**: after any uses, the source has given the numbers that were
asked of chance, and no others. What is asked next gets the numbers that come next, the horizontal
one first. So another palette with the same source, after any uses that asked the same of chance,
goes on with the same numbers. -/
theorem draws_accounted (palette : Palette γ α) (uses : List (Use α)) :
    let asked := uses.filterMap Use.chance?
    let spent := (asked.map Chance.draws).sum
    let u := Draws.nth palette.source spent
    let v := Draws.nth palette.source (spent + 1)
    ((palette.run uses).field = palette.field ∧
      (palette.run uses).source = Draws.skip spent palette.source) ∧
    (palette.run uses).Deals u v ∧
    ∀ (other : Palette γ α) (others : List (Use α)), other.source = palette.source →
      others.filterMap Use.chance? = asked →
        (other.run others).source = (palette.run uses).source ∧ (other.run others).Deals u v := by
  intro asked spent u v
  have hsource : (palette.run uses).source = Draws.skip spent palette.source :=
    palette.run_draws uses
  have hdeals : ∀ left : Palette γ α, left.source = Draws.skip spent palette.source →
      left.Deals u v := by
    intro left hleft
    have h := left.deals
    rwa [hleft, Draws.nth_skip, Draws.nth_skip] at h
  refine ⟨⟨palette.run_field uses, hsource⟩, hdeals _ hsource, ?_⟩
  intro other others hother hasked
  have hsame : (other.run others).source = Draws.skip spent palette.source := by
    rw [other.run_draws, hasked, hother]
  exact ⟨hsame.trans hsource.symm, hdeals _ hsame⟩

/-- Two runs from a source of eighths. Each has a glide to a random place, one under way and one
that takes no time, and then a random heading, with other uses between. After both of them a random
place is made of the fourth number and the fifth. -/
theorem draws_accounted_eighths :
    let palette : Palette (ℕ → ℝ) ℝ := ⟨.standard, fun n => n / 8⟩
    let cat : Sprite ℝ := .create "cat" none .standard
    let moment : Moment ℝ := ⟨Stage.empty.world, 0⟩
    let uses : List (Use ℝ) :=
      [.run (.move 10) moment none cat, .lookUp moment.world .pointer,
        .run (.glideTo 1 .random) moment (some ⟨⟨0⟩, 1000, ⟨0, 0⟩, ⟨50, 50⟩⟩) cat,
        .read cat, .run (.pointTowards .random) moment none cat]
    let others : List (Use ℝ) :=
      [.run (.glideTo 0 .random) moment none cat, .run (.goTo (.named "dog")) moment none cat,
        .run (.pointTowards .random) moment none cat, .run .bounceOnEdge moment none cat]
    others.filterMap Use.chance? = uses.filterMap Use.chance? ∧
      (palette.run uses).source = Draws.skip 3 palette.source ∧
      ((Block.goTo .random).tick moment ⟨palette.run uses, none, cat⟩).target.position =
        ⟨-60, 0⟩ ∧
      ((Block.goTo .random).tick moment ⟨palette.run others, none, cat⟩).target.position =
        ⟨-60, 0⟩ := by
  intro palette cat moment uses others
  obtain ⟨⟨hfield, hsource⟩, hdeals, hother⟩ := draws_accounted palette uses
  have hasked : others.filterMap Use.chance? = uses.filterMap Use.chance? := rfl
  obtain ⟨-, hdeals'⟩ := hother palette others rfl hasked
  have hu : Draws.nth palette.source 3 = 3 / 8 := by
    norm_num [Draws.nth, Draws.skip, Draws.draw, palette]
  have hv : Draws.nth palette.source 4 = 4 / 8 := by
    norm_num [Draws.nth, Draws.skip, Draws.draw, palette]
  have hpoint : (Playfield.standard : Playfield ℝ).pointAt (3 / 8) (4 / 8) = ⟨-60, 0⟩ := by
    norm_num [Playfield.pointAt, Playfield.standard, Scalar.round]
  have hgo : ∀ left : Palette (ℕ → ℝ) ℝ, left.field = .standard →
      left.Deals (Draws.nth palette.source 3) (Draws.nth palette.source 4) →
      ((Block.goTo .random).tick moment ⟨left, none, cat⟩).target.position = ⟨-60, 0⟩ := by
    intro left hleft h
    rw [h.goTo, hleft, hu, hv, hpoint]
    rfl
  exact ⟨hasked, hsource, hgo _ hfield hdeals, hgo _ (palette.run_field others) hdeals'⟩

end StageMotion
