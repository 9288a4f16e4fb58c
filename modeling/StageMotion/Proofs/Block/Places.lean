import StageMotion.Proofs.Block.Lookup
import StageMotion.Scalar.Real
import StageMotion.Movable

/-!
# Sprites that come and go

Sprites are placed on a stage, moved and removed in any order. A name that was never placed, or was
removed after it was placed last, is missing (`Missing`); any other stands where it was placed last
(`StandsAt`). Both are said of the history alone, and the stage agrees with it
(`Stage.spriteAt?_of_missing`, `Stage.spriteAt?_of_standsAt`). So the history decides what the
blocks do whose destination is the name: while it is missing they change nothing but the slot of a
glide, which is emptied (`missing_sprite_changes_nothing`).
-/

namespace StageMotion

variable {α : Type}

/-! ## Histories of a stage -/

/-- What can happen to a stage. -/
inductive Edit (α : Type)
  | place (name : String) (position : Vec2 α)
  | remove (name : String)
  | point (pointer : Vec2 α)

/-- The edit places or removes the sprite of a name. -/
def Edit.Concerns (name : String) : Edit α → Prop
  | place other _ | remove other => other = name
  | point _ => False

/-- No sprite of the name was ever placed, or it was removed after it was placed last. -/
def Missing (edits : List (Edit α)) (name : String) : Prop :=
  (∀ position, .place name position ∉ edits) ∨
    ∃ before since, edits = before ++ .remove name :: since ∧
      ∀ position, .place name position ∉ since

/-- A sprite of the name was placed at the position, and neither placed again nor removed since. -/
def StandsAt (edits : List (Edit α)) (name : String) (position : Vec2 α) : Prop :=
  ∃ before since, edits = before ++ .place name position :: since ∧
    ∀ edit ∈ since, ¬ edit.Concerns name

namespace Stage

variable {name : String} {edits : List (Edit α)}

def edit (stage : Stage α) : Edit α → Stage α
  | .place name position => stage.place name position
  | .remove name => stage.remove name
  | .point pointer => { stage with pointer }

/-- The stage after some edits, one after another. -/
def edited (stage : Stage α) (edits : List (Edit α)) : Stage α := edits.foldl edit stage

theorem edited_append (stage : Stage α) (edits more : List (Edit α)) :
    stage.edited (edits ++ more) = (stage.edited edits).edited more :=
  List.foldl_append

theorem spriteAt?_edit_of_not_concerns {edit : Edit α} (h : ¬ edit.Concerns name)
    (stage : Stage α) :
    (stage.edit edit).world.spriteAt? name = stage.world.spriteAt? name := by
  cases edit with
  | place other position =>
    have hother : other ≠ name := h
    rw [Stage.edit, world_place, if_neg hother]
  | remove other =>
    have hother : other ≠ name := h
    rw [Stage.edit, world_remove, if_neg hother]
  | point pointer => rfl

theorem spriteAt?_edited_of_not_concerns (h : ∀ edit ∈ edits, ¬ edit.Concerns name)
    (stage : Stage α) :
    (stage.edited edits).world.spriteAt? name = stage.world.spriteAt? name := by
  induction edits generalizing stage with
  | nil => rfl
  | cons edit edits ih =>
    have hedits : ∀ edit ∈ edits, ¬ edit.Concerns name :=
      fun other hother => h other (List.mem_cons_of_mem edit hother)
    exact (ih hedits (stage.edit edit)).trans
      (spriteAt?_edit_of_not_concerns (h edit List.mem_cons_self) stage)

/-- A name that is not there stays so until it is placed. -/
theorem spriteAt?_edited_of_not_placed (h : ∀ position, .place name position ∉ edits)
    {stage : Stage α} (hstage : stage.world.spriteAt? name = none) :
    (stage.edited edits).world.spriteAt? name = none := by
  induction edits generalizing stage with
  | nil => exact hstage
  | cons edit edits ih =>
    apply ih fun position hmem => h position (List.mem_cons_of_mem edit hmem)
    cases edit with
    | place other position =>
      have hother : other ≠ name := by
        rintro rfl
        exact h position List.mem_cons_self
      rw [Stage.edit, world_place, if_neg hother, hstage]
    | remove other =>
      rw [Stage.edit, world_remove, hstage, ite_self]
    | point pointer => exact hstage

theorem spriteAt?_of_standsAt {position : Vec2 α} (h : StandsAt edits name position)
    (stage : Stage α) : (stage.edited edits).world.spriteAt? name = some position := by
  obtain ⟨before, since, rfl, hsince⟩ := h
  rw [edited_append]
  change (((stage.edited before).place name position).edited since).world.spriteAt? name = _
  rw [spriteAt?_edited_of_not_concerns hsince, world_place, if_pos rfl]

theorem spriteAt?_of_missing [Scalar α] (h : Missing edits name) :
    (empty.edited edits).world.spriteAt? name = none := by
  rcases h with hnever | ⟨before, since, rfl, hsince⟩
  · exact spriteAt?_edited_of_not_placed hnever rfl
  · rw [edited_append]
    change (((empty.edited before).remove name).edited since).world.spriteAt? name = none
    apply spriteAt?_edited_of_not_placed hsince
    rw [world_remove, if_pos rfl]

end Stage

/-! ## Blocks with a name for their destination -/

/-- **A missing sprite changes nothing**: after any history of a stage, blocks that go to a missing
sprite or face it leave the target, the random numbers and all else as it was, and one that glides
to it is done and leaves its slot empty, whatever was in it and whatever the time. If the sprite
stands somewhere, then going, facing and gliding all take the place where it was placed last. -/
theorem missing_sprite_changes_nothing {γ τ : Type} [Scalar α] [Draws γ α] [Movable τ α]
    (edits : List (Edit α)) (name : String) (now : α) (actor : Actor γ τ α) :
    let moment : Moment α := ⟨(Stage.empty.edited edits).world, now⟩
    let going := (Block.goTo (.named name)).tick moment actor
    let facing := (Block.pointTowards (.named name)).tick moment actor
    let gliding := fun seconds => (Block.glideTo seconds (.named name)).tick moment actor
    (Missing edits name →
      going.toActor = actor ∧ facing.toActor = actor ∧
      ∀ seconds, (gliding seconds).progress = .done ∧
        (gliding seconds).toActor = { actor with slot := none }) ∧
    ∀ position, StandsAt edits name position →
      going.toActor = actor.setPosition position ∧
      facing.toActor =
        actor.setHeading (Heading.towards (Movable.position actor.target) position) ∧
      ∀ seconds, gliding seconds = actor.glide now seconds position := by
  intro moment going facing gliding
  constructor
  · intro hmissing
    have hlost : moment.world.spriteAt? name = none := Stage.spriteAt?_of_missing hmissing
    refine ⟨?_, ?_, fun seconds => ?_⟩
    · simp only [going, Block.goTo_of_lost hlost, Actor.rest]
    · simp only [facing, Block.pointTowards_of_lost hlost, Actor.rest]
    · simp only [gliding, Block.glideTo_of_lost seconds hlost, Actor.rest, true_and]
  · intro position hstands
    have hpresent : moment.world.spriteAt? name = some position :=
      Stage.spriteAt?_of_standsAt hstands _
    have hlook := actor.palette.lookUp_of_present hpresent
    have hfound : (actor.palette.lookUp moment.world (.named name)).point? = some position := by
      rw [hlook]
    refine ⟨?_, ?_, fun seconds => ?_⟩
    · simp only [going, Block.goTo_of_found hfound, hlook]
      rfl
    · simp only [facing, Block.pointTowards_of_found Destination.noConfusion hfound, Actor.rest]
    · simp only [gliding, Block.glideTo_of_found seconds hfound, hlook]
      rfl

/-- A ball whose glide to a dog is long over when the dog is gone. The cat was moved meanwhile. -/
theorem missing_sprite_changes_nothing_dog :
    let edits : List (Edit ℝ) := [.place "dog" ⟨100, -20⟩, .place "cat" ⟨0, 0⟩, .remove "dog",
      .place "cat" ⟨5, 6⟩, .point ⟨-60, 80⟩]
    let ball : Sprite ℝ := .create "ball" none .standard
    let actor : Actor (ℕ → ℝ) (Sprite ℝ) ℝ :=
      ⟨⟨.standard, fun _ => 0⟩, some ⟨⟨0⟩, 2000, ⟨0, 0⟩, ⟨100, -20⟩⟩, ball⟩
    let moment : Moment ℝ := ⟨(Stage.empty.edited edits).world, 9000⟩
    let glide := (Block.glideTo 0 (.named "dog")).tick moment actor
    let go := (Block.goTo (.named "cat")).tick moment actor
    Missing edits "dog" ∧ StandsAt edits "cat" ⟨5, 6⟩ ∧
      glide.progress = .done ∧ glide.slot = none ∧ glide.target = ball ∧
      go.target.position = ⟨5, 6⟩ := by
  intro edits ball actor moment glide go
  have hmissing : Missing edits "dog" :=
    .inr ⟨[.place "dog" ⟨100, -20⟩, .place "cat" ⟨0, 0⟩],
      [.place "cat" ⟨5, 6⟩, .point ⟨-60, 80⟩], rfl, by simp⟩
  have hstands : StandsAt edits "cat" ⟨5, 6⟩ :=
    ⟨[.place "dog" ⟨100, -20⟩, .place "cat" ⟨0, 0⟩, .remove "dog"], [.point ⟨-60, 80⟩], rfl,
      by simp [Edit.Concerns]⟩
  obtain ⟨-, -, hglide⟩ := (missing_sprite_changes_nothing edits "dog" 9000 actor).1 hmissing
  obtain ⟨hdone, hactor⟩ := hglide 0
  obtain ⟨hgo, -, -⟩ := (missing_sprite_changes_nothing edits "cat" 9000 actor).2 _ hstands
  refine ⟨hmissing, hstands, hdone, congrArg Actor.slot hactor, congrArg Actor.target hactor, ?_⟩
  exact congrArg (fun actor => actor.target.position) hgo

end StageMotion
