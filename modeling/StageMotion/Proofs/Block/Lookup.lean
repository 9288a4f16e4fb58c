import StageMotion.Block

/-!
# Blocks that look a destination up

Three blocks look their destination up before they do anything else, and what they find decides what
they do: with a point they do what a block does that is told the point, and without one they leave
their target alone. Only a random place takes draws, and only a sprite that is not there has no
point.

* `Palette.lookUp` : what a destination is to the blocks of a palette;
* `Turn.glideTick` : a turn of a block, seen as a tick of its slot;
* `Block.goTo_of_found`, `Block.pointTowards_of_found`, `Block.glideTo_of_found` : the blocks when
  their destination has a point;
* `Block.goTo_of_lost`, `Block.pointTowards_of_lost`, `Block.glideTo_of_lost` : the blocks when it
  is a sprite that is not there.
-/

namespace StageMotion

variable {γ τ α : Type} [Scalar α] [Draws γ α]

/-! ## Looking up -/

namespace Palette

/-- What a destination is to the blocks of a palette. -/
def lookUp (palette : Palette γ α) (world : World α) (goal : Destination) : Resolved γ α :=
  goal.resolve world palette.field palette.source

variable {palette : Palette γ α} {world : World α} {goal : Destination} {name : String}
  {point : Vec2 α}

/-- Finding a point leaves no note. -/
theorem lookUp_notes (h : (palette.lookUp world goal).point? = some point) :
    (palette.lookUp world goal).notes = [] := by
  cases goal with
  | pointer | random => rfl
  | named name =>
    simp only [lookUp, Destination.resolve] at h ⊢
    split at h
    · rfl
    · cases h

/-- Only a sprite that is not there has no point. -/
theorem exists_lost (h : (palette.lookUp world goal).point? = none) :
    ∃ name, goal = .named name ∧ world.spriteAt? name = none := by
  cases goal with
  | pointer | random => cases h
  | named name =>
    simp only [lookUp, Destination.resolve] at h
    split at h
    · cases h
    · exact ⟨name, rfl, ‹_›⟩

variable (palette)

theorem lookUp_source (h : goal ≠ .random) :
    (palette.lookUp world goal).source = palette.source := by
  cases goal with
  | pointer => rfl
  | random => exact absurd rfl h
  | named name =>
    simp only [lookUp, Destination.resolve]
    split <;> rfl

theorem lookUp_of_present (h : world.spriteAt? name = some point) :
    palette.lookUp world (.named name) = ⟨some point, palette.source, []⟩ := by
  simp only [lookUp, Destination.resolve, h]

theorem lookUp_of_lost (h : world.spriteAt? name = none) :
    palette.lookUp world (.named name) = ⟨none, palette.source, [.spriteUnknown name]⟩ := by
  simp only [lookUp, Destination.resolve, h]

end Palette

/-! ## What is found decides -/

/-- What a turn leaves, seen as a tick of the slot. -/
def Turn.glideTick (turn : Turn γ τ α) : GlideTick τ α :=
  ⟨turn.slot, turn.target, turn.progress, turn.notes⟩

namespace Block

variable {moment : Moment α} {actor : Actor γ τ α} {goal : Destination} {point : Vec2 α}
  {name : String}

theorem tick_resolve : tick.resolve moment actor goal = actor.palette.lookUp moment.world goal :=
  rfl

variable [Movable τ α]

theorem goTo_of_found (h : (actor.palette.lookUp moment.world goal).point? = some point) :
    (goTo goal).tick moment actor =
      ((actor.setSource (actor.palette.lookUp moment.world goal).source).setPosition point).rest
        [.wentTo goal point] := by
  simp only [tick, tick_resolve, h, Palette.lookUp_notes h, List.nil_append]

theorem glideTo_of_found (seconds : α)
    (h : (actor.palette.lookUp moment.world goal).point? = some point) :
    (glideTo seconds goal).tick moment actor =
      (actor.setSource (actor.palette.lookUp moment.world goal).source).glide moment.now seconds
        point := by
  simp only [tick, tick_resolve, h, Palette.lookUp_notes h, List.nil_append]

/-- A block that finds a point glides as one does that is told the point. -/
theorem glideTick_glideTo_of_found (seconds : α)
    (h : (actor.palette.lookUp moment.world goal).point? = some point) :
    ((glideTo seconds goal).tick moment actor).glideTick =
      Glide.tick actor.slot moment.now seconds point actor.target := by
  rw [glideTo_of_found seconds h]
  rfl

/-- Facing a random place is no matter of finding a point: it is a random heading. -/
theorem pointTowards_of_found (hgoal : goal ≠ .random)
    (h : (actor.palette.lookUp moment.world goal).point? = some point) :
    (pointTowards goal).tick moment actor =
      (actor.setHeading (Heading.towards (Movable.position actor.target) point)).rest
        [.pointedTowards goal] := by
  have hsame : actor.setSource (actor.palette.lookUp moment.world goal).source = actor := by
    rw [actor.palette.lookUp_source hgoal]
    rfl
  cases goal with
  | random => exact absurd rfl hgoal
  | pointer | named =>
    simp only [tick, tick_resolve, tick.position, h, hsame, Palette.lookUp_notes h,
      List.nil_append]

theorem goTo_of_lost (h : moment.world.spriteAt? name = none) :
    (goTo (.named name)).tick moment actor = actor.rest [.spriteUnknown name] := by
  simp only [tick, tick_resolve, actor.palette.lookUp_of_lost h]
  rfl

theorem pointTowards_of_lost (h : moment.world.spriteAt? name = none) :
    (pointTowards (.named name)).tick moment actor = actor.rest [.spriteUnknown name] := by
  simp only [tick, tick_resolve, actor.palette.lookUp_of_lost h]
  rfl

/-- A glide to a sprite that is not there is over, and drops what was under way. -/
theorem glideTo_of_lost (seconds : α) (h : moment.world.spriteAt? name = none) :
    (glideTo seconds (.named name)).tick moment actor =
      { actor with slot := none }.rest (.spriteUnknown name ::
        if actor.slot.isSome then [.glideVanished (.named name)] else []) := by
  simp only [tick, tick_resolve, actor.palette.lookUp_of_lost h]
  rfl

end Block

end StageMotion
