import StageMotion.Proofs.Block.Lookup
import StageMotion.Proofs.Block.Runs
import StageMotion.Proofs.Number.Rounding
import StageMotion.Scalar.Real
import StageMotion.Movable

/-!
# What blocks leave alone

A block changes of a sprite what it is about and nothing else: `Block.aspects` says what that is,
and after any operations a sprite differs from what it was in the aspects of the blocks among them
alone (`Actor.operate_sameBut`). Four of the blocks act on one coordinate of the position. Each of
them puts the sprite somewhere, and takes the other coordinate from where it is; in exact arithmetic
that is to keep it (`Actor.call_axis`). So a run of blocks of one axis is a matter of one coordinate
(`Actor.run_axis`), and runs of the two axes commute (`blocks_framed`).

Programs are shown a coordinate without rounding noise. What they see is as good as what there is:
it is never off by more than the noise, and it puts no two sprites in another order. And a program
that sets a coordinate to what it was shown moves the sprite by noise only and is shown the same
again (`reported_coordinates_faithful`).
-/

namespace StageMotion

/-! ## Sprites that differ in some aspects -/

namespace Sprite

variable {α : Type}

/-- Two sprites that differ in nothing but the given aspects. -/
structure SameBut (aspects : List Aspect) (before after : Sprite α) : Prop where
  name : after.name = before.name
  costume : after.costume = before.costume
  visible : after.visible = before.visible
  field : after.field = before.field
  position : .position ∉ aspects → after.position = before.position
  heading : .heading ∉ aspects → after.heading = before.heading
  style : .style ∉ aspects → after.rotationStyle = before.rotationStyle

theorem SameBut.refl (aspects : List Aspect) (sprite : Sprite α) : sprite.SameBut aspects sprite :=
  ⟨rfl, rfl, rfl, rfl, fun _ => rfl, fun _ => rfl, fun _ => rfl⟩

/-- A sprite goes on to differ in nothing but the given aspects if one of them is set. -/
theorem SameBut.keeps [Scalar α] (before : Sprite α) {aspects : List Aspect} {aspect : Aspect}
    (h : aspect ∈ aspects) : Movable.Keeps (fun after => before.SameBut aspects after) aspect := by
  cases aspect with
  | position =>
    intro after place same
    exact { same with position := fun hnot => absurd h hnot }
  | heading =>
    intro after degrees same
    change before.SameBut aspects (after.setHeading degrees)
    rw [setHeading]
    split
    · exact { same with heading := fun hnot => absurd h hnot }
    · exact same
  | style =>
    intro after style same
    exact { same with style := fun hnot => absurd h hnot }

end Sprite

/-! ## Operations -/

/-- What a program can do with the blocks of a palette and a sprite. -/
inductive Operation (α : Type)
  | run (call : Call α)
  /-- Looks a destination up, which may draw random numbers. -/
  | lookUp (world : World α) (goal : Destination)
  /-- Reads a coordinate, the heading or the playfield. -/
  | read

/-- What an operation can change of the sprite. -/
def Operation.aspects {α : Type} : Operation α → List Aspect
  | run call => call.block.aspects
  | lookUp .. | read => []

namespace Actor

variable {γ α : Type} [Scalar α] [Draws γ α]

/-- The actor after an operation. -/
def after (actor : Actor γ (Sprite α) α) : Operation α → Actor γ (Sprite α) α
  | .run call => (actor.call call).toActor
  | .lookUp world goal => actor.setSource (actor.palette.lookUp world goal).source
  | .read => actor

/-- The actor after some operations, one after another. -/
def operate (actor : Actor γ (Sprite α) α) (operations : List (Operation α)) :
    Actor γ (Sprite α) α :=
  operations.foldl after actor

theorem after_keeps {P : Sprite α → Prop} {operation : Operation α}
    (keeps : ∀ aspect ∈ operation.aspects, Movable.Keeps P aspect) {actor : Actor γ (Sprite α) α}
    (h : P actor.target) : P (actor.after operation).target := by
  cases operation with
  | run call => exact Block.tick_keeps keeps call.moment h
  | lookUp | read => exact h

theorem operate_keeps {P : Sprite α → Prop} (operations : List (Operation α))
    (keeps : ∀ operation ∈ operations, ∀ aspect ∈ operation.aspects, Movable.Keeps P aspect)
    {actor : Actor γ (Sprite α) α} (h : P actor.target) : P (actor.operate operations).target := by
  induction operations generalizing actor with
  | nil => exact h
  | cons operation operations ih =>
    apply ih fun other hother => keeps other (List.mem_cons_of_mem operation hother)
    exact after_keeps (keeps operation List.mem_cons_self) h

/-- After any operations, a sprite differs from what it was in their aspects alone. -/
theorem operate_sameBut (actor : Actor γ (Sprite α) α) (operations : List (Operation α)) :
    actor.target.SameBut (operations.flatMap Operation.aspects)
      (actor.operate operations).target := by
  apply operate_keeps operations
  · intro operation hoperation aspect haspect
    exact Sprite.SameBut.keeps _ (List.mem_flatMap.mpr ⟨operation, hoperation, haspect⟩)
  · exact .refl _ _

/-- After a run, a sprite differs from what it was in what the blocks are about. -/
theorem run_sameBut (actor : Actor γ (Sprite α) α) (calls : List (Call α)) :
    actor.target.SameBut (calls.flatMap fun c => c.block.aspects) (actor.run calls).target := by
  apply run_keeps_of calls
  · intro c hc aspect haspect
    exact Sprite.SameBut.keeps _ (List.mem_flatMap.mpr ⟨c, hc, haspect⟩)
  · exact .refl _ _

end Actor

/-! ## Axes -/

/-- The two coordinates of a position. -/
inductive Axis
  | horizontal
  | vertical
  deriving DecidableEq, Repr

namespace Vec2

variable {α : Type}

/-- The coordinate on an axis. -/
def along (v : Vec2 α) : Axis → α
  | .horizontal => v.x
  | .vertical => v.y

/-- The vector with another coordinate on an axis. -/
def set (v : Vec2 α) (r : α) : Axis → Vec2 α
  | .horizontal => { v with x := r }
  | .vertical => { v with y := r }

theorem set_along (v : Vec2 α) (axis : Axis) : v.set (v.along axis) axis = v := by
  cases axis <;> rfl

theorem along_set (v : Vec2 α) (r : α) (axis : Axis) : (v.set r axis).along axis = r := by
  cases axis <;> rfl

theorem along_set_of_ne (v : Vec2 α) (r : α) {axis other : Axis} (h : axis ≠ other) :
    (v.set r axis).along other = v.along other := by
  cases axis <;> cases other <;> first | rfl | exact absurd rfl h

theorem set_set (v : Vec2 α) (r s : α) (axis : Axis) :
    (v.set r axis).set s axis = v.set s axis := by
  cases axis <;> rfl

theorem set_comm (v : Vec2 α) (r s : α) {axis other : Axis} (h : axis ≠ other) :
    (v.set r axis).set s other = (v.set s other).set r axis := by
  cases axis <;> cases other <;> first | rfl | exact absurd rfl h

theorem add_horizontal (v : Vec2 ℝ) (r : ℝ) : v + ⟨r, 0.0⟩ = v.set (v.x + r) .horizontal := by
  ext <;> norm_num [set]

theorem add_vertical (v : Vec2 ℝ) (r : ℝ) : v + ⟨0.0, r⟩ = v.set (v.y + r) .vertical := by
  ext <;> norm_num [set]

end Vec2

namespace Block

/-- The axis that a block acts on, if it acts on one alone. -/
def axis? {α : Type} : Block α → Option Axis
  | changeX _ | setX _ => some .horizontal
  | changeY _ | setY _ => some .vertical
  | _ => none

/-- What a block of an axis makes of the coordinate on it. -/
def shift (r : ℝ) : Block ℝ → ℝ
  | changeX amount | changeY amount => r + amount
  | setX r | setY r => r
  | _ => r

end Block

namespace Actor

variable [Elementary] {γ : Type} [Draws γ ℝ] {axis : Axis}

/-- A block of an axis keeps the other coordinate, and all else. -/
theorem call_axis (actor : Actor γ (Sprite ℝ) ℝ) {c : Call ℝ} (h : c.block.axis? = some axis) :
    (actor.call c).target =
      { actor.target with
        position := actor.target.position.set
          (c.block.shift (actor.target.position.along axis)) axis } := by
  obtain ⟨block, moment, slot⟩ := c
  let put (position : Vec2 ℝ) : Sprite ℝ := { actor.target with position }
  cases block with
  | changeX amount =>
    cases h
    exact congrArg put (Vec2.add_horizontal actor.target.position amount)
  | changeY amount =>
    cases h
    exact congrArg put (Vec2.add_vertical actor.target.position amount)
  | setX | setY =>
    cases h
    rfl
  | _ => cases h

theorem run_axis (actor : Actor γ (Sprite ℝ) ℝ) {calls : List (Call ℝ)}
    (h : ∀ c ∈ calls, c.block.axis? = some axis) :
    (actor.run calls).target =
      { actor.target with
        position := actor.target.position.set
          (calls.foldl (fun r c => c.block.shift r) (actor.target.position.along axis)) axis } := by
  induction calls generalizing actor with
  | nil => simp [Vec2.set_along]
  | cons c calls ih =>
    rw [run_cons, ih _ fun d hd => h d (List.mem_cons_of_mem c hd),
      actor.call_axis (h c List.mem_cons_self)]
    simp only [Vec2.along_set, Vec2.set_set, List.foldl_cons]

/-- Runs of blocks of two axes commute. -/
theorem run_comm (actor : Actor γ (Sprite ℝ) ℝ) {other : Axis} (hne : axis ≠ other)
    {calls more : List (Call ℝ)} (h : ∀ c ∈ calls, c.block.axis? = some axis)
    (hmore : ∀ c ∈ more, c.block.axis? = some other) :
    (actor.run (calls ++ more)).target = (actor.run (more ++ calls)).target := by
  rw [run_append, run_append, run_axis _ hmore, run_axis _ h, run_axis _ h, run_axis _ hmore]
  simp only [Vec2.along_set_of_ne _ _ hne, Vec2.along_set_of_ne _ _ hne.symm,
    Vec2.set_comm _ _ _ hne]

end Actor

section

variable [Elementary] {γ : Type} [Draws γ ℝ]

/-- **Blocks change what they are about**: after any operations, a sprite differs from what it was
in the aspects of the blocks among them alone, so its name, its costume, its playfield and whether
it is visible are never changed. A run of blocks of one axis changes nothing but the coordinate on
that axis, in a way that depends on the blocks and on that coordinate alone; and runs of blocks of
the two axes commute. -/
theorem blocks_framed (actor : Actor γ (Sprite ℝ) ℝ) :
    (∀ operations : List (Operation ℝ),
      actor.target.SameBut (operations.flatMap Operation.aspects)
        (actor.operate operations).target) ∧
    (∀ (axis : Axis) (calls : List (Call ℝ)), (∀ c ∈ calls, c.block.axis? = some axis) →
      (actor.run calls).target =
        { actor.target with
          position := actor.target.position.set
            (calls.foldl (fun r c => c.block.shift r) (actor.target.position.along axis)) axis }) ∧
    ∀ calls more : List (Call ℝ), (∀ c ∈ calls, c.block.axis? = some .horizontal) →
      (∀ c ∈ more, c.block.axis? = some .vertical) →
        (actor.run (calls ++ more)).target = (actor.run (more ++ calls)).target :=
  ⟨actor.operate_sameBut, fun _ _ => actor.run_axis, fun _ _ => actor.run_comm Axis.noConfusion⟩

end

/-- A cat that turns and has its style set keeps its place. Then one pair of blocks takes it to the
right and another down, in either order. -/
theorem blocks_framed_cat :
    let cat : Sprite ℝ := .create "cat" (some ⟨40, 40⟩) .standard
    let actor : Actor (ℕ → ℝ) (Sprite ℝ) ℝ := ⟨⟨.standard, fun _ => 0⟩, none, cat⟩
    let call : Block ℝ → Call ℝ := fun block => ⟨block, ⟨Stage.empty.world, 0⟩, none⟩
    let looks : List (Operation ℝ) := [.run (call (.turnRight 20)),
      .lookUp Stage.empty.world .random, .run (call (.setRotationStyle "left-right")), .read]
    let right := [call (.setX 3), call (.changeX 2)]
    let down := [call (.changeY (-6)), call (.changeY 4)]
    (actor.operate looks).target.position = cat.position ∧
      (∀ c ∈ right, c.block.axis? = some .horizontal) ∧
      (∀ c ∈ down, c.block.axis? = some .vertical) ∧
      (actor.run right).target.position = ⟨5, 0⟩ ∧ (actor.run down).target.position = ⟨0, -2⟩ ∧
      (actor.run (right ++ down)).target = (actor.run (down ++ right)).target := by
  intro cat actor call looks right down
  obtain ⟨hframe, haxis, hcomm⟩ := blocks_framed actor
  have hright : ∀ c ∈ right, c.block.axis? = some .horizontal := by simp [right, call, Block.axis?]
  have hdown : ∀ c ∈ down, c.block.axis? = some .vertical := by simp [down, call, Block.axis?]
  have hstart : actor.target.position = ⟨0, 0⟩ := by
    norm_num [actor, cat, Sprite.create, Vec2.origin]
  refine ⟨(hframe looks).position (by decide), hright, hdown, ?_, ?_, hcomm right down hright hdown⟩
  · rw [haxis .horizontal right hright, hstart]
    norm_num [right, call, Block.shift, Vec2.set]
  · rw [haxis .vertical down hdown, hstart]
    norm_num [down, call, Block.shift, Vec2.set, Vec2.along]

/-! ## Coordinates as programs see them -/

section

variable {τ α : Type} [Scalar α] [Movable τ α]

/-- The coordinate on an axis, as programs see it. -/
def Movable.readAlong (target : τ) : Axis → α
  | .horizontal => readX target
  | .vertical => readY target

/-- The block that sets the coordinate on an axis. -/
def Block.setAlong (r : α) : Axis → Block α
  | .horizontal => setX r
  | .vertical => setY r

theorem Movable.readAlong_eq (target : τ) (axis : Axis) :
    readAlong target axis = snap ((position target).along axis) := by
  cases axis <;> rfl

theorem Actor.call_setAlong {γ : Type} [Draws γ α] (actor : Actor γ (Sprite α) α) (r : α)
    (axis : Axis) (moment : Moment α) (slot : Option (Glide α)) :
    (actor.call ⟨.setAlong r axis, moment, slot⟩).target =
      { actor.target with position := actor.target.position.set r axis } := by
  cases axis <;> rfl

end

section

variable [Elementary]

/-- **What programs see of a place**: snapping keeps the order of numbers and treats both signs
alike, it takes a number by less than the noise and only once, and it gives a whole number exactly
where there is one within the noise. So to set a coordinate of a sprite to what is seen of it
changes that coordinate by less than the noise, nothing of what is seen, and nothing else; and of
two sprites, the one that is farther along an axis is not seen before the other. -/
theorem reported_coordinates_faithful {γ : Type} [Draws γ ℝ] :
    (∀ a b : ℝ, a ≤ b → snap a ≤ snap b) ∧
    (∀ a : ℝ, snap (-a) = -snap a ∧ |snap a - a| < 1e-9 ∧ snap (snap a) = snap a ∧
      ((∃ n : ℤ, snap a = n) ↔ ∃ n : ℤ, |a - n| < 1e-9)) ∧
    (∀ (actor : Actor γ (Sprite ℝ) ℝ) (moment : Moment ℝ) (slot : Option (Glide ℝ)) (axis : Axis),
      let sprite := actor.target
      let seen := Movable.readAlong sprite axis
      let after := (actor.call ⟨.setAlong seen axis, moment, slot⟩).target
      after = { sprite with position := sprite.position.set seen axis } ∧
        |after.position.along axis - sprite.position.along axis| < 1e-9 ∧
        Movable.readAlong after axis = seen) ∧
    ∀ (axis : Axis) (sprite other : Sprite ℝ),
      sprite.position.along axis ≤ other.position.along axis →
        Movable.readAlong sprite axis ≤ Movable.readAlong other axis := by
  refine ⟨fun a b => snap_le_snap,
    fun a => ⟨snap_neg a, abs_snap_sub_lt a, snap_snap a, exists_snap_eq_intCast_iff⟩, ?_, ?_⟩
  · intro actor moment slot axis sprite seen after
    have hseen : seen = snap (sprite.position.along axis) := Movable.readAlong_eq sprite axis
    have hafter : after = { sprite with position := sprite.position.set seen axis } :=
      actor.call_setAlong seen axis moment slot
    have hplace : after.position.along axis = seen := by rw [hafter, Vec2.along_set]
    refine ⟨hafter, ?_, ?_⟩
    · rw [hplace, hseen]
      exact abs_snap_sub_lt _
    · rw [Movable.readAlong_eq]
      change snap (after.position.along axis) = seen
      rw [hplace, hseen, snap_snap]
  · intro axis sprite other h
    rw [Movable.readAlong_eq, Movable.readAlong_eq]
    exact snap_le_snap h

end

/-- A cat at less than ten, by noise, is seen at ten and not beyond a dog at more than ten. Told to
go to ten, it is there. -/
theorem reported_coordinates_faithful_cat :
    let cat : Sprite ℝ :=
      { Sprite.create "cat" none .standard with position := ⟨9.9999999999, 2.5⟩ }
    let dog : Sprite ℝ := { Sprite.create "dog" none .standard with position := ⟨10.25, 0⟩ }
    let actor : Actor (ℕ → ℝ) (Sprite ℝ) ℝ := ⟨⟨.standard, fun _ => 0⟩, none, cat⟩
    cat.position.x ≤ dog.position.x ∧ Movable.readX cat = 10 ∧
      Movable.readX cat ≤ Movable.readX dog ∧
      (actor.call ⟨.setX (Movable.readX cat), ⟨Stage.empty.world, 0⟩, none⟩).target.position =
        ⟨10, 2.5⟩ := by
  intro cat dog actor
  obtain ⟨-, -, hset, horder⟩ := reported_coordinates_faithful (γ := ℕ → ℝ)
  have hplaces : cat.position.x ≤ dog.position.x := by norm_num [cat, dog]
  have hseen : Movable.readX cat = 10 := by
    have hnear : |cat.position.x - ((10 : ℤ) : ℝ)| < 1e-9 := by norm_num [cat, abs_lt]
    exact_mod_cast snap_of_near hnear
  obtain ⟨hafter, -, -⟩ := hset actor ⟨Stage.empty.world, 0⟩ none .horizontal
  refine ⟨hplaces, hseen, horder .horizontal cat dog hplaces, ?_⟩
  rw [← hseen]
  exact congrArg Sprite.position hafter

end StageMotion
