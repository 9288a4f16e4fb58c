import StageMotion.Bounce
import StageMotion.Scalar.Real
import StageMotion.Movable

/-!
# The fence

Exact laws of the fence. A box is inside a room if it sticks out on no side (`Bounds.Inside`), or,
what is the same for the room of a playfield, if its gap to every edge is not negative
(`Bounds.inside_iff_gap`). A box that is not larger than the playfield is inside it once it is put
where the fence says (`Playfield.fence_inside`), and so is a sprite whose costume fits
(`Sprite.Fits.keepInFence_inside`).

Of all the places that keep a box inside the playfield, the fence takes the one that is nearest to
where the owner of the box wants to go, on each axis on its own. On one axis, the correction of an
interval is zero if the interval is inside the room (`nudge_of_inside`), and no shift that brings it
inside is shorter (`abs_nudge_le`). So the fence leaves alone what it need not change, its own
places among them (`fence_projects`).
-/

namespace StageMotion

/-! ## Vectors -/

namespace Vec2

theorem add_sub_self (u v : Vec2 ℝ) : u + (v - u) = v := by
  ext <;> simp

/-- The scalar product. -/
def dot (u v : Vec2 ℝ) : ℝ := u.x * v.x + u.y * v.y

theorem smul_dot (k : ℝ) (u v : Vec2 ℝ) : (k • u).dot v = k * u.dot v := by
  simp only [dot, smul_x, smul_y]
  ring

end Vec2

/-! ## Boxes and rooms -/

namespace Bounds

/-- The box does not stick out of the room on any side. -/
structure Inside (box room : Bounds ℝ) : Prop where
  left : room.left ≤ box.left
  right : box.right ≤ room.right
  top : box.top ≤ room.top
  bottom : room.bottom ≤ box.bottom

/-- The room with each side moved outward by the margin. -/
def grow (room : Bounds ℝ) (margin : ℝ) : Bounds ℝ where
  left := room.left - margin
  right := room.right + margin
  top := room.top + margin
  bottom := room.bottom - margin

/-- Moving a box by no more than the margin on each axis keeps it inside the grown room. -/
theorem Inside.translate {box room : Bounds ℝ} (h : box.Inside room) {offset : Vec2 ℝ}
    {margin : ℝ} (hx : |offset.x| ≤ margin) (hy : |offset.y| ≤ margin) :
    (box.translate offset).Inside (room.grow margin) := by
  obtain ⟨hl, hr, ht, hb⟩ := h
  obtain ⟨hx₁, hx₂⟩ := abs_le.mp hx
  obtain ⟨hy₁, hy₂⟩ := abs_le.mp hy
  constructor <;> simp only [Bounds.translate, grow] <;> linarith

variable [Elementary]

theorem centered_eq (center size : Vec2 ℝ) : centered center size =
    ⟨center.x - size.x / 2, center.x + size.x / 2, center.y + size.y / 2,
      center.y - size.y / 2⟩ := by
  unfold centered
  norm_num

theorem centered_translate (center size offset : Vec2 ℝ) :
    (centered center size).translate offset = centered (center + offset) size := by
  simp only [centered_eq, translate, Vec2.add_x, Vec2.add_y]
  congr 1 <;> ring

end Bounds

/-! ## Gaps -/

section

variable [Elementary]

theorem Playfield.bounds_eq (field : Playfield ℝ) : field.bounds =
    ⟨-(field.width / 2), field.width / 2, field.height / 2, -(field.height / 2)⟩ := by
  unfold Playfield.bounds
  rw [Bounds.centered_eq]
  norm_num [Vec2.origin]

theorem Playfield.half_eq (field : Playfield ℝ) :
    field.half = ⟨field.width / 2, field.height / 2⟩ := by
  unfold Playfield.half
  norm_num

/-- The direction that leads straight away from an edge, into the stage. -/
def Edge.inward : Edge → Vec2 ℝ
  | .left => ⟨1, 0⟩
  | .top => ⟨0, -1⟩
  | .right => ⟨-1, 0⟩
  | .bottom => ⟨0, 1⟩

namespace Bounds

/-- The signed distance from a box to an edge of the playfield, negative past the edge. -/
noncomputable def gap (box : Bounds ℝ) (field : Playfield ℝ) : Edge → ℝ
  | .left => field.half.x + box.left
  | .top => field.half.y - box.top
  | .right => field.half.x - box.right
  | .bottom => field.half.y + box.bottom

theorem clearance_eq (box : Bounds ℝ) (field : Playfield ℝ) (edge : Edge) :
    box.clearance field edge = max 0 (box.gap field edge) := by
  cases edge <;> simp only [clearance, gap, atLeast_eq_max] <;> norm_num

/-- A gap grows by the part of a displacement that leads away from its edge. -/
theorem gap_translate (box : Bounds ℝ) (field : Playfield ℝ) (offset : Vec2 ℝ) (edge : Edge) :
    (box.translate offset).gap field edge = box.gap field edge + offset.dot edge.inward := by
  cases edge <;> simp only [gap, translate, Vec2.dot, Edge.inward] <;> ring

theorem inside_iff_gap {box : Bounds ℝ} {field : Playfield ℝ} :
    box.Inside field.bounds ↔ ∀ edge, 0 ≤ box.gap field edge := by
  rw [field.bounds_eq]
  constructor
  · rintro ⟨hl, hr, ht, hb⟩ edge
    cases edge <;> simp only [gap, field.half_eq] at * <;> linarith
  · intro h
    have hl := h .left
    have hr := h .right
    have ht := h .top
    have hb := h .bottom
    simp only [gap, field.half_eq] at hl hr ht hb
    constructor <;> simp only <;> linarith

end Bounds

/-! ## The fence -/

theorem nudge_of_inside {lo hi a b : ℝ} (hlo : lo ≤ a) (hhi : b ≤ hi) : nudge lo hi a b = 0 := by
  rw [nudge, if_neg (not_lt.mpr hlo), if_neg (not_lt.mpr hhi)]
  norm_num

/-- An interval that is not longer than the room is inside it after the correction. -/
theorem nudge_inside {lo hi a b : ℝ} (h : b - a ≤ hi - lo) :
    lo ≤ a + nudge lo hi a b ∧ b + nudge lo hi a b ≤ hi := by
  unfold nudge
  constructor <;> split_ifs <;> linarith

/-- **The fence holds**: a box that is not larger than the playfield is inside it once its owner
is where the fence says. -/
theorem Playfield.fence_inside (field : Playfield ℝ) (box : Bounds ℝ) (current goal : Vec2 ℝ)
    (hw : box.right - box.left ≤ field.width) (hh : box.top - box.bottom ≤ field.height) :
    (box.translate (field.fence box current goal - current)).Inside field.bounds := by
  set room := field.bounds with hroom
  set moved := box.translate (goal - current) with hmoved
  have hx : room.left ≤ moved.left + nudge room.left room.right moved.left moved.right ∧
      moved.right + nudge room.left room.right moved.left moved.right ≤ room.right := by
    apply nudge_inside
    simp only [hroom, hmoved, field.bounds_eq, Bounds.translate]
    linarith
  have hy : room.bottom ≤ moved.bottom + nudge room.bottom room.top moved.bottom moved.top ∧
      moved.top + nudge room.bottom room.top moved.bottom moved.top ≤ room.top := by
    apply nudge_inside
    simp only [hroom, hmoved, field.bounds_eq, Bounds.translate]
    linarith
  have e : field.fence box current goal = goal +
      ⟨nudge room.left room.right moved.left moved.right,
        nudge room.bottom room.top moved.bottom moved.top⟩ := rfl
  have hl : moved.left = box.left + (goal.x - current.x) := rfl
  have hr : moved.right = box.right + (goal.x - current.x) := rfl
  have ht : moved.top = box.top + (goal.y - current.y) := rfl
  have hb : moved.bottom = box.bottom + (goal.y - current.y) := rfl
  rw [e]
  constructor <;> simp only [Bounds.translate, Vec2.sub_x, Vec2.sub_y, Vec2.add_x, Vec2.add_y] <;>
    linarith

/-! ## Sprites -/

namespace Sprite

/-- A visible sprite that wears a costume of the given size and is fenced into the playfield. The
costume may be larger than the playfield. -/
structure Wears (sprite : Sprite ℝ) (size : Vec2 ℝ) (field : Playfield ℝ) : Prop where
  visible : sprite.visible = true
  costume : sprite.costume = some size
  field_eq : sprite.field = field

/-- A visible sprite that wears a costume of the given size, no larger than the playfield it is
fenced into. -/
structure Fits (sprite : Sprite ℝ) (size : Vec2 ℝ) (field : Playfield ℝ) : Prop
    extends sprite.Wears size field where
  width_nonneg : 0 ≤ size.x
  width_le : size.x ≤ field.width
  height_nonneg : 0 ≤ size.y
  height_le : size.y ≤ field.height

variable {sprite : Sprite ℝ} {size : Vec2 ℝ} {field : Playfield ℝ}

theorem Wears.bounds?_eq (wears : sprite.Wears size field) :
    sprite.bounds? = some (.centered sprite.position size) := by
  simp [bounds?, wears.visible, wears.costume]

/-- A sprite whose costume is no larger than the playfield is inside it where its own fence puts
it. -/
theorem Wears.keepInFence_inside (wears : sprite.Wears size field) (hw : size.x ≤ field.width)
    (hh : size.y ≤ field.height) (goal : Vec2 ℝ) :
    (Bounds.centered (sprite.keepInFence goal) size).Inside field.bounds := by
  have h := field.fence_inside (.centered sprite.position size) sprite.position goal
    (by simp only [Bounds.centered_eq]; linarith) (by simp only [Bounds.centered_eq]; linarith)
  rw [Bounds.centered_translate] at h
  have e : sprite.position + (field.fence (.centered sprite.position size) sprite.position goal -
      sprite.position) = sprite.keepInFence goal := by
    rw [keepInFence, wears.bounds?_eq, wears.field_eq]
    exact Vec2.add_sub_self _ _
  rwa [e] at h

theorem Fits.keepInFence_inside (fits : sprite.Fits size field) (goal : Vec2 ℝ) :
    (Bounds.centered (sprite.keepInFence goal) size).Inside field.bounds :=
  fits.toWears.keepInFence_inside fits.width_le fits.height_le goal

end Sprite

/-! ## The nearest place inside -/

/-- No shift that brings an interval inside the room is shorter than the correction. -/
theorem abs_nudge_le {lo hi a b shift : ℝ} (hlo : lo ≤ a + shift) (hhi : b + shift ≤ hi) :
    |nudge lo hi a b| ≤ |shift| := by
  rcases le_or_gt lo a with hleft | hleft
  · rcases le_or_gt b hi with hright | hright
    · rw [nudge_of_inside hleft hright, abs_zero]
      exact abs_nonneg shift
    · have hnudge : nudge lo hi a b = hi - b := by
        rw [nudge, if_neg (not_lt.mpr hleft), if_pos hright]
        norm_num
      rw [hnudge, abs_of_neg (by linarith), abs_of_nonpos (by linarith)]
      linarith
  · -- a shift that helps on the left leads to the right, so it would not help on the right
    have hright : b ≤ hi := by linarith
    have hnudge : nudge lo hi a b = lo - a := by
      rw [nudge, if_pos hleft, if_neg (not_lt.mpr hright)]
      norm_num
    rw [hnudge, abs_of_pos (by linarith), abs_of_nonneg (by linarith)]
    linarith

namespace Playfield

variable {field : Playfield ℝ} {box : Bounds ℝ} {current goal : Vec2 ℝ}

/-- The fence leaves alone what is inside. -/
theorem fence_of_inside (inside : (box.translate (goal - current)).Inside field.bounds) :
    field.fence box current goal = goal := by
  obtain ⟨hleft, hright, htop, hbottom⟩ := inside
  simp only [fence, nudge_of_inside hleft hright, nudge_of_inside hbottom htop]
  ext <;> simp

/-- No place that keeps the box inside is nearer to the goal than the one that the fence takes. -/
theorem fence_nearest {place : Vec2 ℝ}
    (inside : (box.translate (place - current)).Inside field.bounds) :
    |(field.fence box current goal).x - goal.x| ≤ |place.x - goal.x| ∧
      |(field.fence box current goal).y - goal.y| ≤ |place.y - goal.y| := by
  obtain ⟨hleft, hright, htop, hbottom⟩ := inside
  simp only [Bounds.translate, Vec2.sub_x, Vec2.sub_y] at hleft hright htop hbottom
  simp only [fence, Vec2.add_x, Vec2.add_y, add_sub_cancel_left]
  constructor
  · apply abs_nudge_le <;> simp only [Bounds.translate, Vec2.sub_x] <;> linarith
  · apply abs_nudge_le <;> simp only [Bounds.translate, Vec2.sub_y] <;> linarith

end Playfield

/-- **The fence is the projection to the places inside**: for a box that is no larger than the
playfield, the place that the fence takes keeps the box inside; it is the goal itself if that does;
no place that does is nearer to the goal on either axis; and the fence leaves it as it is. So a
sprite whose costume is no larger than its playfield is inside it wherever its fence has put it. -/
theorem fence_projects :
    (∀ (field : Playfield ℝ) (box : Bounds ℝ) (current goal : Vec2 ℝ),
      box.right - box.left ≤ field.width → box.top - box.bottom ≤ field.height →
        let Keeps := fun place => (box.translate (place - current)).Inside field.bounds
        let put := field.fence box current goal
        Keeps put ∧ (Keeps goal → put = goal) ∧
        (∀ place, Keeps place →
          |put.x - goal.x| ≤ |place.x - goal.x| ∧ |put.y - goal.y| ≤ |place.y - goal.y|) ∧
        field.fence box current put = put) ∧
    ∀ (sprite : Sprite ℝ) (size goal : Vec2 ℝ), sprite.costume = some size →
      size.x ≤ sprite.field.width → size.y ≤ sprite.field.height →
        let put := Movable.setPosition sprite (sprite.keepInFence goal)
        put.bounds?.isSome = sprite.visible ∧
        ∀ box, put.bounds? = some box → box.Inside sprite.field.bounds := by
  constructor
  · intro field box current goal hw hh Keeps put
    have inside : Keeps put := field.fence_inside box current goal hw hh
    exact ⟨inside, Playfield.fence_of_inside, fun place => Playfield.fence_nearest,
      Playfield.fence_of_inside inside⟩
  · intro sprite size goal hcostume hw hh put
    cases hvisible : sprite.visible with
    | false =>
      have hnone : put.bounds? = none := if_neg (by simp [put, Movable.setPosition, hvisible])
      simp [hnone]
    | true =>
      have wears : sprite.Wears size sprite.field := ⟨hvisible, hcostume, rfl⟩
      have hput : put.Wears size sprite.field := ⟨hvisible, hcostume, rfl⟩
      rw [hput.bounds?_eq]
      refine ⟨rfl, fun box hbox => ?_⟩
      obtain rfl := Option.some.inj hbox
      exact wears.keepInFence_inside hw hh goal

end

/-- A box that is sent past a corner is put where it touches both edges, which is nearer than a
place further inside; a box that is sent to the middle goes there. A poster of the size of the stage
is inside wherever it is sent. -/
theorem fence_projects_corner :
    let field : Playfield ℝ := .standard
    let box : Bounds ℝ := ⟨-20, 20, 15, -15⟩
    let Keeps := fun place => (box.translate (place - ⟨0, 0⟩)).Inside field.bounds
    let put := field.fence box ⟨0, 0⟩ ⟨300, 200⟩
    let poster : Sprite ℝ := .create "poster" (some ⟨480, 360⟩) field
    let hung := Movable.setPosition poster (poster.keepInFence ⟨50, -70⟩)
    box.right - box.left ≤ field.width ∧ box.top - box.bottom ≤ field.height ∧
      put = ⟨220, 165⟩ ∧ Keeps put ∧ field.fence box ⟨0, 0⟩ put = put ∧
      Keeps ⟨200, 0⟩ ∧ |put.x - 300| ≤ |(200 : ℝ) - 300| ∧ |put.y - 200| ≤ |(0 : ℝ) - 200| ∧
      Keeps ⟨50, 50⟩ ∧ field.fence box ⟨0, 0⟩ ⟨50, 50⟩ = ⟨50, 50⟩ ∧
      ∃ room, hung.bounds? = some room ∧ room.Inside field.bounds := by
  intro field box Keeps put poster hung
  have hfield : field = ⟨480, 360⟩ := by norm_num [field, Playfield.standard]
  have hw : box.right - box.left ≤ field.width := by norm_num [box, hfield]
  have hh : box.top - box.bottom ≤ field.height := by norm_num [box, hfield]
  have hput : put = ⟨220, 165⟩ := by
    norm_num [put, hfield, box, Playfield.fence, Playfield.bounds_eq, Bounds.translate, nudge]
    ext <;> norm_num
  have hkeeps : ∀ x y : ℝ, |x| ≤ 200 → |y| ≤ 50 → Keeps ⟨x, y⟩ := by
    intro x y hx hy
    obtain ⟨hx₁, hx₂⟩ := abs_le.mp hx
    obtain ⟨hy₁, hy₂⟩ := abs_le.mp hy
    constructor <;> simp [box, hfield, Playfield.bounds_eq, Bounds.translate] <;> linarith
  obtain ⟨hbox, hsprite⟩ := fence_projects
  obtain ⟨hinside, -, hnearest, hstays⟩ := hbox field box ⟨0, 0⟩ ⟨300, 200⟩ hw hh
  obtain ⟨hx, hy⟩ := hnearest ⟨200, 0⟩ (hkeeps 200 0 (by norm_num) (by norm_num))
  obtain ⟨-, hleft, -, -⟩ := hbox field box ⟨0, 0⟩ ⟨50, 50⟩ hw hh
  have hmiddle : Keeps ⟨50, 50⟩ := hkeeps 50 50 (by norm_num) (by norm_num)
  obtain ⟨hshown, hroom⟩ := hsprite poster ⟨480, 360⟩ ⟨50, -70⟩ rfl
    (by norm_num [poster, Sprite.create, hfield]) (by norm_num [poster, Sprite.create, hfield])
  obtain ⟨room, hsome⟩ := Option.isSome_iff_exists.mp hshown
  exact ⟨hw, hh, hput, hinside, hstays, hkeeps 200 0 (by norm_num) (by norm_num), hx, hy, hmiddle,
    hleft hmiddle, room, hsome, hroom room hsome⟩

end StageMotion
