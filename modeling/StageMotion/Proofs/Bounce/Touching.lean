import StageMotion.Proofs.Bounce.Edges
import StageMotion.Traced

/-!
# Touching an edge

A box touches an edge of the playfield if it reaches it, however far it goes past it. A running
minimum that keeps what it has on a tie finds the first of the nearest edges
(`Bounds.nearestEdge_isFirstNearest`), and the edges that a box touches are all equally near,
because a clearance is never negative. So a target bounces exactly if its bounds touch an edge, and
it bounces off the first of those that they touch (`Bounce.of?_eq`). A block that finds no such edge
tells its target nothing; one that finds an edge tells it a heading and then a place, both of them
made before the target was told anything (`bounce_off_first_touched`).
-/

namespace StageMotion

section

variable [Elementary]

/-! ## The first of the touched edges -/

namespace Bounds

/-- The box reaches an edge of the playfield, or goes past it. -/
def Touches (box : Bounds ℝ) (field : Playfield ℝ) : Edge → Prop
  | .left => box.left ≤ -field.half.x
  | .top => field.half.y ≤ box.top
  | .right => field.half.x ≤ box.right
  | .bottom => box.bottom ≤ -field.half.y

noncomputable instance (box : Bounds ℝ) (field : Playfield ℝ) : DecidablePred (box.Touches field) :=
  Classical.decPred _

/-- The first edge that the box touches, in the order in which edges win ties. -/
noncomputable def firstTouched? (box : Bounds ℝ) (field : Playfield ℝ) : Option Edge :=
  Edge.all.find? fun edge => box.Touches field edge

theorem isSome_firstTouched?_iff (box : Bounds ℝ) (field : Playfield ℝ) :
    (box.firstTouched? field).isSome ↔ ∃ edge, box.Touches field edge := by
  rw [firstTouched?, List.find?_isSome]
  constructor
  · rintro ⟨edge, -, htouches⟩
    exact ⟨edge, of_decide_eq_true htouches⟩
  · rintro ⟨edge, htouches⟩
    have hmem : edge ∈ Edge.all := by cases edge <;> decide
    exact ⟨edge, hmem, decide_eq_true htouches⟩

variable (box : Bounds ℝ) (field : Playfield ℝ)

theorem touches_iff_clearance (edge : Edge) :
    box.Touches field edge ↔ ¬ 0 < box.clearance field edge := by
  rw [clearance_eq, lt_max_iff, not_or, not_lt, not_lt]
  cases edge <;> simp only [Touches, gap, le_refl, true_and] <;> constructor <;> intro h <;>
    linarith

/-- Unless the box touches no edge, the nearest is the first that it touches. -/
theorem firstTouched?_eq : box.firstTouched? field =
    if 0 < (box.nearestEdge field).2 then none else some (box.nearestEdge field).1 := by
  obtain ⟨before, after, hsplit, hbefore, -⟩ : IsFirstNearest (box.clearances field) _ :=
    nearestEdge_isFirstNearest Scalar.ranks_univ fun _ _ => trivial
  split_ifs with hopen
  · apply List.find?_eq_none.mpr
    intro edge _ htouches
    apply (box.touches_iff_clearance field edge).mp (of_decide_eq_true htouches)
    exact lt_of_lt_of_le hopen (box.nearestEdge_le field edge)
  · obtain ⟨earlier, rest, hall, rfl, hrest⟩ := List.map_eq_append_iff.mp hsplit
    obtain ⟨edge, later, rfl, hedge, -⟩ := List.map_eq_cons_iff.mp hrest
    rw [← hedge] at hopen hbefore ⊢
    apply List.find?_eq_some_iff_append.mpr
    refine ⟨decide_eq_true ((box.touches_iff_clearance field edge).mpr hopen), earlier, later, hall,
      fun other hother => ?_⟩
    -- an edge before the nearest is farther away, and so it is not at distance zero
    have hfarther : box.clearance field edge < box.clearance field other :=
      hbefore _ (List.mem_map_of_mem hother)
    have huntouched : ¬ box.Touches field other := by
      rw [box.touches_iff_clearance, not_not]
      have hnonneg : 0 ≤ box.clearance field edge := by
        rw [clearance_eq]
        exact le_max_left _ _
      exact lt_of_le_of_lt hnonneg hfarther
    simpa using huntouched

end Bounds

/-! ## The bounce of a target -/

variable {τ : Type} [Movable τ ℝ]

/-- A target bounces off the first edge that its bounds touch. -/
theorem Bounce.of?_eq (target : τ) (field : Playfield ℝ) : Bounce.of? target field =
    ((Movable.bounds? target).bind fun box => box.firstTouched? field).map fun edge =>
      { edge
        direction := edge.deflect (Movable.heading target)
        heading := headingAlong (edge.deflect (Movable.heading target))
        position := Movable.keepInFence target (Movable.position target) } := by
  have hzero : (0.0 : ℝ) = 0 := by norm_num
  cases hbox : Movable.bounds? target with
  | none => simp [of?, hbox]
  | some box =>
    simp only [of?, hbox, Option.bind_eq_bind, Option.bind_some, box.firstTouched?_eq field, hzero]
    split_ifs <;> rfl

theorem Bounce.isSome_of?_iff (target : τ) (field : Playfield ℝ) : (of? target field).isSome ↔
    ∃ box, Movable.bounds? target = some box ∧ ∃ edge, box.Touches field edge := by
  rw [of?_eq, Option.isSome_map]
  cases hbox : Movable.bounds? target with
  | none => simp
  | some box => simp [box.isSome_firstTouched?_iff field]

variable {γ : Type} [Draws γ ℝ]

/-- **Off the first edge that it touches**: a target bounces exactly if it has bounds and they touch
an edge, and it bounces off the first of the edges that they touch. If it does not bounce, the block
finds no edge and tells it nothing. If it does, the block finds that edge, and tells the target a
heading and after it a place, and nothing else; both come from the target as it was before. -/
theorem bounce_off_first_touched (moment : Moment ℝ) (actor : Actor γ (Traced τ ℝ) ℝ) :
    let target := actor.target.target
    let field := actor.palette.field
    let turn := Block.bounceOnEdge.tick moment actor
    ((Bounce.of? target field).isSome ↔
      ∃ box, Movable.bounds? target = some box ∧ ∃ edge, box.Touches field edge) ∧
    (Bounce.of? target field = none → turn.edge? = none ∧ turn.target = actor.target) ∧
    ∀ bounce, Bounce.of? target field = some bounce →
      (∃ box, Movable.bounds? target = some box ∧ box.firstTouched? field = some bounce.edge) ∧
      turn.edge? = some bounce.edge ∧
      bounce.heading = headingAlong (bounce.edge.deflect (Movable.heading target)) ∧
      bounce.position = Movable.keepInFence target (Movable.position target) ∧
      turn.target =
        ⟨Movable.setPosition (Movable.setHeading target bounce.heading) bounce.position,
          actor.target.changes ++ [.heading bounce.heading, .position bounce.position]⟩ := by
  intro target field turn
  refine ⟨Bounce.isSome_of?_iff target field, fun hnone => ?_, fun bounce hsome => ?_⟩
  · -- a record of what a target was told has the bounds, the heading and the place of the target
    have htraced : Bounce.of? actor.target actor.palette.field = none := hnone
    have hturn : turn = actor.rest [] := Block.bounceOnEdge_of_none htraced
    rw [hturn]
    exact ⟨rfl, rfl⟩
  · have htraced : Bounce.of? actor.target actor.palette.field = some bounce := hsome
    have hturn : turn = _ := Block.bounceOnEdge_of_some htraced
    rw [Bounce.of?_eq, Option.map_eq_some_iff] at hsome
    obtain ⟨edge, hedge, rfl⟩ := hsome
    obtain ⟨box, hbox, hfirst⟩ := Option.bind_eq_some_iff.mp hedge
    refine ⟨⟨box, hbox, hfirst⟩, by rw [hturn], rfl, rfl, ?_⟩
    rw [hturn]
    change Traced.mk _ (_ ++ [_] ++ [_]) = _
    rw [List.append_assoc]
    rfl

end

/-- A cat past the upper left corner touches two edges and bounces off the left one. It is told to
turn, and then to go where it is inside again. -/
theorem bounce_off_first_touched_corner :
    let cat : Sprite ℝ :=
      { Sprite.create "cat" (some ⟨20, 20⟩) .standard with position := ⟨-240, 180⟩ }
    let actor : Actor (ℕ → ℝ) (Traced (Sprite ℝ) ℝ) ℝ :=
      ⟨⟨.standard, fun _ => 0⟩, none, .fresh cat⟩
    let turn := Block.bounceOnEdge.tick ⟨Stage.empty.world, 0⟩ actor
    let box := Bounds.centered cat.position ⟨20, 20⟩
    box.Touches .standard .left ∧ box.Touches .standard .top ∧ turn.edge? = some .left ∧
      ∃ heading, turn.target.changes = [.heading heading, .position ⟨-230, 170⟩] := by
  intro cat actor turn box
  have hfield : (Playfield.standard : Playfield ℝ) = ⟨480, 360⟩ := by norm_num [Playfield.standard]
  have hleft : box.Touches .standard .left := by
    norm_num [Bounds.Touches, hfield, Playfield.half_eq, box, Bounds.centered_eq, cat]
  have htop : box.Touches .standard .top := by
    norm_num [Bounds.Touches, hfield, Playfield.half_eq, box, Bounds.centered_eq, cat]
  obtain ⟨hbounces, -, hoff⟩ := bounce_off_first_touched ⟨Stage.empty.world, 0⟩ actor
  obtain ⟨bounce, hbounce⟩ := Option.isSome_iff_exists.mp (hbounces.mpr ⟨box, rfl, .left, hleft⟩)
  obtain ⟨⟨box', hbox', hfirst⟩, hedge, -, hplace, htarget⟩ := hoff bounce hbounce
  obtain rfl : box = box' := Option.some.inj hbox'
  have hbounceEdge : bounce.edge = .left := by
    have hfind : box.firstTouched? .standard = some .left :=
      List.find?_cons_of_pos (decide_eq_true hleft)
    exact Option.some.inj (hfirst.symm.trans hfind)
  have hput : bounce.position = ⟨-230, 170⟩ := by
    rw [hplace]
    change Playfield.fence .standard (.centered ⟨-240, 180⟩ ⟨20, 20⟩) ⟨-240, 180⟩ ⟨-240, 180⟩ = _
    rw [hfield, Playfield.fence, Bounds.centered_eq, Playfield.bounds_eq]
    ext <;> norm_num [Bounds.translate, nudge]
  refine ⟨hleft, htop, by rw [hedge, hbounceEdge], bounce.heading, ?_⟩
  rw [htarget, hput]
  rfl

end StageMotion
