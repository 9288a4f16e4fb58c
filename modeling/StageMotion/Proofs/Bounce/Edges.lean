import StageMotion.Proofs.Block.Runs
import StageMotion.Proofs.Bounce.Fence

/-!
# Which edge, and what comes of it

The nearest edge is found by a running minimum that keeps what it has on a tie. What it finds is the
first of the nearest (`Bounds.nearestEdge_isFirstNearest`): nearer than all edges before it, and
none after it is nearer. For this the clearances only have to compare as numbers do
(`Scalar.Ranks`), which real numbers always do (`Scalar.ranks_univ`).

So the nearest edge has the least clearance (`Bounds.nearestEdge_le`), and a target bounces exactly
when some gap is closed. For a sprite that wears a costume, `Sprite.Wears.bounce_cases` says all
that a bounce block can do: nothing, and then every gap is open; or a bounce off an edge whose gap
is closed, which turns the sprite along the deflected direction and puts it where its fence says.
-/

namespace StageMotion

/-! ## The nearest edge -/

section

variable {α : Type} [Scalar α] {numbers : Set α}

/-- The scalars of a set compare as numbers do. Others may compare with nothing. -/
structure Scalar.Ranks (numbers : Set α) : Prop where
  le_refl {x : α} : x ∈ numbers → x ≤ x
  le_of_lt {x y : α} : x < y → x ≤ y
  lt_of_lt_of_le {x y z : α} : x < y → y ≤ z → x < z
  le_of_not_lt {x y : α} : x ∈ numbers → y ∈ numbers → ¬ x < y → y ≤ x

theorem Scalar.ranks_univ [Elementary] : Ranks (Set.univ : Set ℝ) where
  le_refl _ := le_rfl
  le_of_lt := LT.lt.le
  lt_of_lt_of_le := LT.lt.trans_le
  le_of_not_lt _ _ := not_lt.mp

namespace Bounds

/-- An entry of a list that is nearer than all entries before it, and than which none after it is
nearer. -/
def IsFirstNearest (entries : List (Edge × α)) (best : Edge × α) : Prop :=
  ∃ before after, entries = before ++ best :: after ∧
    (∀ entry ∈ before, best.2 < entry.2) ∧ ∀ entry ∈ after, best.2 ≤ entry.2

namespace IsFirstNearest

variable {entries : List (Edge × α)} {best : Edge × α}

theorem singleton (entry : Edge × α) : IsFirstNearest [entry] entry :=
  ⟨[], [], rfl, by simp, by simp⟩

theorem mem (h : IsFirstNearest entries best) : best ∈ entries := by
  obtain ⟨before, after, rfl, -, -⟩ := h
  simp

theorem le (ranks : Scalar.Ranks numbers) (h : IsFirstNearest entries best)
    (hnumbers : ∀ entry ∈ entries, entry.2 ∈ numbers) {entry : Edge × α}
    (hentry : entry ∈ entries) : best.2 ≤ entry.2 := by
  have hbest : best.2 ∈ numbers := hnumbers best h.mem
  obtain ⟨before, after, rfl, hbefore, hafter⟩ := h
  rcases List.mem_append.mp hentry with hmem | hmem
  · exact ranks.le_of_lt (hbefore entry hmem)
  · rcases List.mem_cons.mp hmem with rfl | hmem
    · exact ranks.le_refl hbest
    · exact hafter entry hmem

/-- The best so far is compared with one more entry. -/
theorem concat (ranks : Scalar.Ranks numbers) (h : IsFirstNearest entries best)
    (hnumbers : ∀ entry ∈ entries, entry.2 ∈ numbers) {entry : Edge × α}
    (hentry : entry.2 ∈ numbers) : IsFirstNearest (entries ++ [entry]) (nearer best entry) := by
  have hbest : best.2 ∈ numbers := hnumbers best h.mem
  unfold nearer
  split_ifs with hnearer
  · exact ⟨entries, [], rfl,
      fun other hother => ranks.lt_of_lt_of_le hnearer (h.le ranks hnumbers hother), by simp⟩
  · obtain ⟨before, after, rfl, hbefore, hafter⟩ := h
    refine ⟨before, after ++ [entry], by simp, hbefore, fun other hother => ?_⟩
    rcases List.mem_append.mp hother with hmem | hmem
    · exact hafter other hmem
    · rw [List.mem_singleton.mp hmem]
      exact ranks.le_of_not_lt hentry hbest hnearer

theorem append (ranks : Scalar.Ranks numbers) (h : IsFirstNearest entries best)
    {rest : List (Edge × α)} (hnumbers : ∀ entry ∈ entries ++ rest, entry.2 ∈ numbers) :
    IsFirstNearest (entries ++ rest) (rest.foldl nearer best) := by
  induction rest generalizing entries best with
  | nil => rwa [List.append_nil]
  | cons entry rest ih =>
    rw [List.append_cons] at hnumbers ⊢
    have hsofar : ∀ other ∈ entries ++ [entry], other.2 ∈ numbers :=
      fun other hother => hnumbers other (List.mem_append_left rest hother)
    exact ih (h.concat ranks (fun other hother => hsofar other (List.mem_append_left _ hother))
      (hsofar entry (by simp))) hnumbers

end IsFirstNearest

variable (box : Bounds α) (field : Playfield α)

theorem nearestEdge_eq_foldl : box.nearestEdge field =
    (box.clearances field).tail.foldl nearer (.left, box.clearance field .left) :=
  List.foldl_map.symm

variable {box field}

theorem nearestEdge_isFirstNearest (ranks : Scalar.Ranks numbers)
    (h : ∀ entry ∈ box.clearances field, entry.2 ∈ numbers) :
    IsFirstNearest (box.clearances field) (box.nearestEdge field) := by
  rw [nearestEdge_eq_foldl]
  exact (IsFirstNearest.singleton (Edge.left, box.clearance field .left)).append ranks h

theorem mem_clearances (box : Bounds α) (field : Playfield α) (edge : Edge) :
    (edge, box.clearance field edge) ∈ box.clearances field := by
  cases edge <;> simp [clearances, Edge.all]

theorem nearer_keeps {P : Edge × α → Prop} {a b : Edge × α} (ha : P a) (hb : P b) :
    P (nearer a b) := by
  unfold nearer
  split_ifs
  · exact hb
  · exact ha

theorem nearestEdge_snd (box : Bounds α) (field : Playfield α) :
    (box.nearestEdge field).2 = box.clearance field (box.nearestEdge field).1 := by
  let P : Edge × α → Prop := fun p => p.2 = box.clearance field p.1
  show P (box.nearestEdge field)
  exact nearer_keeps (nearer_keeps (nearer_keeps rfl rfl) rfl) rfl

theorem nearestEdge_le [Elementary] (box : Bounds ℝ) (field : Playfield ℝ) (edge : Edge) :
    (box.nearestEdge field).2 ≤ box.clearance field edge :=
  (nearestEdge_isFirstNearest Scalar.ranks_univ fun _ _ => trivial).le Scalar.ranks_univ
    (fun _ _ => trivial) (box.mem_clearances field edge)

end Bounds

end

/-! ## The bounce of a target -/

section

variable {α τ : Type} [Scalar α] [Movable τ α] {target : τ} {field : Playfield α}

theorem Bounce.of?_eq_none (h : Bounce.of? target field = none) {box : Bounds α}
    (hbox : Movable.bounds? target = some box) : 0.0 < (box.nearestEdge field).2 := by
  simp only [of?, hbox, Option.bind_eq_bind, Option.bind_some] at h
  split at h
  · assumption
  · simp at h

theorem Bounce.of?_eq_some {bounce : Bounce α} (h : Bounce.of? target field = some bounce) :
    ∃ box, Movable.bounds? target = some box ∧ bounce.edge = (box.nearestEdge field).1 ∧
      ¬ 0.0 < (box.nearestEdge field).2 ∧
      bounce.heading = headingAlong (bounce.edge.deflect (Movable.heading target)) ∧
      bounce.position = Movable.keepInFence target (Movable.position target) := by
  cases hbox : Movable.bounds? target with
  | none => simp [of?, hbox] at h
  | some box =>
    simp only [of?, hbox, Option.bind_eq_bind, Option.bind_some] at h
    split at h
    · simp at h
    · rename_i hclosed
      cases h
      exact ⟨box, rfl, rfl, hclosed, rfl, rfl⟩

variable {γ : Type} [Draws γ α] {moment : Moment α} {actor : Actor γ τ α}

theorem Block.bounceOnEdge_of_none (h : Bounce.of? actor.target actor.palette.field = none) :
    bounceOnEdge.tick moment actor = actor.rest [] := by
  simp only [tick, h]

theorem Block.bounceOnEdge_of_some {bounce : Bounce α}
    (h : Bounce.of? actor.target actor.palette.field = some bounce) :
    let moved := (actor.setHeading bounce.heading).setPosition bounce.position
    bounceOnEdge.tick moment actor =
      { moved.rest [.bounced bounce.edge (Movable.heading moved.target)] with
        edge? := some bounce.edge } := by
  simp only [tick, h]

end

/-! ## The bounce of a sprite -/

namespace Sprite

variable [Elementary] {γ : Type} [Draws γ ℝ] {size : Vec2 ℝ} {field : Playfield ℝ}

theorem Wears.keeps (aspect : Aspect) :
    Movable.Keeps (fun sprite : Sprite ℝ => sprite.Wears size field) aspect := by
  cases aspect <;> exact fun _ _ h => ⟨h.visible, h.costume, h.field_eq⟩

theorem Fits.keeps (aspect : Aspect) :
    Movable.Keeps (fun sprite : Sprite ℝ => sprite.Fits size field) aspect := by
  cases aspect <;> exact fun _ _ h => ⟨⟨h.visible, h.costume, h.field_eq⟩, h.width_nonneg,
    h.width_le, h.height_nonneg, h.height_le⟩

/-- All that a bounce block can do to a sprite that wears a costume. -/
theorem Wears.bounce_cases {actor : Actor γ (Sprite ℝ) ℝ}
    (wears : actor.target.Wears size actor.palette.field) {c : Call ℝ}
    (hc : c.block = .bounceOnEdge) :
    let box := Bounds.centered actor.target.position size
    let turn := actor.call c
    (turn.edge? = none ∧ turn.target = actor.target ∧
      ∀ edge, 0 < box.gap actor.palette.field edge) ∨
    ∃ edge, turn.edge? = some edge ∧ box.gap actor.palette.field edge ≤ 0 ∧
      turn.target.heading =
        Heading.normalize (headingAlong (edge.deflect actor.target.heading)) ∧
      turn.target.position = actor.target.keepInFence actor.target.position := by
  intro box turn
  have hbox : Movable.bounds? actor.target = some box := wears.bounds?_eq
  have hcall : turn = Block.bounceOnEdge.tick c.moment { actor with slot := c.slot } := by
    rw [← hc]
    rfl
  cases h : Bounce.of? actor.target actor.palette.field with
  | none =>
    left
    have hopen := Bounce.of?_eq_none h hbox
    have hturn := hcall.trans (Block.bounceOnEdge_of_none h)
    refine ⟨congrArg Turn.edge? hturn, congrArg (·.target) hturn, fun edge => ?_⟩
    have hle := box.nearestEdge_le actor.palette.field edge
    rw [Bounds.clearance_eq] at hle
    by_contra hneg
    rw [max_eq_left (not_lt.mp hneg)] at hle
    linarith
  | some bounce =>
    right
    obtain ⟨box', hbox', hedge, hclosed, hheading, hposition⟩ := Bounce.of?_eq_some h
    obtain rfl : box = box' := Option.some.inj (hbox.symm.trans hbox')
    have hturn := hcall.trans (Block.bounceOnEdge_of_some h)
    have htarget : turn.target =
        { actor.target.setHeading bounce.heading with position := bounce.position } :=
      congrArg (·.target) hturn
    refine ⟨bounce.edge, congrArg Turn.edge? hturn, ?_, ?_, ?_⟩
    · rw [Bounds.nearestEdge_snd, ← hedge, Bounds.clearance_eq] at hclosed
      have := le_max_right 0 (box.gap actor.palette.field bounce.edge)
      linarith
    · rw [htarget, hheading]
      rfl
    · rw [htarget]
      exact hposition

end Sprite

end StageMotion
