import StageMotion.Proofs.Block.Frame
import StageMotion.Proofs.Heading.Range

/-!
# Turns add up

The heading of a sprite is normalized after every turn. As that changes it by full turns only, it
makes no difference to the turns that follow (`Heading.normalize_add`): after a run in which nothing
but turns has to do with the heading, the heading is that of one turn by all the degrees of the run
(`Actor.run_heading`). So two such runs lead to the same heading exactly if their degrees differ by
full turns, and it matters neither in which order the turns come, nor whether some of them undo each
other, nor how often they go all the way round (`turns_add_up`).
-/

namespace StageMotion

/-! ## Degrees -/

/-- The degrees, clockwise, that a block turns its target by, if it is a turn. -/
def Block.turn? : Block ℝ → Option ℝ
  | turnRight degrees => some degrees
  | turnLeft degrees => some (-degrees)
  | _ => none

/-- The degrees, clockwise, of all turns among some calls. -/
def turned (calls : List (Call ℝ)) : ℝ := (calls.map fun c => c.block.turn?.getD 0).sum

/-- Nothing but turns has to do with the heading. -/
def OnlyTurns (calls : List (Call ℝ)) : Prop :=
  ∀ c ∈ calls, c.block.turn? = none → .heading ∉ c.block.aspects

/-- The second call turns as the first does, but for full turns. -/
def Call.SameTurn (c d : Call ℝ) : Prop :=
  ∃ turns : ℤ, d.block.turn? = c.block.turn?.map fun degrees : ℝ => degrees + turns * 360

theorem turned_cons (c : Call ℝ) (calls : List (Call ℝ)) :
    turned (c :: calls) = c.block.turn?.getD 0 + turned calls := by
  rw [turned, List.map_cons, List.sum_cons, turned]

theorem turned_append (calls more : List (Call ℝ)) :
    turned (calls ++ more) = turned calls + turned more := by
  rw [turned, List.map_append, List.sum_append, turned, turned]

theorem turned_perm {calls others : List (Call ℝ)} (h : others.Perm calls) :
    turned others = turned calls :=
  (h.map _).sum_eq

theorem OnlyTurns.append {calls more : List (Call ℝ)} (h : OnlyTurns calls)
    (hmore : OnlyTurns more) : OnlyTurns (calls ++ more) := by
  intro c hc
  rcases List.mem_append.mp hc with hmem | hmem
  · exact h c hmem
  · exact hmore c hmem

/-- Full turns among the turns come to full turns altogether. -/
theorem exists_turned_eq {calls others : List (Call ℝ)}
    (h : List.Forall₂ Call.SameTurn calls others) :
    ∃ turns : ℤ, turned others = turned calls + turns * 360 := by
  induction h with
  | nil => exact ⟨0, by simp⟩
  | @cons c d calls others hsame _ ih =>
    obtain ⟨turns, hd⟩ := hsame
    obtain ⟨more, hmore⟩ := ih
    rw [turned_cons, turned_cons, hd, hmore]
    cases c.block.turn? with
    | none => exact ⟨more, by simp⟩
    | some degrees =>
      refine ⟨turns + more, ?_⟩
      simp only [Option.map_some, Option.getD_some]
      push_cast
      ring

/-! ## Headings after turns -/

section

variable [Elementary]

namespace Heading

theorem normalize_eq_normalize_iff {a b : ℝ} :
    normalize a = normalize b ↔ ∃ turns : ℤ, a = b + turns * 360 := by
  rw [normalize, normalize, wrap_eq_wrap_iff (by norm_num)]
  norm_num

/-- Normalizing before a turn makes no difference after it. -/
theorem normalize_add (heading degrees : ℝ) :
    normalize (normalize heading + degrees) = normalize (heading + degrees) := by
  obtain ⟨-, turns, h⟩ := normalize_eq_iff.mp (rfl : normalize heading = _)
  apply normalize_eq_normalize_iff.mpr
  refine ⟨-turns, ?_⟩
  push_cast
  linarith

theorem normalize_normalize (heading : ℝ) : normalize (normalize heading) = normalize heading := by
  have h := normalize_add heading 0
  rwa [add_zero, add_zero] at h

end Heading

namespace Actor

variable {γ : Type} [Draws γ ℝ]

theorem call_turn (actor : Actor γ (Sprite ℝ) ℝ) {c : Call ℝ} {degrees : ℝ}
    (h : c.block.turn? = some degrees) :
    (actor.call c).target.heading = Heading.normalize (actor.target.heading + degrees) := by
  obtain ⟨block, moment, slot⟩ := c
  cases block with
  | turnRight =>
    cases h
    rfl
  | turnLeft =>
    cases h
    rw [← sub_eq_add_neg]
    rfl
  | _ => cases h

theorem call_heading (actor : Actor γ (Sprite ℝ) ℝ) {c : Call ℝ}
    (h : .heading ∉ c.block.aspects) : (actor.call c).target.heading = actor.target.heading := by
  have hsame : actor.target.SameBut _ (actor.call c).target := actor.run_sameBut [c]
  exact hsame.heading (by simpa using h)

/-- A run of turns is one turn by all their degrees. -/
theorem run_heading {actor : Actor γ (Sprite ℝ) ℝ}
    (hnormal : Heading.normalize actor.target.heading = actor.target.heading)
    {calls : List (Call ℝ)} (h : OnlyTurns calls) :
    (actor.run calls).target.heading =
      Heading.normalize (actor.target.heading + turned calls) := by
  induction calls generalizing actor with
  | nil =>
    rw [turned, List.map_nil, List.sum_nil, add_zero]
    exact hnormal.symm
  | cons c calls ih =>
    have hrest : OnlyTurns calls := fun d hd => h d (List.mem_cons_of_mem c hd)
    rw [run_cons, turned_cons]
    cases hc : c.block.turn? with
    | none =>
      have hkept := actor.call_heading (h c List.mem_cons_self hc)
      rw [ih (by rw [hkept, hnormal]) hrest, hkept, Option.getD_none, zero_add]
    | some degrees =>
      have hturned := actor.call_turn hc
      rw [ih (by rw [hturned, Heading.normalize_normalize]) hrest, hturned, Heading.normalize_add,
        Option.getD_some, add_assoc]

/-- Two runs of turns lead to one heading exactly if they differ by full turns. -/
theorem run_heading_eq_iff {actor : Actor γ (Sprite ℝ) ℝ}
    (hnormal : Heading.normalize actor.target.heading = actor.target.heading)
    {calls others : List (Call ℝ)} (h : OnlyTurns calls) (hothers : OnlyTurns others) :
    (actor.run others).target.heading = (actor.run calls).target.heading ↔
      ∃ turns : ℤ, turned others = turned calls + turns * 360 := by
  rw [run_heading hnormal h, run_heading hnormal hothers, Heading.normalize_eq_normalize_iff]
  simp only [add_assoc, add_right_inj]

end Actor

/-- **Turns add up**: sprites are made with a normalized heading, and set to no other. From such a
heading, a run in which nothing but turns has to do with it leads to the normalized sum of the
heading and the degrees of all turns. So the order of the run makes no difference, nor do a turn and
its opposite at the end of it, nor full turns added to any of its turns; and another run leads to
the same heading exactly if the sums of the two differ by full turns. -/
theorem turns_add_up {γ : Type} [Draws γ ℝ] :
    (∀ (name : String) (costume : Option (Vec2 ℝ)) (field : Playfield ℝ),
      let sprite := Sprite.create name costume field
      Heading.normalize sprite.heading = sprite.heading) ∧
    (∀ (before : Sprite ℝ) (heading : ℝ),
      let sprite := before.setHeading heading
      Heading.normalize sprite.heading = sprite.heading) ∧
    ∀ (actor : Actor γ (Sprite ℝ) ℝ) (calls : List (Call ℝ)),
      Heading.normalize actor.target.heading = actor.target.heading → OnlyTurns calls →
        let after := fun calls => (actor.run calls).target.heading
        after calls = Heading.normalize (actor.target.heading + turned calls) ∧
        (∀ others, others.Perm calls → after others = after calls) ∧
        (∀ (degrees : ℝ) (c d : Call ℝ), c.block.turn? = some degrees →
          d.block.turn? = some (-degrees) → after (calls ++ [c, d]) = after calls) ∧
        (∀ others, OnlyTurns others → List.Forall₂ Call.SameTurn calls others →
          after others = after calls) ∧
        ∀ others, OnlyTurns others → (after others = after calls ↔
          ∃ turns : ℤ, turned others = turned calls + turns * 360) := by
  refine ⟨fun name costume field => ?_, fun before heading => Heading.normalize_normalize heading,
    ?_⟩
  · exact Heading.normalize_eq_iff.mpr ⟨by norm_num [Heading.range, Sprite.create], 0, by simp⟩
  intro actor calls hnormal h after
  refine ⟨Actor.run_heading hnormal h, fun others hperm => ?_, fun degrees c d hc hd => ?_,
    fun others hothers hsame => ?_,
    fun others hothers => Actor.run_heading_eq_iff hnormal h hothers⟩
  · have hothers : OnlyTurns others := fun c hc => h c (hperm.mem_iff.mp hc)
    exact (Actor.run_heading_eq_iff hnormal h hothers).mpr ⟨0, by simp [turned_perm hperm]⟩
  · have hpair : OnlyTurns [c, d] := by
      intro e he hnone
      rcases List.mem_pair.mp he with rfl | rfl
      · rw [hc] at hnone
        cases hnone
      · rw [hd] at hnone
        cases hnone
    refine (Actor.run_heading_eq_iff hnormal h (h.append hpair)).mpr ⟨0, ?_⟩
    rw [turned_append, turned_cons, turned_cons, hc, hd]
    simp [turned]
  · exact (Actor.run_heading_eq_iff hnormal h hothers).mpr (exists_turned_eq hsame)

end

/-- A cat that faces right turns right and more than twice to the left, with a move in between. In
another order, or with other full turns, it comes to face the same way. -/
theorem turns_add_up_cat :
    let cat : Sprite ℝ := .create "cat" none .standard
    let actor : Actor (ℕ → ℝ) (Sprite ℝ) ℝ := ⟨⟨.standard, fun _ => 0⟩, none, cat⟩
    let call : Block ℝ → Call ℝ := fun block => ⟨block, ⟨Stage.empty.world, 0⟩, none⟩
    let calls := [call (.turnRight 200.5), call (.move 10), call (.turnLeft 725)]
    let others := [call (.move 10), call (.turnLeft 725), call (.turnRight 200.5)]
    let fewer := [call (.turnRight 920.5), call (.move 10), call (.turnLeft 5)]
    let after := fun calls => (actor.run calls).target.heading
    Heading.normalize cat.heading = cat.heading ∧ OnlyTurns calls ∧ OnlyTurns fewer ∧
      after calls = -74.5 ∧ after others = -74.5 ∧ after fewer = -74.5 ∧
      after (calls ++ [call (.turnLeft 12.5), call (.turnRight 12.5)]) = -74.5 := by
  intro cat actor call calls others fewer after
  obtain ⟨hcreated, -, hrun⟩ := turns_add_up (γ := ℕ → ℝ)
  have hnormal : Heading.normalize cat.heading = cat.heading := hcreated "cat" none .standard
  have honly : OnlyTurns calls := by simp [OnlyTurns, calls, call, Block.turn?, Block.aspects]
  have hfewer : OnlyTurns fewer := by simp [OnlyTurns, fewer, call, Block.turn?, Block.aspects]
  obtain ⟨hsum, horder, hundone, hfull, -⟩ := hrun actor calls hnormal honly
  have hcalls : after calls = -74.5 := by
    refine hsum.trans (Heading.normalize_eq_iff.mpr ⟨by norm_num [Heading.range], -1, ?_⟩)
    norm_num [turned, calls, call, Block.turn?, actor, cat, Sprite.create]
  have hperm : others.Perm calls :=
    List.perm_append_singleton (call (.turnRight 200.5)) [call (.move 10), call (.turnLeft 725)]
  have hsame : List.Forall₂ Call.SameTurn calls fewer := by
    refine .cons ⟨2, ?_⟩ (.cons ⟨0, rfl⟩ (.cons ⟨2, ?_⟩ .nil)) <;> norm_num [call, Block.turn?]
  refine ⟨hnormal, honly, hfewer, hcalls, (horder others hperm).trans hcalls,
    (hfull fewer hfewer hsame).trans hcalls, ?_⟩
  have hopposite : (call (.turnRight 12.5)).block.turn? = some (-(-12.5)) := by
    norm_num [call, Block.turn?]
  exact (hundone (-12.5) _ _ rfl hopposite).trans hcalls

end StageMotion
