import StageMotion.Proofs.Glide.Pursuit

/-!
# Arrival

A block that glides to a destination ends where the block that goes there at once would have put the
target. If the glide takes no time, then the two blocks leave the same altogether, also where the
destination is a sprite that is not there (`Block.glideTo_of_nonpositive`). If it takes time, then
its first tick captures the point that going would have used (`Leg.tick_of_launch`), the slot keeps
it through all ticks that continue (`Leg.course_slot`), and the tick that is done puts the target
there. What the later ticks find, and what happens to the target between them (`Leg`), matters to
neither (`gliding_ends_where_going`).
-/

namespace StageMotion

variable {γ τ α : Type} [Scalar α] [Draws γ α] [Movable τ α]

/-! ## A glide that takes no time -/

/-- A glide that takes no time is done at once, and leaves what going there leaves. -/
theorem Block.glideTo_of_nonpositive {seconds : α} (h : seconds ≤ 0.0) (goal : Destination)
    (moment : Moment α) {actor : Actor γ τ α} (hslot : actor.slot = none) :
    let gliding := (glideTo seconds goal).tick moment actor
    gliding.toActor = ((goTo goal).tick moment actor).toActor ∧ gliding.slot = none ∧
      gliding.progress = .done := by
  obtain ⟨palette, slot, target⟩ := actor
  obtain rfl : slot = none := hslot
  intro gliding
  cases hpoint : (palette.lookUp moment.world goal).point? with
  | some point =>
    have hgliding : gliding = _ := glideTo_of_found seconds hpoint
    rw [hgliding, goTo_of_found hpoint]
    simp only [Actor.glide, Actor.setSource, Glide.tick, Glide.launch_of_nonpositive h, and_true]
    rfl
  | none =>
    obtain ⟨name, rfl, hlost⟩ := Palette.exists_lost hpoint
    have hgliding : gliding = _ := glideTo_of_lost seconds hlost
    rw [hgliding, goTo_of_lost hlost]
    exact ⟨rfl, rfl, rfl⟩

/-! ## One tick of a glide that takes time -/

/-- A tick that finds a glide in its slot keeps it if it continues, and lands it if it is done. -/
theorem Glide.proceed_cases (glide : Glide α) (now : α) (target : τ) :
    ((glide.proceed now target).progress = .continuing ∧
      (glide.proceed now target).slot = some glide) ∨
    ((glide.proceed now target).progress = .done ∧ (glide.proceed now target).slot = none ∧
      (glide.proceed now target).target = Movable.setPosition target glide.stop) := by
  by_cases h : glide.InTime now
  · left
    rw [proceed_of_inTime h]
    exact ⟨rfl, rfl⟩
  · right
    rw [proceed_of_late h]
    exact ⟨rfl, rfl, rfl⟩

/-- A tick of a block that glides to a destination, and what happens to the target before it. -/
structure Leg (γ τ α : Type) extends Chase γ α where
  /-- What happens to the target since the tick before. -/
  before : τ → τ

namespace Leg

/-- The tick, after what happens before it. -/
def tick (leg : Leg γ τ α) (ride : Ride τ α) : GlideTick τ α :=
  leg.toChase.tick { ride with target := leg.before ride.target }

theorem tick_of_launch (leg : Leg γ τ α) {point : Vec2 α} (h : leg.point? = some point)
    (hseconds : ¬ leg.seconds ≤ 0.0) (target : τ) : leg.tick ⟨none, target⟩ =
      { slot := some (.captured leg.moment.now leg.seconds point (leg.before target))
        target := leg.before target
        progress := .continuing
        notes := [.glideStarted (Movable.position (leg.before target)) point leg.seconds] } :=
  (leg.tick_eq_tickTo h _).trans (Glide.launch_of_positive hseconds _ _ _)

theorem tick_of_underway (leg : Leg γ τ α) (h : leg.point?.isSome) (ride : Ride τ α)
    {glide : Glide α} (hslot : ride.slot = some glide) :
    leg.tick ride = glide.proceed leg.moment.now (leg.before ride.target) := by
  obtain ⟨point, hpoint⟩ := Option.isSome_iff_exists.mp h
  rw [tick, leg.tick_eq_tickTo hpoint, Chase.tickTo_eq]
  simp only [Ride.tick, hslot, Glide.tick]

/-! ## A whole course -/

/-- What each tick leaves, if the first one finds the slot empty. -/
def course (legs : ℕ → Leg γ τ α) (target : τ) : ℕ → GlideTick τ α :=
  Ride.ticks ⟨none, target⟩ fun i => (legs i).tick

variable {legs : ℕ → Leg γ τ α} {target : τ}

theorem course_succ (n : ℕ) :
    course legs target (n + 1) = (legs (n + 1)).tick (course legs target n).ride :=
  rfl

/-- The slot keeps what it captured as long as the ticks continue. -/
theorem course_slot {glide : Glide α} (hfirst : (course legs target 0).slot = some glide) (n : ℕ)
    (found : ∀ i ≤ n, (legs i).point?.isSome)
    (continuing : ∀ i ≤ n, (course legs target i).progress = .continuing) :
    (course legs target n).slot = some glide := by
  induction n with
  | zero => exact hfirst
  | succ n ih =>
    have hslot := ih (fun i hi => found i (Nat.le_succ_of_le hi))
      (fun i hi => continuing i (Nat.le_succ_of_le hi))
    have hprogress := continuing (n + 1) le_rfl
    rw [course_succ, (legs (n + 1)).tick_of_underway (found (n + 1) le_rfl) _ hslot] at hprogress ⊢
    rcases glide.proceed_cases (legs (n + 1)).moment.now
      ((legs (n + 1)).before (course legs target n).target) with ⟨-, hkept⟩ | ⟨hdone, -, -⟩
    · exact hkept
    · cases hdone.symm.trans hprogress

/-- The first tick that is done lands on the end that the slot captured. -/
theorem course_landed {glide : Glide α} (hfirst : (course legs target 0).slot = some glide) (n : ℕ)
    (found : ∀ i ≤ n + 1, (legs i).point?.isSome)
    (continuing : ∀ i ≤ n, (course legs target i).progress = .continuing)
    (done : (course legs target (n + 1)).progress = .done) :
    (course legs target (n + 1)).slot = none ∧
      (course legs target (n + 1)).target =
        Movable.setPosition ((legs (n + 1)).before (course legs target n).target) glide.stop := by
  have hslot := course_slot hfirst n (fun i hi => found i (Nat.le_succ_of_le hi)) continuing
  rw [course_succ, (legs (n + 1)).tick_of_underway (found (n + 1) le_rfl) _ hslot] at done ⊢
  rcases glide.proceed_cases (legs (n + 1)).moment.now
    ((legs (n + 1)).before (course legs target n).target) with ⟨hcontinuing, -⟩ | ⟨-, hlanded⟩
  · cases hcontinuing.symm.trans done
  · exact hlanded

end Leg

/-- **Gliding ends where going would**: with an empty slot, a glide that takes no time leaves the
target, the random numbers and the slot as going does, and is done. A glide that takes time
continues, and however it goes on, if its destination is found on every tick, the first tick that is
done puts the target at the point at which going would have put it in place of the first tick. So a
target that takes the places it is put at ends exactly where it would have gone. -/
theorem gliding_ends_where_going :
    (∀ (seconds : α) (goal : Destination) (moment : Moment α) (actor : Actor γ τ α),
      seconds ≤ 0.0 → actor.slot = none →
        let gliding := (Block.glideTo seconds goal).tick moment actor
        let going := (Block.goTo goal).tick moment actor
        gliding.toActor = going.toActor ∧ gliding.slot = none ∧ gliding.progress = .done) ∧
    ∀ (legs : ℕ → Leg γ τ α) (target : τ), ¬ (legs 0).seconds ≤ 0.0 → (legs 0).point?.isSome →
      let course := Leg.course legs target
      let first := (legs 0).before target
      let going := (Block.goTo (legs 0).goal).tick (legs 0).moment
        { palette := (legs 0).palette, slot := none, target := first }
      (course 0).progress = .continuing ∧
      ∀ n, (∀ i ≤ n + 1, (legs i).point?.isSome) →
        (∀ i ≤ n, (course i).progress = .continuing) → (course (n + 1)).progress = .done →
          let last := (legs (n + 1)).before (course n).target
          let landed := course (n + 1)
          landed.slot = none ∧
          (∃ point, (legs 0).point? = some point ∧
            going.target = Movable.setPosition first point ∧
            landed.target = Movable.setPosition last point) ∧
          ((∀ (target : τ) position,
              Movable.position (Movable.setPosition target position) = position) →
            Movable.position landed.target = Movable.position going.target) := by
  refine ⟨fun seconds goal moment actor h hslot =>
    Block.glideTo_of_nonpositive h goal moment hslot, fun legs target hseconds hfound => ?_⟩
  intro course first going
  obtain ⟨point, hpoint⟩ := Option.isSome_iff_exists.mp hfound
  have hfirst : course 0 = _ := (legs 0).tick_of_launch hpoint hseconds target
  have hgoing : going.target = Movable.setPosition first point := by
    have hgoing : going = _ := Block.goTo_of_found hpoint
    rw [hgoing]
    rfl
  refine ⟨by rw [hfirst], fun n found continuing done => ?_⟩
  intro last landed
  obtain ⟨hempty, hlanded⟩ :=
    Leg.course_landed (congrArg GlideTick.slot hfirst) n found continuing done
  have hput : landed.target = Movable.setPosition last point := hlanded
  refine ⟨hempty, ⟨point, hpoint, hgoing, hput⟩, fun lawful => ?_⟩
  rw [hput, hgoing, lawful, lawful]

/-- A cat that glides to a dog for a second, while the dog runs off and the cat is pushed about
between the ticks, ends where the dog was first. A glide to a random place that takes no time uses
the random numbers that going there uses. -/
theorem gliding_ends_where_going_dog :
    let cat : Sprite ℝ := .create "cat" none .standard
    let dog : ℕ → Vec2 ℝ := fun i => ⟨100 - 40 * i, 30⟩
    let legs : ℕ → Leg (ℕ → ℝ) (Sprite ℝ) ℝ := fun i =>
      { palette := ⟨.standard, fun n => n / 8⟩
        moment := ⟨⟨⟨0, 0⟩, fun _ => some (dog i)⟩, 500 * i⟩
        seconds := 1
        goal := .named "dog"
        before := fun cat => Movable.setPosition cat (cat.position + ⟨7, -7⟩) }
    let course := Leg.course legs cat
    let actor : Actor (ℕ → ℝ) (Sprite ℝ) ℝ := ⟨(legs 0).palette, none, cat⟩
    (0 : ℝ) ≤ 0.0 ∧
      ((Block.glideTo 0 .random).tick (legs 0).moment actor).toActor =
        ((Block.goTo .random).tick (legs 0).moment actor).toActor ∧
      ¬ (legs 0).seconds ≤ 0.0 ∧ (∀ i, (legs i).point?.isSome) ∧
      (∀ i ≤ 1, (course i).progress = .continuing) ∧ (course 2).progress = .done ∧
      (course 2).target.position = ⟨100, 30⟩ := by
  intro cat dog legs course actor
  have hzero : (0 : ℝ) ≤ 0.0 := by norm_num
  have hseconds : ¬ (legs 0).seconds ≤ 0.0 := by norm_num [legs]
  have found : ∀ i, (legs i).point?.isSome := fun _ => rfl
  obtain ⟨hnow, hlater⟩ := gliding_ends_where_going (γ := ℕ → ℝ) (τ := Sprite ℝ) (α := ℝ)
  obtain ⟨hjump, -, -⟩ := hnow 0 .random (legs 0).moment actor hzero rfl
  obtain ⟨hstarts, hlands⟩ := hlater legs cat hseconds (found 0)
  let glide : Glide ℝ :=
    .captured (legs 0).moment.now (legs 0).seconds (dog 0) ((legs 0).before cat)
  have hfirst : course 0 = _ := (legs 0).tick_of_launch rfl hseconds cat
  have hfilled : (course 0).slot = some glide := by rw [hfirst]
  have hsecond : course 1 = _ := (legs 1).tick_of_underway (found 1) _ hfilled
  have hearly : glide.InTime (legs 1).moment.now := by
    norm_num [Glide.InTime, glide, Glide.captured, Stopwatch.start, legs]
  rw [Glide.proceed_of_inTime hearly] at hsecond
  have hkept : (course 1).slot = some glide := by rw [hsecond]
  have hthird : course 2 = _ := (legs 2).tick_of_underway (found 2) _ hkept
  have hlate : ¬ glide.InTime (legs 2).moment.now := by
    norm_num [Glide.InTime, glide, Glide.captured, Stopwatch.start, legs]
  rw [Glide.proceed_of_late hlate] at hthird
  have hcontinuing : ∀ i ≤ 1, (course i).progress = .continuing := by
    intro i hi
    obtain rfl | rfl : i = 0 ∨ i = 1 := by omega
    · exact hstarts
    · rw [hsecond]
  have hdone : (course 2).progress = .done := by rw [hthird]
  obtain ⟨-, -, hposition⟩ := hlands 1 (fun i _ => found i) hcontinuing hdone
  refine ⟨hzero, hjump, hseconds, found, hcontinuing, hdone, ?_⟩
  have hend : (course 2).target.position = dog 0 := hposition fun _ _ => rfl
  rw [hend]
  norm_num [dog]

end StageMotion
