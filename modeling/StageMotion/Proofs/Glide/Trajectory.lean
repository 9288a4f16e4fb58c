import StageMotion.Glide
import StageMotion.Scalar.Real
import StageMotion.Movable

/-!
# The trajectory of a glide

The whole course of a glide in one slot. The first tick captures the time, the duration and both
ends; every tick that finds the time not over puts the target on the captured segment and leaves
the slot as it is (`Glide.proceed_of_inTime`), and the first tick that finds it over lands the
target on the captured end and empties the slot (`Glide.proceed_of_late`). Between two ticks
anything may happen to the target, and the clock may show any time at all. Nothing here is about
real numbers: it holds for every kind of scalar.
-/

namespace StageMotion

variable {τ α : Type} [Scalar α] [Movable τ α]

/-! ## One tick -/

namespace Glide

/-- Whether a clock that shows `now` finds the time of the glide not over. -/
def InTime (glide : Glide α) (now : α) : Prop := now - glide.stopwatch.startedAt < glide.duration

/-- The place on the segment of the glide at the time `now`. -/
def place (glide : Glide α) (now : α) : Vec2 α :=
  glide.start + atLeast 0.0 ((now - glide.stopwatch.startedAt) / glide.duration) •
    (glide.stop - glide.start)

theorem proceed_of_inTime {glide : Glide α} {now : α} (h : glide.InTime now) (target : τ) :
    glide.proceed now target =
      { slot := some glide
        target := Movable.setPosition target (glide.place now)
        progress := .continuing
        notes := [] } := by
  have e : glide.positionAt? (glide.stopwatch.elapsed now) = some (glide.place now) :=
    if_pos h
  rw [proceed, e]

theorem proceed_of_late {glide : Glide α} {now : α} (h : ¬ glide.InTime now) (target : τ) :
    glide.proceed now target =
      { slot := none
        target := Movable.setPosition target glide.stop
        progress := .done
        notes := [.glideLanded glide.stop] } := by
  have e : glide.positionAt? (glide.stopwatch.elapsed now) = none := if_neg h
  rw [proceed, e]

/-- What the first tick of a glide captures. -/
def captured (now seconds : α) (stop : Vec2 α) (target : τ) : Glide α where
  stopwatch := .start now
  duration := seconds * 1000.0
  start := Movable.position target
  stop := stop

theorem launch_of_positive {seconds : α} (h : ¬ seconds ≤ 0.0) (now : α) (stop : Vec2 α)
    (target : τ) : launch now seconds stop target =
      { slot := some (captured now seconds stop target)
        target := target
        progress := .continuing
        notes := [.glideStarted (Movable.position target) stop seconds] } :=
  if_neg h

theorem launch_of_nonpositive {seconds : α} (h : seconds ≤ 0.0) (now : α) (stop : Vec2 α)
    (target : τ) : launch now seconds stop target =
      { slot := none
        target := Movable.setPosition target stop
        progress := .done
        notes := [] } :=
  if_pos h

/-- A glide in the slot after a tick was there before it, or the tick has captured it. -/
theorem of_slot_tick {slot : Option (Glide α)} {now seconds : α} {stop : Vec2 α} {target : τ}
    {glide : Glide α} (h : (tick slot now seconds stop target).slot = some glide) :
    slot = some glide ∨ ¬ seconds ≤ 0.0 ∧ glide = captured now seconds stop target := by
  cases slot with
  | none =>
    rw [tick] at h
    by_cases hseconds : seconds ≤ 0.0
    · rw [launch_of_nonpositive hseconds] at h
      cases h
    · rw [launch_of_positive hseconds] at h
      exact .inr ⟨hseconds, (Option.some.inj h).symm⟩
  | some underway =>
    rw [tick] at h
    by_cases hin : underway.InTime now
    · rw [proceed_of_inTime hin] at h
      exact .inl h
    · rw [proceed_of_late hin] at h
      cases h

end Glide

/-! ## A whole course -/

/-- What happens to a slot and its target: a tick with the arguments of its call, or something
else that happens to the target. -/
inductive Visit (τ α : Type)
  | tick (now seconds : α) (stop : Vec2 α)
  | elsewhere (change : τ → τ)

/-- A slot and the target that it carries. -/
structure Ride (τ α : Type) where
  slot : Option (Glide α)
  target : τ

/-- The slot and the target that a tick leaves. -/
def GlideTick.ride (ticked : GlideTick τ α) : Ride τ α := ⟨ticked.slot, ticked.target⟩

/-- A visit that is no tick past the time of the glide. -/
def Visit.InTime (glide : Glide α) : Visit τ α → Prop
  | .tick now _ _ => glide.InTime now
  | .elsewhere _ => True

namespace Ride

/-- One tick of the slot. -/
def tick (ride : Ride τ α) (now seconds : α) (stop : Vec2 α) : GlideTick τ α :=
  Glide.tick ride.slot now seconds stop ride.target

/-- The ride after one visit. -/
def visit (ride : Ride τ α) : Visit τ α → Ride τ α
  | .tick now seconds stop => (ride.tick now seconds stop).ride
  | .elsewhere change => { ride with target := change ride.target }

/-- The ride after some visits, one after another. -/
def run (ride : Ride τ α) (visits : List (Visit τ α)) : Ride τ α := visits.foldl visit ride

theorem visit_slot {ride : Ride τ α} {glide : Glide α} (h : ride.slot = some glide)
    {v : Visit τ α} (hv : v.InTime glide) : (ride.visit v).slot = some glide := by
  cases v with
  | tick now seconds stop =>
    simp only [visit, tick, h, Glide.tick]
    rw [Glide.proceed_of_inTime hv]
    rfl
  | elsewhere change => exact h

/-- A slot keeps its glide through all visits in time. -/
theorem run_slot {ride : Ride τ α} {glide : Glide α} (h : ride.slot = some glide)
    {visits : List (Visit τ α)} (hv : ∀ v ∈ visits, v.InTime glide) :
    (ride.run visits).slot = some glide := by
  induction visits generalizing ride with
  | nil => exact h
  | cons v visits ih =>
    exact ih (visit_slot h (hv v List.mem_cons_self)) fun w hw => hv w (List.mem_cons_of_mem _ hw)

end Ride

/-- **The trajectory of a glide**: the first tick of an empty slot captures a glide and moves
nothing. After any visits in time, the next tick puts the target on the captured segment if it is
in time itself, and otherwise it lands the target on the captured end and empties the slot. -/
theorem glide_trajectory {seconds : α} (hseconds : ¬ seconds ≤ 0.0) (now : α) (stop : Vec2 α)
    (target : τ) :
    let first := Glide.tick none now seconds stop target
    let glide : Glide α := ⟨⟨now⟩, seconds * 1000.0, Movable.position target, stop⟩
    (first.progress = .continuing ∧ first.target = target ∧ first.slot = some glide) ∧
    ∀ visits : List (Visit τ α), (∀ v ∈ visits, v.InTime glide) →
      ∀ (time seconds' : α) (stop' : Vec2 α),
        let ride := first.ride.run visits
        let next := ride.tick time seconds' stop'
        (time - now < seconds * 1000.0 →
          next.progress = .continuing ∧ next.slot = some glide ∧
          next.target = Movable.setPosition ride.target
            (Movable.position target + atLeast 0.0 ((time - now) / (seconds * 1000.0)) •
              (stop - Movable.position target))) ∧
        (¬ time - now < seconds * 1000.0 →
          next.progress = .done ∧ next.slot = none ∧
          next.target = Movable.setPosition ride.target stop) := by
  intro first glide
  have hfirst : first = _ := Glide.launch_of_positive hseconds now stop target
  have hslot : first.ride.slot = some glide := by rw [hfirst]; rfl
  refine ⟨⟨by rw [hfirst], by rw [hfirst], hslot⟩, fun visits hvisits time seconds' stop' => ?_⟩
  intro ride next
  have hride : ride.slot = some glide := Ride.run_slot hslot hvisits
  have hnext : next = glide.proceed time ride.target := by
    simp only [next, Ride.tick, hride, Glide.tick]
  constructor
  · intro hin
    rw [hnext, Glide.proceed_of_inTime (show glide.InTime time from hin)]
    exact ⟨rfl, rfl, rfl⟩
  · intro hlate
    rw [hnext, Glide.proceed_of_late (show ¬ glide.InTime time from hlate)]
    exact ⟨rfl, rfl, rfl⟩

/-- A sprite that is sent a hundred steps up within two seconds is halfway after the first of them,
though it was put elsewhere in between, and arrives after the second. -/
theorem glide_trajectory_upward :
    let sprite : Sprite ℝ := Sprite.create "cat" none .standard
    let first := Glide.tick none 0 2 ⟨0, 100⟩ sprite
    let ride := first.ride.run [.elsewhere fun sprite => Movable.setPosition sprite ⟨-500, 80⟩]
    ¬ (2 : ℝ) ≤ 0.0 ∧ first.target = sprite ∧
      (ride.tick 1000 5 ⟨-7, -7⟩).target.position = ⟨0, 50⟩ ∧
      (ride.tick 2000 5 ⟨-7, -7⟩).progress = .done ∧
      (ride.tick 2000 5 ⟨-7, -7⟩).target.position = ⟨0, 100⟩ := by
  intro sprite first ride
  have hseconds : ¬ (2 : ℝ) ≤ 0.0 := by norm_num
  obtain ⟨⟨-, hstill, -⟩, hlater⟩ := glide_trajectory hseconds 0 ⟨0, 100⟩ sprite
  have hvisit := hlater [.elsewhere fun sprite => Movable.setPosition sprite ⟨-500, 80⟩]
    (by simp [Visit.InTime])
  obtain ⟨-, -, hhalf⟩ := (hvisit 1000 5 ⟨-7, -7⟩).1 (by norm_num)
  obtain ⟨hdone, -, hend⟩ := (hvisit 2000 5 ⟨-7, -7⟩).2 (by norm_num)
  refine ⟨hseconds, hstill, ?_, hdone, congrArg Sprite.position hend⟩
  have hstart : Movable.position sprite = ⟨0, 0⟩ := by
    change Vec2.origin = _
    norm_num [Vec2.origin]
  rw [hhalf, hstart, atLeast_eq_max]
  change (⟨0, 0⟩ : Vec2 ℝ) + _ • _ = _
  ext <;> norm_num

end StageMotion
