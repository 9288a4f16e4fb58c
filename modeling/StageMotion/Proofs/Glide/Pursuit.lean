import StageMotion.Proofs.Block.Lookup
import StageMotion.Proofs.Glide.Trajectory

/-!
# Pursuit

A block that glides to a destination looks it up on every tick, and what it finds may move: the
pointer, another sprite, or a new random place each time. Only the point that it found on the first
tick of a gesture counts. So a run of such ticks leaves what a run of the other glide block leaves,
which is told that point on every tick of the gesture (`pursuit_simulates`). What the two blocks are
given (`Chase`) comes with each tick and may be anything, and gestures follow one another in a slot
as they end.
-/

namespace StageMotion

variable {γ τ α : Type} [Scalar α] [Draws γ α] [Movable τ α]

/-! ## One tick -/

/-- What a block that glides to a destination is given on a tick: the palette, with the random
numbers to come, what there is to see, and its arguments. -/
structure Chase (γ α : Type) where
  palette : Palette γ α
  moment : Moment α
  seconds : α
  goal : Destination

namespace Chase

/-- The point at which the destination is found. -/
def point? (chase : Chase γ α) : Option (Vec2 α) :=
  (chase.palette.lookUp chase.moment.world chase.goal).point?

/-- The tick of the block that glides to the destination. -/
def tick (chase : Chase γ α) (ride : Ride τ α) : GlideTick τ α :=
  ((Block.glideTo chase.seconds chase.goal).tick chase.moment
    ⟨chase.palette, ride.slot, ride.target⟩).glideTick

/-- The tick of the block that is told a point, and otherwise given the same. -/
def tickTo (chase : Chase γ α) (point : Vec2 α) (ride : Ride τ α) : GlideTick τ α :=
  ((Block.glideToXY chase.seconds point.x point.y).tick chase.moment
    ⟨chase.palette, ride.slot, ride.target⟩).glideTick

theorem tickTo_eq (chase : Chase γ α) (point : Vec2 α) (ride : Ride τ α) :
    chase.tickTo point ride = ride.tick chase.moment.now chase.seconds point :=
  rfl

theorem tick_eq_tickTo (chase : Chase γ α) {point : Vec2 α} (h : chase.point? = some point)
    (ride : Ride τ α) : chase.tick ride = chase.tickTo point ride :=
  Block.glideTick_glideTo_of_found chase.seconds h

/-- While a gesture is under way, the point that the block is told does not matter. -/
theorem tickTo_of_isSome (chase : Chase γ α) (point other : Vec2 α) {ride : Ride τ α}
    (h : ride.slot.isSome) : chase.tickTo point ride = chase.tickTo other ride := by
  obtain ⟨glide, hglide⟩ := Option.isSome_iff_exists.mp h
  rw [tickTo_eq, tickTo_eq]
  simp only [Ride.tick, hglide, Glide.tick]

end Chase

/-! ## Runs -/

namespace Ride

/-- What each tick of a run leaves. -/
def ticks (ride : Ride τ α) (tick : ℕ → Ride τ α → GlideTick τ α) : ℕ → GlideTick τ α
  | 0 => tick 0 ride
  | n + 1 => tick (n + 1) (ride.ticks tick n).ride

/-- The first tick of the gesture that a tick of a run belongs to: the last one that found the slot
empty, or the first of the run. -/
def outset (ride : Ride τ α) (tick : ℕ → Ride τ α → GlideTick τ α) : ℕ → ℕ
  | 0 => 0
  | n + 1 => if (ride.ticks tick n).slot.isSome then ride.outset tick n else n + 1

end Ride

/-- **Only the first find counts**: as long as a destination is found, a run of ticks that glide to
it leaves on each tick the progress, the target, the slot and the notes that the run leaves whose
ticks are told the point that was found on the first tick of their gesture. -/
theorem pursuit_simulates (ride : Ride τ α) (chases : ℕ → Chase γ α) (points : ℕ → Vec2 α) (n : ℕ)
    (found : ∀ i ≤ n, (chases i).point? = some (points i)) :
    let pursuit := fun i => (chases i).tick
    ride.ticks pursuit n =
      ride.ticks (fun i => (chases i).tickTo (points (ride.outset pursuit i))) n := by
  intro pursuit
  induction n with
  | zero => exact (chases 0).tick_eq_tickTo (found 0 le_rfl) ride
  | succ n ih =>
    have hbefore := ih fun i hi => found i (Nat.le_succ_of_le hi)
    rw [Ride.ticks, Ride.ticks, ← hbefore, Ride.outset]
    have hlast : pursuit (n + 1) (ride.ticks pursuit n).ride =
        (chases (n + 1)).tickTo (points (n + 1)) (ride.ticks pursuit n).ride :=
      (chases (n + 1)).tick_eq_tickTo (found (n + 1) le_rfl) _
    rw [hlast]
    split_ifs with hfilled
    · -- the gesture goes on, and what was found first is in the slot
      exact Chase.tickTo_of_isSome _ _ _ hfilled
    · rfl

/-- A sprite that glides to the pointer for a second, while the pointer moves, lands where the
pointer was first. The tick after that starts towards where the pointer is by then. -/
theorem pursuit_simulates_pointer :
    let ride : Ride (Sprite ℝ) ℝ := ⟨none, .create "cat" none .standard⟩
    let points : ℕ → Vec2 ℝ := fun i => ⟨100 - 40 * i, 30 * i⟩
    let chases : ℕ → Chase (ℕ → ℝ) ℝ := fun i =>
      ⟨⟨.standard, fun _ => 0⟩, ⟨⟨points i, fun _ => none⟩, 500 * i⟩, 1, .pointer⟩
    let pursuit : ℕ → Ride (Sprite ℝ) ℝ → GlideTick (Sprite ℝ) ℝ := fun i => (chases i).tick
    let told : ℕ → Vec2 ℝ := fun i => if i < 3 then ⟨100, 0⟩ else ⟨-20, 90⟩
    (∀ i ≤ 3, (chases i).point? = some (points i)) ∧
      ride.ticks pursuit 3 = ride.ticks (fun i => (chases i).tickTo (told i)) 3 ∧
      (ride.ticks pursuit 2).progress = .done ∧
      (ride.ticks pursuit 2).target.position = ⟨100, 0⟩ ∧
      (ride.ticks pursuit 3).progress = .continuing := by
  intro ride points chases pursuit told
  have found : ∀ i ≤ 3, (chases i).point? = some (points i) := fun _ _ => rfl
  have hpoint : points 0 = ⟨100, 0⟩ := by
    norm_num [points]
  have htick : ∀ (i : ℕ) (ride : Ride (Sprite ℝ) ℝ),
      pursuit i ride = Glide.tick ride.slot (500 * i) 1 (points i) ride.target :=
    fun i ride => (chases i).tick_eq_tickTo rfl ride
  have hfirst : (ride.ticks pursuit 0).slot.isSome := by
    norm_num [Ride.ticks, htick, ride, Glide.tick, Glide.launch]
  have hsecond : (ride.ticks pursuit 1).slot.isSome := by
    norm_num [Ride.ticks, htick, ride, Glide.tick, Glide.launch, GlideTick.ride, Glide.proceed,
      Glide.positionAt?, Stopwatch.start, Stopwatch.elapsed]
  have hland : ride.ticks pursuit 2 =
      ⟨none, Movable.setPosition ride.target ⟨100, 0⟩, .done, [.glideLanded ⟨100, 0⟩]⟩ := by
    norm_num [Ride.ticks, htick, hpoint, ride, Glide.tick, Glide.launch, GlideTick.ride,
      Glide.proceed, Glide.positionAt?, Stopwatch.start, Stopwatch.elapsed]
    rfl
  have hagain : (ride.ticks pursuit 3).progress = .continuing := by
    rw [Ride.ticks, hland, htick]
    norm_num [GlideTick.ride, Glide.tick, Glide.launch]
  have hone : ride.outset pursuit 1 = 0 := by
    rw [Ride.outset, if_pos hfirst, Ride.outset]
  have htwo : ride.outset pursuit 2 = 0 := by
    rw [Ride.outset, if_pos hsecond, hone]
  have hthree : ride.outset pursuit 3 = 3 := by
    rw [Ride.outset, hland]
    rfl
  have htold : ∀ i ≤ 3, points (ride.outset pursuit i) = told i := by
    intro i hi
    obtain rfl | rfl | rfl | rfl : i = 0 ∨ i = 1 ∨ i = 2 ∨ i = 3 := by omega
    · exact hpoint
    · rw [hone]; exact hpoint
    · rw [htwo]; exact hpoint
    · rw [hthree]; norm_num [points, told]
  have hrun : ride.ticks pursuit 3 =
      ride.ticks (fun i => (chases i).tickTo (points (ride.outset pursuit i))) 3 :=
    pursuit_simulates ride chases points 3 found
  have hsame : ride.ticks pursuit 3 = ride.ticks (fun i => (chases i).tickTo (told i)) 3 := by
    rw [hrun]
    simp only [Ride.ticks, htold 0 (by omega), htold 1 (by omega), htold 2 (by omega),
      htold 3 (by omega)]
  rw [hland]
  exact ⟨found, hsame, rfl, rfl, hagain⟩

end StageMotion
