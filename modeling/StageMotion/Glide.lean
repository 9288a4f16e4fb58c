import StageMotion.Note

/-!
# Glides

A glide carries a target along a straight line for a given time. It spans many ticks, and its state
lives in a slot between them: the slot is filled on the first tick, which only looks where the
target is, and emptied on the tick that lands. Every tick between computes the position anew from
the time that has passed, so neither the number of ticks nor what else moves the target matters.

* `Stopwatch` : remembers when it was started. The time is read by whoever holds it, in
  milliseconds, and handed to it;
* `Glide.positionAt?` : where a glide is after some time, until it is over;
* `Glide.launch`, `Glide.proceed` : the tick of an empty and of a filled slot;
* `Glide.tick` : one tick of a slot.
-/

namespace StageMotion

/-! ## Stopwatches -/

/-- A running stopwatch. -/
structure Stopwatch (α : Type) where
  startedAt : α
  deriving DecidableEq, Repr

namespace Stopwatch

variable {α : Type}

/-- A stopwatch started at the time `now`. -/
def start (now : α) : Stopwatch α := ⟨now⟩

/-- The milliseconds between the start and the time `now`. -/
def elapsed [Sub α] (watch : Stopwatch α) (now : α) : α := now - watch.startedAt

end Stopwatch

/-! ## Glides -/

/-- A glide under way: when it started, how many milliseconds it takes, and its two ends. -/
structure Glide (α : Type) where
  stopwatch : Stopwatch α
  duration : α
  start : Vec2 α
  stop : Vec2 α
  deriving DecidableEq, Repr

/-- Whether a block has to be run again on a later tick. -/
inductive Progress
  | continuing
  | done
  deriving DecidableEq, Repr

def Progress.name : Progress → String
  | continuing => "continuing"
  | done => "done"

/-- What one tick of a glide leaves. -/
structure GlideTick (τ α : Type) where
  slot : Option (Glide α)
  target : τ
  progress : Progress
  notes : List (Note α)

namespace Glide

variable {τ α : Type} [Scalar α]

/-- The position after `elapsed` milliseconds, or nothing once the glide is over. -/
def positionAt? (glide : Glide α) (elapsed : α) : Option (Vec2 α) :=
  if elapsed < glide.duration then
    let part := atLeast 0.0 (elapsed / glide.duration)
    some (glide.start + part • (glide.stop - glide.start))
  else none

variable [Movable τ α]

/-- The first tick. A glide that takes no time goes straight to its end and fills no slot. -/
def launch (now seconds : α) (stop : Vec2 α) (target : τ) : GlideTick τ α :=
  if seconds ≤ 0.0 then
    { slot := none, target := Movable.setPosition target stop, progress := .done, notes := [] }
  else
    let start := Movable.position target
    { slot := some
        { stopwatch := .start now, duration := seconds * 1000.0, start, stop }
      target
      progress := .continuing
      notes := [.glideStarted start stop seconds] }

/-- A later tick. Once its time is over the glide lands exactly on its end. -/
def proceed (glide : Glide α) (now : α) (target : τ) : GlideTick τ α :=
  match glide.positionAt? (glide.stopwatch.elapsed now) with
  | some position =>
    { slot := some glide
      target := Movable.setPosition target position
      progress := .continuing
      notes := [] }
  | none =>
    { slot := none
      target := Movable.setPosition target glide.stop
      progress := .done
      notes := [.glideLanded glide.stop] }

/-- One tick of a slot at the time `now`. The seconds and the end only matter while the slot is
empty. -/
def tick (slot : Option (Glide α)) (now seconds : α) (stop : Vec2 α) (target : τ) :
    GlideTick τ α :=
  match slot with
  | none => launch now seconds stop target
  | some glide => glide.proceed now target

end Glide

end StageMotion
