/-!
# The system clock

Milliseconds since the clock was started, read off the monotonic clock of the system.
-/

namespace StageMotion

structure SystemClock where
  startedAt : Nat

namespace SystemClock

/-- Starts a clock. -/
def start : IO SystemClock := return ⟨← IO.monoNanosNow⟩

/-- The milliseconds since the start. -/
def now (clock : SystemClock) : IO Float := do
  let nanos ← IO.monoNanosNow
  return Float.ofNat (nanos - clock.startedAt) / 1000000.0

end SystemClock

end StageMotion
