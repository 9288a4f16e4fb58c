import StageMotion.Bounce
import StageMotion.Stage

/-!
# The journal

Whatever happens on the stage leaves a note. Notes are data; how one is worded is decided in
`StageMotion.Note.Text`.

* `CallSite` : the place in a running program that drives a gesture. Whoever runs the program gives
  each place a number and uses it for all ticks of one gesture;
* `Level` : how much attention a line of the journal asks for, and how much of it a reader wants to
  see;
* `Note` : the notes.
-/

namespace StageMotion

/-! ## Call sites -/

/-- A place in a running program. -/
structure CallSite where
  number : UInt64
  deriving DecidableEq, Repr

namespace CallSite

instance : Ord CallSite := ⟨compareOn CallSite.number⟩

instance : Std.TransOrd CallSite :=
  inferInstanceAs (Std.TransCmp (compareOn CallSite.number))

instance : Std.LawfulEqOrd CallSite where
  eq_of_compare {a b} h := by
    have h : compare a.number b.number = .eq := h
    have h := Std.LawfulEqOrd.eq_of_compare h
    cases a
    cases b
    simp_all

end CallSite

/-! ## Levels of attention -/

inductive Level
  | warn
  | info
  | debug
  deriving DecidableEq, Repr

namespace Level

def name : Level → String
  | warn => "WARN"
  | info => "INFO"
  | debug => "DEBUG"

/-- The level of a word such as `info`. -/
def ofWord? : String → Option Level
  | "warn" => some warn
  | "info" => some info
  | "debug" => some debug
  | _ => none

def rank : Level → Nat
  | warn => 1
  | info => 2
  | debug => 3

/-- Whether a reader who asked for lines up to some level sees lines of another one. -/
def shows (asked : Option Level) (level : Level) : Bool :=
  asked.any fun asked => level.rank ≤ asked.rank

end Level

/-! ## Notes -/

/-- Something that happened. -/
inductive Note (α : Type)
  | opened (width height : α) (seed : UInt64)
  | moved (steps : α)
  | wentToXY (x y : α)
  | wentTo (goal : Destination) (point : Vec2 α)
  | turnedRight (degrees : α)
  | turnedLeft (degrees : α)
  | pointedInDirection (degrees : α)
  | pointedTowards (goal : Destination)
  | pointedAtRandom (heading : α)
  | spriteUnknown (name : String)
  | glideStarted (start stop : Vec2 α) (seconds : α)
  | glideLanded (stop : Vec2 α)
  | glideVanished (goal : Destination)
  | glideAbandoned (site : CallSite)
  | bounced (edge : Edge) (heading : α)
  | styleSet (style : RotationStyle)
  | styleUnknown (name : String)
  | xChanged (amount : α)
  | xSet (x : α)
  | yChanged (amount : α)
  | ySet (y : α)
  deriving DecidableEq, Repr

/-- Opening a stage is worth telling; all else is detail. -/
def Note.level {α : Type} : Note α → Level
  | opened .. => .info
  | _ => .debug

end StageMotion
