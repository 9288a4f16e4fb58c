import StageMotion.Note
import StageMotion.Settings.Message
import StageMotion.Text.Quoted

/-!
# The wording of the journal
-/

namespace StageMotion

open Text

/-- A destination as the journal names it. -/
def Destination.label : Destination → String
  | pointer => "Pointer"
  | random => "Random"
  | named name => "Named(" ++ quoted name ++ ")"

namespace Note

/-- A point, its coordinates written in a given way. -/
def pointText (coordinate : Float → String) (p : Vec2 Float) : String :=
  "(" ++ coordinate p.x ++ ", " ++ coordinate p.y ++ ")"

/-- The words of a note. -/
def text : Note Float → String
  | opened width height seed =>
    "Motion blocks on " ++ number width ++ "x" ++ number height ++ " stage, seed " ++
      toString seed.toNat
  | moved steps => "move " ++ number steps ++ " steps"
  | wentToXY x y => "go to x: " ++ number x ++ " y: " ++ number y
  | wentTo goal point => "go to " ++ goal.label ++ " at " ++ pointText number point
  | turnedRight degrees => "turn right " ++ number degrees ++ " degrees"
  | turnedLeft degrees => "turn left " ++ number degrees ++ " degrees"
  | pointedInDirection degrees => "point in direction " ++ number degrees
  | pointedTowards goal => "point towards " ++ goal.label
  | pointedAtRandom heading => "point towards random direction " ++ number heading
  | spriteUnknown name => "no sprite named " ++ quoted name
  | glideStarted start stop seconds =>
    "glide start " ++ pointText (numberTo 2) start ++ " -> " ++ pointText (numberTo 2) stop ++
      " over " ++ number seconds ++ "s"
  | glideLanded stop => "glide done at " ++ pointText (numberTo 2) stop
  | glideVanished goal => "glide target " ++ goal.label ++ " vanished, stopping"
  | glideAbandoned site => "glide at call site " ++ toString site.number.toNat ++ " abandoned"
  | bounced edge heading => "bounced off " ++ edge.name ++ " edge, heading " ++ numberTo 1 heading
  | styleSet style => "set rotation style " ++ style.name
  | styleUnknown name => "unknown rotation style " ++ quoted name
  | xChanged amount => "change x by " ++ number amount
  | xSet x => "set x to " ++ number x
  | yChanged amount => "change y by " ++ number amount
  | ySet y => "set y to " ++ number y

/-- A note as a line of the journal. -/
def line (note : Note Float) : String := note.level.name ++ " " ++ note.text

end Note

end StageMotion
