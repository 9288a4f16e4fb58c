import StageMotion.Note.Text
import StageMotion.Opening
import StageMotion.Settings.Message
import StageMotion.Slots
import StageMotion.SystemClock

/-!
# A demonstration

One sprite on the system clock: it glides to the pointer, and then moves and bounces off the edges
for a while. The only argument is the path of a settings file. The journal goes to the standard
error output, up to the level that the environment variable `MOTION_LOG` names.
-/

namespace StageMotion.Demo

/-- The call site of the glide. -/
def glideSite : CallSite := ⟨1⟩

/-- How long the sprite moves and bounces, in ticks. -/
def bounceTicks : Nat := 90

/-- What the demonstration runs with. -/
structure Setup where
  asked : Option Level
  clock : SystemClock
  world : World Float
  pause : UInt32

/-- What changes from tick to tick. -/
structure Scene where
  palette : Palette Pcg Float
  sprite : Sprite Float
  slots : Slots Float

def say (asked : Option Level) (level : Level) (text : String) : IO Unit :=
  if level.shows asked then IO.eprintln (level.name ++ " " ++ text) else pure ()

def tell (asked : Option Level) (notes : List (Note Float)) : IO Unit :=
  notes.forM fun note => say asked note.level note.text

/-- A text moved to the right end of a column. -/
def padded (width : Nat) (text : String) : String :=
  String.ofList (List.replicate (width - text.length) ' ') ++ text

/-- Runs one tick of a block at the site of the glide. -/
def runBlock (setup : Setup) (scene : Scene) (block : Block Float) :
    IO (Scene × Turn Pcg (Sprite Float) Float) := do
  let now ← setup.clock.now
  let (slots, turn) :=
    scene.slots.lend glideSite { world := setup.world, now } scene.palette scene.sprite block
  tell setup.asked turn.notes
  return ({ palette := turn.palette, sprite := turn.target, slots }, turn)

/-- Glides to the pointer, one tick after another. -/
partial def glide (setup : Setup) (scene : Scene) (ticks : Nat) : IO Scene := do
  let (scene, turn) ← runBlock setup scene (.glideTo 1.5 (.ofMenu Destination.pointerEntry))
  let ticks := ticks + 1
  let place := scene.sprite.position
  say setup.asked .info
    ("tick " ++ padded 3 (toString ticks) ++ " glide (" ++ padded 7 (Text.numberTo 2 place.x) ++
      ", " ++ padded 7 (Text.numberTo 2 place.y) ++ ")")
  match turn.progress with
  | .done =>
    say setup.asked .info ("glide finished after " ++ toString ticks ++ " ticks")
    return scene
  | .continuing =>
    IO.sleep setup.pause
    glide setup scene ticks

/-- Moves and bounces for the last ticks of `bounceTicks`, as many as are left. -/
def bounce (setup : Setup) (scene : Scene) : Nat → IO Scene
  | 0 => return scene
  | left + 1 => do
    let (scene, _) ← runBlock setup scene (.move 10.0)
    let (scene, turn) ← runBlock setup scene .bounceOnEdge
    if let some edge := turn.edge? then
      say setup.asked .info
        ("tick " ++ padded 3 (toString (bounceTicks - (left + 1))) ++ " bounce off " ++ edge.name
          ++ " -> direction " ++ Text.numberTo 1 scene.sprite.heading)
    IO.sleep setup.pause
    bounce setup scene left

/-- What is found at a path. -/
def readFile (path : String) : IO FileContent := do
  try
    return .bytes (← IO.FS.readBinFile path)
  catch
    | .inappropriateType .. => return .directory
    | _ => return .missing

/-- The settings of a file, or the defaults with a warning. -/
def loadSettings (asked : Option Level) (path : String) : IO (Settings Float) := do
  let file ← readFile path
  match (Settings.load file : Except (SettingsError Float) (Settings Float)) with
  | .ok _ => say asked .info ("Loaded settings from " ++ path)
  | .error e => say asked .warn ("Using default settings (" ++ path ++ ": " ++ e.message ++ ")")
  return Settings.loadOrStandard file

/-- A seed that differs from run to run. -/
def entropy : IO UInt64 := do
  let bytes ← IO.getRandomBytes 8
  return bytes.toList.foldl (fun seed byte => seed * 256 + byte.toUInt64) 0

def run (arguments : List String) : IO Unit := do
  let asked := (← IO.getEnv "MOTION_LOG").bind Level.ofWord?
  say asked .info "Sprite Motion (native) starting..."
  let settings ←
    match arguments with
    | path :: _ => loadSettings asked path
    | [] => pure .standard
  let (palette, notes) := Palette.ofSettings settings (← entropy)
  tell asked notes
  let stage : Stage Float := { Stage.empty with pointer := ⟨150.0, 100.0⟩ }
  let setup : Setup :=
    { asked, clock := ← SystemClock.start, world := stage.world
      pause := (settings.tickInterval * 1000.0).toUInt32 }
  let sprite := Sprite.create "Sprite1" (some ⟨48.0, 48.0⟩) settings.field
  let scene : Scene := { palette, sprite, slots := .empty }
  let (scene, _) ← runBlock setup scene (.pointInDirection 45.0)
  let scene ← glide setup scene 0
  let scene ← bounce setup scene bounceTicks
  say asked .info
    ("final position (" ++ Text.number (Movable.readX scene.sprite) ++ ", "
      ++ Text.number (Movable.readY scene.sprite) ++ ") direction "
      ++ Text.number scene.sprite.heading)

end StageMotion.Demo

def main (arguments : List String) : IO UInt32 := do
  StageMotion.Demo.run arguments
  return 0
