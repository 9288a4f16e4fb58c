import StageMotion.Geometry
import StageMotion.Json.Codec

/-!
# Settings

The size of the stage, the seed of its random numbers and the rate at which its programs run. They
come from a JSON text, where every value that is not there keeps its default, and are checked before
they are used.

* `Settings`, `Settings.standard` : the settings and their defaults;
* `Settings.check` : the settings, if a stage can be run with them;
* `Settings.parse`, `Settings.load`, `Settings.loadOrStandard` : settings from a text or a file;
* `Settings.tickInterval` : the time between two ticks.
-/

namespace StageMotion

structure Settings (α : Type) where
  stageWidth : α
  stageHeight : α
  /-- The seed of the random numbers; without one they differ from run to run. -/
  seed : Option UInt64
  /-- Ticks in a second. -/
  tickRate : α
  deriving DecidableEq, Repr

/-- Why there are no settings. -/
inductive SettingsError (α : Type)
  | unreadable
  | malformed
  | badStage (width height : α)
  | badTickRate (rate : α)
  deriving DecidableEq, Repr

/-- What is found where a settings file should be. -/
inductive FileContent
  | missing
  | directory
  | bytes (content : ByteArray)

namespace Settings

/-! ## Defaults and ranges -/

variable {α : Type} [Scalar α]

def standardTickRate : α := 30.0

def minTickRate : α := 1.0

def maxTickRate : α := 1000.0

/-- The settings of a stage that says nothing about itself. -/
def standard : Settings α where
  stageWidth := Playfield.standard.width
  stageHeight := Playfield.standard.height
  seed := none
  tickRate := standardTickRate

/-- Whether a number can be a side of the stage. -/
def isLength (x : α) : Bool := Scalar.isFinite x && decide (0.0 < x)

/-- Whether programs can run at a rate. -/
def isTickRate (rate : α) : Bool := decide (minTickRate ≤ rate) && decide (rate ≤ maxTickRate)

/-- The settings themselves, unless the stage has no proper size or the tick rate is out of range.
The size is looked at first. -/
def check (settings : Settings α) : Except (SettingsError α) (Settings α) :=
  if !(isLength settings.stageWidth && isLength settings.stageHeight) then
    .error (.badStage settings.stageWidth settings.stageHeight)
  else if !isTickRate settings.tickRate then .error (.badTickRate settings.tickRate)
  else .ok settings

/-- The playfield of the stage. -/
def field (settings : Settings α) : Playfield α := ⟨settings.stageWidth, settings.stageHeight⟩

/-- The seconds between two ticks. A rate out of range counts as the default. -/
def tickInterval (settings : Settings α) : α :=
  1.0 / if isTickRate settings.tickRate then settings.tickRate else standardTickRate

/-! ## Settings as JSON -/

variable [JsonCodec α]

/-- Fields that are not there have their defaults, also at the end of an array. -/
instance : JsonCodec (Settings α) where
  encode settings := .record
    [("stage_width", JsonCodec.encode settings.stageWidth),
      ("stage_height", JsonCodec.encode settings.stageHeight),
      ("rng_seed", JsonCodec.encode settings.seed),
      ("tick_hz", JsonCodec.encode settings.tickRate)]
  decode? j :=
    match j.fields? ["stage_width", "stage_height", "rng_seed", "tick_hz"] 0 with
    | some [width, height, seed, rate] => do
      let defaults : Settings α := standard
      some
        { stageWidth := ← JsonCodec.decodeOr? defaults.stageWidth width
          stageHeight := ← JsonCodec.decodeOr? defaults.stageHeight height
          seed := ← JsonCodec.decodeOr? defaults.seed seed
          tickRate := ← JsonCodec.decodeOr? defaults.tickRate rate }
    | _ => none

/-- The settings of a text, checked. -/
def parse (text : String) : Except (SettingsError α) (Settings α) :=
  match JsonCodec.read? text with
  | some settings => check settings
  | none => .error .malformed

/-- The settings of a file, checked. The file has to hold text. -/
def load : FileContent → Except (SettingsError α) (Settings α)
  | .bytes content =>
    match String.fromUTF8? content with
    | some text => parse text
    | none => .error .unreadable
  | _ => .error .unreadable

/-- The settings of a file, or the defaults if it has none. -/
def loadOrStandard (file : FileContent) : Settings α :=
  match load file with
  | .ok settings => settings
  | .error _ => standard

end Settings

end StageMotion
