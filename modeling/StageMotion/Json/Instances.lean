import StageMotion.Glide
import StageMotion.Json.Codec

/-!
# The JSON form of stage values

Vectors are arrays of two numbers, call sites are plain numbers, and rotation styles are the names
of their constructors, alone or as the key of a null. All else are records.
-/

namespace StageMotion

open JsonCodec

variable {α : Type} [JsonCodec α]

instance : JsonCodec (Vec2 α) where
  encode v := .array [encode v.x, encode v.y]
  decode?
    | .array [x, y] => do some ⟨← decode? x, ← decode? y⟩
    | _ => none

instance : JsonCodec (Bounds α) where
  encode box := .record
    [("left", encode box.left), ("right", encode box.right), ("top", encode box.top),
      ("bottom", encode box.bottom)]
  decode? j :=
    match j.fields? ["left", "right", "top", "bottom"] 4 with
    | some [some left, some right, some top, some bottom] => do
      some ⟨← decode? left, ← decode? right, ← decode? top, ← decode? bottom⟩
    | _ => none

instance : JsonCodec (Playfield α) where
  encode field := .record [("width", encode field.width), ("height", encode field.height)]
  decode? j :=
    match j.fields? ["width", "height"] 2 with
    | some [some width, some height] => do some ⟨← decode? width, ← decode? height⟩
    | _ => none

/-- The name of a style in JSON. -/
def RotationStyle.tag : RotationStyle → String
  | allAround => "AllAround"
  | leftRight => "LeftRight"
  | dontRotate => "DontRotate"

/-- The style of a name in JSON. -/
def RotationStyle.ofTag? : String → Option RotationStyle
  | "AllAround" => some allAround
  | "LeftRight" => some leftRight
  | "DontRotate" => some dontRotate
  | _ => none

instance : JsonCodec RotationStyle where
  encode style := .ofString style.tag
  decode?
    | .string (some tag) => RotationStyle.ofTag? tag
    | .object [(some tag, .null)] => RotationStyle.ofTag? tag
    | _ => none

instance : JsonCodec CallSite where
  encode site := encode site.number
  decode? j := (decode? j).map CallSite.mk

instance : JsonCodec (Stopwatch α) where
  encode watch := .record [("start_ms", encode watch.startedAt)]
  decode? j :=
    match j.fields? ["start_ms"] 1 with
    | some [some startedAt] => do some ⟨← decode? startedAt⟩
    | _ => none

instance : JsonCodec (Glide α) where
  encode glide := .record
    [("timer", encode glide.stopwatch), ("duration_ms", encode glide.duration),
      ("start", encode glide.start), ("end", encode glide.stop)]
  decode? j :=
    match j.fields? ["timer", "duration_ms", "start", "end"] 4 with
    | some [some stopwatch, some duration, some start, some stop] => do
      some ⟨← decode? stopwatch, ← decode? duration, ← decode? start, ← decode? stop⟩
    | _ => none

/-- The costume may be missing from an object, but not from an array. The heading is taken as it
stands. -/
instance : JsonCodec (Sprite α) where
  encode sprite := .record
    [("name", encode sprite.name), ("pos", encode sprite.position),
      ("heading", encode sprite.heading), ("rotation_style", encode sprite.rotationStyle),
      ("costume_size", encode sprite.costume), ("visible", encode sprite.visible),
      ("playfield", encode sprite.field)]
  decode? j :=
    let names :=
      ["name", "pos", "heading", "rotation_style", "costume_size", "visible", "playfield"]
    match j.fields? names 7 with
    | some [some name, some position, some heading, some style, costume, some visible,
        some field] => do
      let costume ← decode? (costume.getD .null)
      some
        { name := ← decode? name, position := ← decode? position, heading := ← decode? heading
          rotationStyle := ← decode? style, costume, visible := ← decode? visible
          field := ← decode? field }
    | _ => none

end StageMotion
