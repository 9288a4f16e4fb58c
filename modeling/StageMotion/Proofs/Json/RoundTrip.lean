import Mathlib.Data.List.Nodup
import StageMotion.Json.Instances
import StageMotion.Proofs.Json.Printing
import StageMotion.Settings

/-!
# Values survive their text

Values of the stage that are written as JSON and read again come back as they were, as far as the
floats in them do. A float that is not finite is written as null, which is read as no float, so a
value that holds one does not come back as another value: it does not come back at all. `Keeps`
says both of what is read for a value, and passes from the fields of a record to the record
(`Keeps.seq`), so every kind of value is `Faithful` because its fields are.

A field of an object is found if no two members have its name (`Json.exists_member?`), so a record
gives back the fields that it was made of (`Json.fields?_record`).
-/

namespace StageMotion

/-! ## The fields of a record -/

namespace Json

variable {members : List (Option String × Json)} {name : String}

/-- A name that occurs at most once has the value of its member, if there is one. -/
theorem exists_member? (h : (members.map Prod.fst).count (some name) ≤ 1) :
    ∃ found, member? members name = some found ∧
      ∀ v, (some name, v) ∈ members ↔ found = some v := by
  have hlength : (members.filter fun member => member.1 = some name).length ≤ 1 := by
    simpa [List.count_eq_length_filter, List.filter_map, Function.comp_def, beq_eq_decide] using h
  have hmem (v : Json) : (some name, v) ∈ members ↔
      (some name, v) ∈ members.filter fun member => member.1 = some name := by simp
  simp only [member?, hmem]
  generalize hnamed : members.filter (fun member => member.1 = some name) = named at hlength ⊢
  match named with
  | [] => exact ⟨none, rfl, by simp⟩
  | [(key, value)] =>
    have hkey : key = some name := by
      have hin : (key, value) ∈ members.filter fun member => member.1 = some name := by
        rw [hnamed]
        exact List.mem_singleton_self _
      simpa using (List.mem_filter.mp hin).2
    exact ⟨some value, rfl, by simp [hkey, eq_comm]⟩
  | _ :: _ :: _ => simp at hlength

/-- A record gives back the values of its fields, whose names are all different. -/
theorem fields?_record (members : List (String × Json)) (h : (members.map Prod.fst).Nodup)
    (least : Nat) : (record members).fields? (members.map Prod.fst) least =
      some (members.map fun member => some member.2) := by
  have hfound : ∀ member ∈ members, member?
      (members.map fun member => (some member.1, member.2)) member.1 = some (some member.2) := by
    intro member hmember
    have hkeys : ((members.map fun member => (some member.1, member.2)).map Prod.fst).Nodup := by
      simpa [Function.comp_def] using h.map fun _ _ => Option.some.inj
    obtain ⟨found, hfound, hmem⟩ :=
      exists_member? (List.nodup_iff_count_le_one.mp hkeys (some member.1))
    rw [hfound, (hmem member.2).mp (List.mem_map_of_mem hmember)]
  have hmapM (part : List (String × Json)) (hpart : ∀ member ∈ part, member ∈ members) :
      (part.map Prod.fst).mapM (member? (members.map fun member => (some member.1, member.2))) =
        some (part.map fun member => some member.2) := by
    induction part with
    | nil => rfl
    | cons member part ih =>
      rw [List.forall_mem_cons] at hpart
      simp [hfound member hpart.1, ih hpart.2]
  simpa [record, fields?] using hmapM members fun _ h => h

end Json

/-! ## Floats in values -/

/-- The floats in a value. -/
class HasFloats (β : Type) where
  floats : β → List Float

open HasFloats

instance : HasFloats Float := ⟨fun x => [x]⟩

instance : HasFloats UInt64 := ⟨fun _ => []⟩

instance : HasFloats Bool := ⟨fun _ => []⟩

instance : HasFloats String := ⟨fun _ => []⟩

instance : HasFloats RotationStyle := ⟨fun _ => []⟩

instance : HasFloats CallSite := ⟨fun _ => []⟩

instance {β : Type} [HasFloats β] : HasFloats (Option β) where
  floats
    | some value => floats value
    | none => []

instance : HasFloats (Vec2 Float) := ⟨fun v => floats v.x ++ floats v.y⟩

instance : HasFloats (Bounds Float) where
  floats box := floats box.left ++ floats box.right ++ floats box.top ++ floats box.bottom

instance : HasFloats (Playfield Float) := ⟨fun field => floats field.width ++ floats field.height⟩

instance : HasFloats (Settings Float) where
  floats settings :=
    floats settings.stageWidth ++ floats settings.stageHeight ++ floats settings.seed ++
      floats settings.tickRate

instance : HasFloats (Stopwatch Float) := ⟨fun watch => floats watch.startedAt⟩

instance : HasFloats (Glide Float) where
  floats glide :=
    floats glide.stopwatch ++ floats glide.duration ++ floats glide.start ++ floats glide.stop

instance : HasFloats (Sprite Float) where
  floats sprite :=
    floats sprite.name ++ floats sprite.position ++ floats sprite.heading ++
      floats sprite.rotationStyle ++ floats sprite.costume ++ floats sprite.visible ++
      floats sprite.field

namespace JsonCodec

/-- What is read from a text of a value is what is found in its JSON form. -/
theorem read?_print {β : Type} [JsonCodec β] {value : β} (h : (encode value).Proper) :
    (read? (print value) : Option β) = decode? (encode value) := by
  rw [read?, print, Json.parse?_text h]
  rfl

/-- A float comes back from its text. -/
def Returns (x : Float) : Prop := read? (print x) = some x

/-- What is found for a value with the given floats: the value itself if all of them come back from
their texts, and nothing if one of them is not finite. -/
def Keeps {β : Type} (xs : List Float) (value : β) (found : Option β) : Prop :=
  ((∀ x ∈ xs, Returns x) → found = some value) ∧ ((∃ x ∈ xs, ¬ x.isFinite) → found = none)

namespace Keeps

variable {β γ : Type} {xs ys : List Float}

/-- A value without floats is found whatever happens to floats. -/
theorem of_eq {value : β} {found : Option β} (h : found = some value) : Keeps [] value found :=
  ⟨fun _ => h, by simp⟩

theorem map (f : β → γ) {value : β} {found : Option β} (h : Keeps xs value found) :
    Keeps xs (f value) (f <$> found) :=
  ⟨fun hxs => by rw [h.1 hxs]; rfl, fun hxs => by rw [h.2 hxs]; rfl⟩

/-- One more field of a record is read. -/
theorem seq {f : β → γ} {make : Option (β → γ)} {value : β} {found : Option β}
    (hf : Keeps xs f make) (h : Keeps ys value found) :
    Keeps (xs ++ ys) (f value) (make <*> found) := by
  constructor
  · intro hall
    obtain ⟨hxs, hys⟩ := List.forall_mem_append.mp hall
    rw [hf.1 hxs, h.1 hys]
    rfl
  · rintro ⟨x, hx, hfinite⟩
    rcases List.mem_append.mp hx with hx | hx
    · rw [hf.2 ⟨x, hx, hfinite⟩]
      rfl
    · rw [h.2 ⟨x, hx, hfinite⟩]
      cases make <;> rfl

end Keeps

/-- Values come back from their JSON form as far as the floats in them do, and the form of a value
with a float that is not finite is the form of no value. -/
class Faithful (β : Type) [JsonCodec β] [HasFloats β] : Prop where
  proper (value : β) : (encode value).Proper
  keeps (value : β) : Keeps (floats value) value (decode? (encode value))

open Faithful

theorem keeps_read? {β : Type} [JsonCodec β] [HasFloats β] [Faithful β] (value : β) :
    Keeps (floats value) value (read? (print value)) := by
  rw [read?_print (proper value)]
  exact keeps value

/-! ## Plain values -/

theorem proper_encode_float (x : Float) : (encode x).Proper := by
  simp only [encode]
  split
  · exact Json.proper_number (Layout.isProper_ofFloat _ _)
  · exact Json.proper_null

instance : Faithful Float where
  proper := proper_encode_float
  keeps x := by
    constructor
    · intro h
      have hx : Returns x := h x (List.mem_singleton_self x)
      rwa [Returns, read?_print (proper_encode_float x)] at hx
    · rintro ⟨y, hy, hfinite⟩
      obtain rfl := List.mem_singleton.mp hy
      simp only [encode, if_neg hfinite]
      rfl

instance : Faithful UInt64 where
  proper n := Json.proper_number (Numeral.isProper_ofNat n.toNat)
  keeps n := .of_eq
    ((Numeral.toUInt64?_eq_some_iff _ n).mpr ⟨rfl, rfl, rfl, digitsFrom_digitsOf n.toNat⟩)

instance : Faithful Bool where
  proper := Json.proper_bool
  keeps _ := .of_eq rfl

instance : Faithful String where
  proper text := Json.proper_string (some text)
  keeps _ := .of_eq rfl

instance : Faithful RotationStyle where
  proper style := Json.proper_string (some style.tag)
  keeps style := .of_eq (by cases style <;> rfl)

instance : Faithful CallSite where
  proper site := proper site.number
  keeps site := (keeps site.number).map CallSite.mk

/-- Null stands for a value that is missing, so it must not stand for one that is there. -/
theorem faithful_option {β : Type} [JsonCodec β] [HasFloats β] [Faithful β]
    (h : ∀ value : β, encode value ≠ .null) : Faithful (Option β) where
  proper
    | none => Json.proper_null
    | some value => proper value
  keeps
    | none => .of_eq rfl
    | some value => by
      have hsome : (decode? (encode (some value)) : Option (Option β)) =
          some <$> decode? (encode value) := by
        change (decode? (encode value) : Option (Option β)) = _
        cases hvalue : encode value with
        | null => exact absurd hvalue (h value)
        | bool | number | string | array | object => rfl
      rw [hsome]
      exact (keeps value).map some

instance : Faithful (Option UInt64) := faithful_option fun _ => by simp [encode]

/-! ## Vectors and records

Each is read field by field, all of which have to be there. -/

theorem proper_record {members : List (String × Json)} (h : ∀ member ∈ members, member.2.Proper) :
    (Json.record members).Proper :=
  Json.proper_object (List.forall_mem_map.mpr h)

section

variable {x y left right top bottom width height name position heading style costume visible field
  seed rate startedAt stopwatch duration start stop : Json}

theorem decode?_vec2 :
    (decode? (.array [x, y]) : Option (Vec2 Float)) = Vec2.mk <$> decode? x <*> decode? y := by
  simp [decode?, seq_eq_bind_map, Option.map_eq_bind, Option.bind_assoc]

theorem decode?_bounds :
    (decode? (.record [("left", left), ("right", right), ("top", top), ("bottom", bottom)]) :
      Option (Bounds Float)) =
      Bounds.mk <$> decode? left <*> decode? right <*> decode? top <*> decode? bottom := by
  have hfields := Json.fields?_record [("left", left), ("right", right), ("top", top),
    ("bottom", bottom)] (by simp) 4
  simp only [List.map_cons, List.map_nil] at hfields
  simp [decode?, hfields, seq_eq_bind_map, Option.map_eq_bind, Option.bind_assoc]

theorem decode?_playfield :
    (decode? (.record [("width", width), ("height", height)]) : Option (Playfield Float)) =
      Playfield.mk <$> decode? width <*> decode? height := by
  have hfields := Json.fields?_record [("width", width), ("height", height)] (by simp) 2
  simp only [List.map_cons, List.map_nil] at hfields
  simp [decode?, hfields, seq_eq_bind_map, Option.map_eq_bind, Option.bind_assoc]

theorem decode?_settings :
    (decode? (.record [("stage_width", width), ("stage_height", height), ("rng_seed", seed),
      ("tick_hz", rate)]) : Option (Settings Float)) =
      Settings.mk <$> decode? width <*> decode? height <*> decode? seed <*> decode? rate := by
  have hfields := Json.fields?_record [("stage_width", width),
    ("stage_height", height), ("rng_seed", seed), ("tick_hz", rate)] (by simp) 0
  simp only [List.map_cons, List.map_nil] at hfields
  simp [decode?, decodeOr?, hfields, seq_eq_bind_map, Option.map_eq_bind, Option.bind_assoc]

theorem decode?_stopwatch :
    (decode? (.record [("start_ms", startedAt)]) : Option (Stopwatch Float)) =
      Stopwatch.mk <$> decode? startedAt := by
  have hfields := Json.fields?_record [("start_ms", startedAt)] (by simp) 1
  simp only [List.map_cons, List.map_nil] at hfields
  simp [decode?, hfields, Option.map_eq_bind]

theorem decode?_glide :
    (decode? (.record [("timer", stopwatch), ("duration_ms", duration), ("start", start),
      ("end", stop)]) : Option (Glide Float)) =
      Glide.mk <$> decode? stopwatch <*> decode? duration <*> decode? start <*> decode? stop := by
  have hfields := Json.fields?_record [("timer", stopwatch), ("duration_ms", duration),
    ("start", start), ("end", stop)] (by simp) 4
  simp only [List.map_cons, List.map_nil] at hfields
  simp [decode?, hfields, seq_eq_bind_map, Option.map_eq_bind, Option.bind_assoc]

/-- The costume is read first. -/
theorem decode?_sprite :
    (decode? (.record [("name", name), ("pos", position), ("heading", heading),
      ("rotation_style", style), ("costume_size", costume), ("visible", visible),
      ("playfield", field)]) : Option (Sprite Float)) =
      Sprite.mk <$> decode? name <*> decode? position <*> decode? heading <*> decode? style <*>
        decode? costume <*> decode? visible <*> decode? field := by
  have hfields := Json.fields?_record [("name", name), ("pos", position),
    ("heading", heading), ("rotation_style", style), ("costume_size", costume),
    ("visible", visible), ("playfield", field)] (by simp) 7
  simp only [List.map_cons, List.map_nil] at hfields
  conv_lhs => unfold decode?; dsimp only [instJsonCodecSprite]; rw [hfields]
  cases hcostume : (decode? costume : Option (Option (Vec2 Float))) <;>
    simp [hcostume, seq_eq_bind_map, Option.map_eq_bind, Option.bind_assoc]

end

instance : Faithful (Vec2 Float) where
  proper v := Json.proper_array (by simp [proper])
  keeps v := decode?_vec2 ▸ ((keeps v.x).map Vec2.mk).seq (keeps v.y)

instance : Faithful (Option (Vec2 Float)) := faithful_option fun _ => by simp [encode]

instance : Faithful (Bounds Float) where
  proper _ := proper_record (by simp [proper])
  keeps box := decode?_bounds ▸
    ((((keeps box.left).map Bounds.mk).seq (keeps box.right)).seq (keeps box.top)).seq
      (keeps box.bottom)

instance : Faithful (Playfield Float) where
  proper _ := proper_record (by simp [proper])
  keeps field := decode?_playfield ▸ ((keeps field.width).map Playfield.mk).seq (keeps field.height)

instance : Faithful (Settings Float) where
  proper _ := proper_record (by simp [proper])
  keeps settings := decode?_settings ▸
    ((((keeps settings.stageWidth).map Settings.mk).seq (keeps settings.stageHeight)).seq
      (keeps settings.seed)).seq (keeps settings.tickRate)

instance : Faithful (Stopwatch Float) where
  proper _ := proper_record (by simp [proper])
  keeps watch := decode?_stopwatch ▸ (keeps watch.startedAt).map Stopwatch.mk

instance : Faithful (Glide Float) where
  proper _ := proper_record (by simp [proper])
  keeps glide := decode?_glide ▸
    ((((keeps glide.stopwatch).map Glide.mk).seq (keeps glide.duration)).seq
      (keeps glide.start)).seq (keeps glide.stop)

instance : Faithful (Sprite Float) where
  proper _ := proper_record (by simp [proper])
  keeps sprite := decode?_sprite ▸
    (((((((keeps sprite.name).map Sprite.mk).seq (keeps sprite.position)).seq
      (keeps sprite.heading)).seq (keeps sprite.rotationStyle)).seq (keeps sprite.costume)).seq
      (keeps sprite.visible)).seq (keeps sprite.field)

/-! ## Values as texts -/

theorem returns_iff (x : Float) : Returns x ↔ (decode? (encode x) : Option Float) = some x := by
  rw [Returns, read?_print (proper x)]

/-- A value survives its text. If all its floats are finite and come back, it is read as it was, and
what is read has the same text; if one of them is not finite, nothing is read. -/
def Survives {β : Type} [JsonCodec β] [HasFloats β] (value : β) : Prop :=
  ((∀ x ∈ floats value, x.isFinite → Returns x) → (∀ x ∈ floats value, x.isFinite) →
    read? (print value) = some value ∧
      ∀ other : β, read? (print value) = some other → print other = print value) ∧
  ((∃ x ∈ floats value, ¬ x.isFinite) → (read? (print value) : Option β) = none)

theorem survives {β : Type} [JsonCodec β] [HasFloats β] [Faithful β] (value : β) :
    Survives value := by
  obtain ⟨hsome, hnone⟩ := keeps_read? value
  refine ⟨fun hreturns hfinite => ?_, hnone⟩
  have hread := hsome fun x hx => hreturns x hx (hfinite x hx)
  refine ⟨hread, fun other hother => ?_⟩
  rw [hread] at hother
  rw [Option.some.inj hother]

end JsonCodec

end StageMotion
