import StageMotion.Proofs.Json.RoundTrip
import StageMotion.Proofs.Settings.Usable

/-!
# Settings of a document

A document is a JSON object, and its settings lie over the defaults: a member whose key is that of a
setting overrides it, and all others are skipped (`Settings.Overlays`). There are no settings if a
member that is not skipped has a value of the wrong kind (`Settings.HasMistyped`), or if some key,
be it that of a member that would be skipped, is no text (`Settings.HasBrokenKey`). Where members
stand, and which others there are, makes no difference (`parse_document`).
-/

namespace StageMotion

namespace Settings

/-! ## Members -/

/-- The keys of the settings. -/
def keys : List String := ["stage_width", "stage_height", "rng_seed", "tick_hz"]

/-- A number that is no infinity once it is rounded. -/
def IsFloat (v : Json) (x : Float) : Prop := ∃ n, v = .number n ∧ n.toFloat? = some x

/-- A seed is a whole number of 64 bits, written without sign, point and exponent, and null says
that there is none. -/
inductive IsSeed : Json → Option UInt64 → Prop
  | absent : IsSeed .null none
  | present {n : Numeral} {seed : UInt64} (hsign : n.negative = false) (hpoint : n.fraction = [])
    (hexponent : n.exponent = none) (hwhole : digitsFrom 0 n.whole = seed.toNat) :
    IsSeed (.number n) (some seed)

section

variable {β : Type} (members : List (Option String × Json)) (key : String) (Means : Json → β → Prop)

/-- A setting has the value of its member, or its default if there is no such member. -/
def Sets (default value : β) : Prop :=
  (∃ v, (some key, v) ∈ members ∧ Means v value) ∨
    (∀ v, (some key, v) ∉ members) ∧ value = default

/-- A setting has a member that stands for no value. -/
def Mistyped : Prop := ∃ v, (some key, v) ∈ members ∧ ∀ value, ¬ Means v value

end

/-- Settings are the defaults, overridden by the members of an object. -/
@[mk_iff]
structure Overlays (members : List (Option String × Json)) (settings : Settings Float) : Prop where
  stageWidth : Sets members "stage_width" IsFloat standard.stageWidth settings.stageWidth
  stageHeight : Sets members "stage_height" IsFloat standard.stageHeight settings.stageHeight
  seed : Sets members "rng_seed" IsSeed none settings.seed
  tickRate : Sets members "tick_hz" IsFloat standard.tickRate settings.tickRate

/-- Some setting has a member of the wrong type or range. -/
def HasMistyped (members : List (Option String × Json)) : Prop :=
  Mistyped members "stage_width" IsFloat ∨ Mistyped members "stage_height" IsFloat ∨
    Mistyped members "rng_seed" IsSeed ∨ Mistyped members "tick_hz" IsFloat

/-- Some key holds half of a surrogate pair, so it is no text. -/
def HasBrokenKey (members : List (Option String × Json)) : Prop := ∃ v, (none, v) ∈ members

/-! ## One setting -/

theorem decode?_eq_some_iff_isFloat (v : Json) (x : Float) :
    JsonCodec.decode? v = some x ↔ IsFloat v x := by
  cases v <;> simp [JsonCodec.decode?, IsFloat]

theorem decode?_eq_some_iff_isSeed (v : Json) (seed : Option UInt64) :
    JsonCodec.decode? v = some seed ↔ IsSeed v seed := by
  constructor
  · intro h
    cases v with
    | null =>
      cases h
      exact .absent
    | number n =>
      obtain ⟨value, hvalue, rfl⟩ := Option.map_eq_some_iff.mp h
      obtain ⟨hsign, hpoint, hexponent, hwhole⟩ := (n.toUInt64?_eq_some_iff value).mp hvalue
      exact .present hsign hpoint hexponent hwhole
    | bool | string | array | object => cases h
  · rintro (_ | ⟨hsign, hpoint, hexponent, hwhole⟩)
    · rfl
    · have hnumber := (Numeral.toUInt64?_eq_some_iff _ _).mpr ⟨hsign, hpoint, hexponent, hwhole⟩
      exact congrArg (Option.map some) hnumber

section

variable {β : Type} [JsonCodec β] {members : List (Option String × Json)} {Means : Json → β → Prop}

/-- The member of a setting is found, and is read as what the setting is. -/
theorem exists_decodeOr? (key : String) (default : β)
    (hmeans : ∀ v value, JsonCodec.decode? v = some value ↔ Means v value)
    (hkey : (members.map Prod.fst).count (some key) ≤ 1) :
    ∃ found, Json.member? members key = some found ∧
      (∀ value, JsonCodec.decodeOr? default found = some value ↔
        Sets members key Means default value) ∧
      (JsonCodec.decodeOr? default found = none ↔ Mistyped members key Means) := by
  obtain ⟨found, hfound, hmem⟩ := Json.exists_member? hkey
  refine ⟨found, hfound, ?_⟩
  simp only [Sets, Mistyped, hmem, ← hmeans]
  cases found with
  | none => simp [JsonCodec.decodeOr?, eq_comm]
  | some v =>
    simp [JsonCodec.decodeOr?, Option.eq_none_iff_forall_ne_some]

end

/-! ## All settings -/

variable {members : List (Option String × Json)}

/-- An object is read setting by setting, if all its keys are texts. -/
theorem decode?_object_eq (hbroken : ¬ HasBrokenKey members) {width height seed rate : Option Json}
    (hwidth : Json.member? members "stage_width" = some width)
    (hheight : Json.member? members "stage_height" = some height)
    (hseed : Json.member? members "rng_seed" = some seed)
    (hrate : Json.member? members "tick_hz" = some rate) :
    (JsonCodec.decode? (.object members) : Option (Settings Float)) = (do
      some ⟨← JsonCodec.decodeOr? standard.stageWidth width,
        ← JsonCodec.decodeOr? standard.stageHeight height, ← JsonCodec.decodeOr? none seed,
        ← JsonCodec.decodeOr? standard.tickRate rate⟩) := by
  have hall : members.all (fun member => member.1.isSome) = true := by
    rw [List.all_eq_true]
    rintro ⟨_ | key, v⟩ hmem
    · exact absurd ⟨v, hmem⟩ hbroken
    · rfl
  have hfields : (Json.object members).fields? keys 0 = some [width, height, seed, rate] := by
    simp [Json.fields?, hall, keys, hwidth, hheight, hseed, hrate]
  rw [keys] at hfields
  simp only [JsonCodec.decode?, hfields]
  rfl

/-- An object is read as the settings that it puts over the defaults. -/
theorem decode?_object (hkeys : ∀ key ∈ keys, (members.map Prod.fst).count (some key) ≤ 1)
    (hbroken : ¬ HasBrokenKey members) :
    (∀ settings : Settings Float, JsonCodec.decode? (.object members) = some settings ↔
      Overlays members settings) ∧
    ((JsonCodec.decode? (.object members) : Option (Settings Float)) = none ↔
      HasMistyped members) := by
  obtain ⟨width, hwidth, hwidthSome, hwidthNone⟩ := exists_decodeOr? "stage_width"
    standard.stageWidth decode?_eq_some_iff_isFloat (hkeys _ (by simp [keys]))
  obtain ⟨height, hheight, hheightSome, hheightNone⟩ := exists_decodeOr? "stage_height"
    standard.stageHeight decode?_eq_some_iff_isFloat (hkeys _ (by simp [keys]))
  obtain ⟨seed, hseed, hseedSome, hseedNone⟩ := exists_decodeOr? "rng_seed" none
    decode?_eq_some_iff_isSeed (hkeys _ (by simp [keys]))
  obtain ⟨rate, hrate, hrateSome, hrateNone⟩ := exists_decodeOr? "tick_hz" standard.tickRate
    decode?_eq_some_iff_isFloat (hkeys _ (by simp [keys]))
  rw [decode?_object_eq hbroken hwidth hheight hseed hrate]
  constructor
  · intro settings
    simp only [Option.bind_eq_bind, Option.bind_eq_some_iff, hwidthSome, hheightSome, hseedSome,
      hrateSome]
    constructor
    · rintro ⟨w, hw, h, hh, s, hs, r, hr, ⟨⟩⟩
      exact ⟨hw, hh, hs, hr⟩
    · rintro ⟨hw, hh, hs, hr⟩
      exact ⟨_, hw, _, hh, _, hs, _, hr, rfl⟩
  · rw [HasMistyped, ← hwidthNone, ← hheightNone, ← hseedNone, ← hrateNone]
    rcases (JsonCodec.decodeOr? (standard : Settings Float).stageWidth width) with _ | w
    · simp
    rcases (JsonCodec.decodeOr? (standard : Settings Float).stageHeight height) with _ | h
    · simp
    rcases (JsonCodec.decodeOr? none seed : Option (Option UInt64)) with _ | s
    · simp
    rcases (JsonCodec.decodeOr? (standard : Settings Float).tickRate rate) with _ | r <;> simp

/-- There are no settings in an object with a key that is no text. -/
theorem decode?_object_of_hasBrokenKey (h : HasBrokenKey members) :
    (JsonCodec.decode? (.object members) : Option (Settings Float)) = none := by
  obtain ⟨v, hmem⟩ := h
  have hall : ¬ members.all (fun member => member.1.isSome) := fun hall => by
    simpa using List.all_eq_true.mp hall _ hmem
  simp [JsonCodec.decode?, Json.fields?, hall]

theorem not_hasMistyped_of_overlays
    (hkeys : ∀ key ∈ keys, (members.map Prod.fst).count (some key) ≤ 1)
    (hbroken : ¬ HasBrokenKey members) {settings : Settings Float} (h : Overlays members settings) :
    ¬ HasMistyped members := by
  obtain ⟨hsome, hnone⟩ := decode?_object hkeys hbroken
  intro hmistyped
  have hdecode := hnone.mpr hmistyped
  rw [(hsome settings).mpr h] at hdecode
  cases hdecode

theorem existsUnique_overlays (hkeys : ∀ key ∈ keys, (members.map Prod.fst).count (some key) ≤ 1)
    (hbroken : ¬ HasBrokenKey members) (hmistyped : ¬ HasMistyped members) :
    ∃! settings, Overlays members settings := by
  obtain ⟨hsome, hnone⟩ := decode?_object hkeys hbroken
  obtain ⟨settings, hdecode⟩ := Option.ne_none_iff_exists'.mp (mt hnone.mp hmistyped)
  refine ⟨settings, (hsome settings).mp hdecode, fun other hother => ?_⟩
  exact (Option.some.inj (hdecode.symm.trans ((hsome other).mpr hother))).symm

/-! ## Documents -/

/-- Settings look at nothing but the members with their keys. -/
theorem overlays_congr {members' : List (Option String × Json)}
    (h : ∀ key ∈ keys, ∀ v, (some key, v) ∈ members' ↔ (some key, v) ∈ members) :
    (∀ settings, Overlays members' settings ↔ Overlays members settings) ∧
      (HasMistyped members' ↔ HasMistyped members) := by
  simp only [keys, List.forall_mem_cons] at h
  obtain ⟨hwidth, hheight, hseed, hrate, -⟩ := h
  constructor
  · intro settings
    simp only [overlays_iff, Sets, hwidth, hheight, hseed, hrate]
  · simp only [HasMistyped, Mistyped, hwidth, hheight, hseed, hrate]

section

variable {text : String} (hdocument : (Json.object members).Written text)

include hdocument

theorem parse_of_decode?_eq_none
    (h : (JsonCodec.decode? (.object members) : Option (Settings Float)) = none) :
    (parse text : Except (SettingsError Float) (Settings Float)) = .error .malformed := by
  rw [parse, JsonCodec.read?, Json.parse?_of_written hdocument, Option.bind_some, h]

variable (hkeys : ∀ key ∈ keys, (members.map Prod.fst).count (some key) ≤ 1)

include hkeys

theorem parse_of_overlays (hbroken : ¬ HasBrokenKey members) {settings : Settings Float}
    (h : Overlays members settings) : parse text = settings.check := by
  have hdecode := ((decode?_object hkeys hbroken).1 settings).mpr h
  rw [parse, JsonCodec.read?, Json.parse?_of_written hdocument, Option.bind_some, hdecode]

theorem parse_eq_malformed_iff :
    (parse text : Except (SettingsError Float) (Settings Float)) = .error .malformed ↔
      HasMistyped members ∨ HasBrokenKey members := by
  by_cases hbroken : HasBrokenKey members
  · simp [hbroken, parse_of_decode?_eq_none hdocument (decode?_object_of_hasBrokenKey hbroken)]
  obtain ⟨hsome, hnone⟩ := decode?_object hkeys hbroken
  cases hdecode : (JsonCodec.decode? (.object members) : Option (Settings Float)) with
  | none => simp [hnone.mp hdecode, parse_of_decode?_eq_none hdocument hdecode]
  | some settings =>
    have hoverlays := (hsome settings).mp hdecode
    simp [not_hasMistyped_of_overlays hkeys hbroken hoverlays, hbroken, check_ne_malformed,
      parse_of_overlays hdocument hkeys hbroken hoverlays]

end

end Settings

open Settings

/-- **A document is an overlay**: an object in which no setting occurs twice, however its text is
spelled, is malformed if and only if some setting has a value of the wrong type or range or some key
is no text. If it is not, the defaults and its members make settings in exactly one way, and those
are what the document gives if they have a stage and a rate; without a stage, and otherwise without
a rate, it gives an error that carries what is wrong. So the order of the members, and whatever
other members there are, matter to nothing but whether all keys are texts. -/
theorem parse_document {members : List (Option String × Json)} {text : String}
    (hdocument : (Json.object members).Written text)
    (hkeys : ∀ key ∈ keys, (members.map Prod.fst).count (some key) ≤ 1) :
    let result : Except (SettingsError Float) (Settings Float) := parse text
    (result = .error .malformed ↔ HasMistyped members ∨ HasBrokenKey members) ∧
    (¬ (HasMistyped members ∨ HasBrokenKey members) → ∃ settings, Overlays members settings ∧
      (∀ other, Overlays members other → other = settings) ∧
      (result = .error (.badStage settings.stageWidth settings.stageHeight) ↔
        ¬ settings.HasStage) ∧
      (result = .error (.badTickRate settings.tickRate) ↔
        settings.HasStage ∧ ¬ settings.HasRate) ∧
      (result = .ok settings ↔ settings.HasStage ∧ settings.HasRate)) ∧
    ∀ (members' : List (Option String × Json)) (text' : String),
      (Json.object members').Written text' →
      (∀ key ∈ keys, (members'.map Prod.fst).count (some key) ≤ 1) →
      (∀ key ∈ keys, ∀ v, (some key, v) ∈ members' ↔ (some key, v) ∈ members) →
      (HasBrokenKey members' ↔ HasBrokenKey members) → parse text' = result := by
  intro result
  have hmalformed := parse_eq_malformed_iff hdocument hkeys
  refine ⟨hmalformed, fun hsound => ?overlay, ?congr⟩
  case overlay =>
    obtain ⟨hmistyped, hbroken⟩ := not_or.mp hsound
    obtain ⟨settings, hoverlays, hunique⟩ := existsUnique_overlays hkeys hbroken hmistyped
    have hresult : result = settings.check := parse_of_overlays hdocument hkeys hbroken hoverlays
    refine ⟨settings, hoverlays, hunique, ?_⟩
    rw [hresult]
    exact ⟨check_eq_badStage_iff settings, check_eq_badTickRate_iff settings,
      by simp [check_eq_ok_iff, Usable]⟩
  case congr =>
    intro members' text' hdocument' hkeys' hsame hbrokenIff
    obtain ⟨hoverlaysIff, hmistypedIff⟩ := overlays_congr hsame
    have hmalformed' := parse_eq_malformed_iff hdocument' hkeys'
    rw [hmistypedIff, hbrokenIff] at hmalformed'
    by_cases hsound : HasMistyped members ∨ HasBrokenKey members
    · exact (hmalformed'.mpr hsound).trans (hmalformed.mpr hsound).symm
    · obtain ⟨hmistyped, hbroken⟩ := not_or.mp hsound
      obtain ⟨settings, hoverlays, -⟩ := existsUnique_overlays hkeys hbroken hmistyped
      have hoverlays' := (hoverlaysIff settings).mpr hoverlays
      exact (parse_of_overlays hdocument' hkeys' (mt hbrokenIff.mp hbroken) hoverlays').trans
        (parse_of_overlays hdocument hkeys hbroken hoverlays).symm

/-- A member that is no setting is skipped, and a seed may have all its 64 bits. -/
theorem parse_document_skipping :
    let members : List (Option String × Json) :=
      [(some "zoom", .string (some "fit")), (some "tick_hz", .number (.ofNat 60)),
        (some "rng_seed", .number (.ofNat 18446744073709551615))]
    (Json.object members).Written (Json.object members).text ∧
      (∀ key ∈ keys, (members.map Prod.fst).count (some key) ≤ 1) ∧
      parse (Json.object members).text =
        .ok (⟨480.0, 360.0, some 18446744073709551615, 60.0⟩ : Settings Float) := by
  intro members
  have hproper : (Json.object members).Proper := by
    refine Json.proper_object ?_
    simp only [members, List.forall_mem_cons]
    exact ⟨Json.proper_string _, Json.proper_number (Numeral.isProper_ofNat _),
      Json.proper_number (Numeral.isProper_ofNat _), by simp⟩
  have hdocument := Json.written_text hproper
  have hkeys : ∀ key ∈ keys, (members.map Prod.fst).count (some key) ≤ 1 := by decide
  have hrate : (Numeral.ofNat 60).toFloat? = some 60.0 := by decide +kernel
  have hseed : IsSeed (.number (.ofNat 18446744073709551615)) (some 18446744073709551615) :=
    .present rfl rfl rfl (digitsFrom_digitsOf 18446744073709551615)
  have hoverlays : Overlays members ⟨480.0, 360.0, some 18446744073709551615, 60.0⟩ :=
    { stageWidth := .inr ⟨by simp [members], rfl⟩
      stageHeight := .inr ⟨by simp [members], rfl⟩
      seed := .inl ⟨_, by simp [members], hseed⟩
      tickRate := .inl ⟨_, by simp [members], _, rfl, hrate⟩ }
  have hbroken : ¬ HasBrokenKey members := by simp [HasBrokenKey, members]
  have hmistyped := not_hasMistyped_of_overlays hkeys hbroken hoverlays
  obtain ⟨settings, -, hunique, -, -, hok⟩ :=
    (parse_document hdocument hkeys).2.1 (not_or.mpr ⟨hmistyped, hbroken⟩)
  obtain rfl := hunique _ hoverlays
  exact ⟨hdocument, hkeys, hok.mpr ⟨by rw [hasStage_iff]; decide, by rw [hasRate_iff]; decide⟩⟩

/-- A key that would be skipped if it were a text is a reason to reject a document. -/
theorem parse_document_brokenKey :
    let members : List (Option String × Json) := [(none, .number (.ofNat 1))]
    (Json.object members).Written "\x7b\"\\ud800\":1\x7d" ∧
      (∀ key ∈ keys, (members.map Prod.fst).count (some key) ≤ 1) ∧
      ¬ ((parse "\x7b\"\\ud800\":1\x7d" : Except (SettingsError Float) (Settings Float)) =
        .error .malformed ↔ HasMistyped members) := by
  intro members
  have hproper : (Json.object members).Proper :=
    Json.proper_object (by simpa [members] using Json.proper_number (Numeral.isProper_ofNat 1))
  have hdocument : (Json.object members).Written "\x7b\"\\ud800\":1\x7d" :=
    Json.written_text hproper
  have hmistyped : ¬ HasMistyped members := by simp [HasMistyped, Mistyped, members]
  refine ⟨hdocument, by decide, fun h => hmistyped (h.mp ?_)⟩
  have hbroken : HasBrokenKey members := ⟨_, List.mem_singleton_self _⟩
  exact parse_of_decode?_eq_none hdocument (decode?_object_of_hasBrokenKey hbroken)

end StageMotion
