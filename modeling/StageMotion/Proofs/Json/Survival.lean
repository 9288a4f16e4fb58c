import StageMotion.Proofs.Glide.Interchange
import StageMotion.Proofs.Json.RoundTrip
import StageMotion.Proofs.Settings.Usable

/-!
# What is saved can be restored

Every kind of value that programs save survives its text (`values_survive_text`). Settings that can
be used are the settings of their own text (`Settings.parse_print`), and a gesture that is saved and
restored is in its store as it was (`Slots.put_take_read?`), so a program goes on as if nothing had
happened.
-/

namespace StageMotion

open HasFloats JsonCodec

theorem Settings.isFinite_of_usable {settings : Settings Float} (h : settings.Usable) :
    ∀ x ∈ floats settings, x.isFinite := by
  obtain ⟨⟨⟨hwidth, -⟩, hheight, -⟩, hmin, hmax⟩ := h
  have hrate : settings.tickRate.isFinite :=
    isFinite_of_between (x := 1.0) (z := 1000.0) (by decide) (by decide) hmin hmax
  have hseed : floats settings.seed = [] := by cases settings.seed <;> rfl
  change ∀ x ∈ [settings.stageWidth] ++ [settings.stageHeight] ++ floats settings.seed ++
    [settings.tickRate], x.isFinite
  simpa [hseed, hrate] using ⟨hwidth, hheight⟩

theorem Settings.parse_print {settings : Settings Float} (h : settings.Usable)
    (hfloats : ∀ x ∈ floats settings, Returns x) :
    Settings.parse (print settings) = .ok settings := by
  rw [parse, (keeps_read? settings).1 hfloats]
  exact check_of_usable h

/-- A gesture that is taken out of the store, written, read and put back is there as it was. -/
theorem Slots.put_take_read? (slots : Slots Float) (site : CallSite) {glide : Glide Float}
    (h : slots.get? site = some glide) (hfloats : ∀ x ∈ floats glide, Returns x) :
    (slots.take site).2.put site (read? (print glide)) = slots := by
  refine Slots.ext_get? fun other => ?_
  rw [(keeps_read? glide).1 hfloats, get?_put]
  by_cases hother : site = other
  · rw [if_pos hother, ← hother, h]
  · rw [if_neg hother, take, get?_put, if_neg hother]

/-- **Saved values come back**: values of all kinds survive their texts, if reading a float is the
inverse of writing it for the finite floats they hold. Usable settings are then the settings of
their text. And a gesture that is taken out of its store, written, read and put back leaves the
store as it was, so that all later incidents of a program, ticks of this and of other gestures among
them, go as they would have gone. -/
theorem values_survive_text :
    ((∀ value : Settings Float, Survives value) ∧ (∀ value : Bounds Float, Survives value) ∧
      (∀ value : Playfield Float, Survives value) ∧ (∀ value : RotationStyle, Survives value) ∧
      (∀ value : CallSite, Survives value) ∧ (∀ value : Stopwatch Float, Survives value) ∧
      (∀ value : Glide Float, Survives value) ∧ ∀ value : Sprite Float, Survives value) ∧
    (∀ settings : Settings Float, (∀ x ∈ floats settings, x.isFinite → Returns x) →
      settings.check = .ok settings → Settings.parse (print settings) = .ok settings) ∧
    ∀ {γ ι : Type} [Draws γ Float] [DecidableEq ι] {τ : ι → Type} [∀ i, Movable (τ i) Float]
      (crew : Crew γ τ Float) (site : CallSite) (glide : Glide Float),
      (crew.slots.take site).1 = some glide → (∀ x ∈ floats glide, x.isFinite → Returns x) →
      (∀ x ∈ floats glide, x.isFinite) →
      let restored := (crew.slots.take site).2.put site (read? (print glide))
      restored = crew.slots ∧ ∀ (drives : Nat → Drive) (incidents : List (Incident γ τ Float)),
        { crew with slots := restored }.watch drives incidents = crew.watch drives incidents := by
  refine ⟨⟨survives, survives, survives, survives, survives, survives, survives, survives⟩,
    fun settings hreturns hcheck => ?settings, ?gesture⟩
  case settings =>
    obtain ⟨husable, -⟩ := (Settings.check_eq_ok_iff settings settings).mp hcheck
    exact Settings.parse_print husable fun x hx =>
      hreturns x hx (Settings.isFinite_of_usable husable x hx)
  case gesture =>
    intro γ ι _ _ τ _ crew site glide hslot hreturns hfinite restored
    have hrestored : restored = crew.slots :=
      crew.slots.put_take_read? site hslot fun x hx => hreturns x hx (hfinite x hx)
    exact ⟨hrestored, fun drives incidents => by rw [hrestored]⟩

/-- A sprite in a costume whose name needs escapes, settings with a seed that no float holds, and a
gesture under way come back; a stopwatch that was never started does not. -/
theorem values_survive_text_examples :
    let sprite : Sprite Float :=
      { name := "Zo\u00eb \"\\\" \x07\n", position := ⟨0.1, -0.0⟩, heading := 90.0
        rotationStyle := .leftRight, costume := some ⟨32.5, 1.0e-7⟩, visible := false
        field := ⟨480.0, 360.0⟩ }
    let settings : Settings Float := ⟨480.0, 360.0, some 18446744073709551615, 60.0⟩
    let glide : Glide Float := ⟨⟨1000.0⟩, 2500.0, ⟨-10.5, 3.0⟩, ⟨200.0, -150.0⟩⟩
    let site : CallSite := ⟨7⟩
    let slots : Slots Float := Slots.empty.put site (some glide)
    read? (print sprite) = some sprite ∧ Settings.parse (print settings) = .ok settings ∧
      (slots.take site).2.put site (read? (print glide)) = slots ∧
      (read? (print (⟨0.0 / 0.0⟩ : Stopwatch Float)) : Option (Stopwatch Float)) = none := by
  intro sprite settings glide site slots
  obtain ⟨⟨-, -, -, -, -, hwatch, -, hsprite⟩, hsettings, hslots⟩ := values_survive_text
  have hdecode : ∀ x ∈ floats sprite ++ floats settings ++ floats glide,
      x.isFinite ∧ (decode? (encode x) : Option Float) = some x := by decide +kernel
  have hreturns : ∀ x ∈ floats sprite ++ floats settings ++ floats glide, Returns x :=
    fun x hx => (returns_iff x).mpr (hdecode x hx).2
  simp only [List.forall_mem_append] at hdecode hreturns
  obtain ⟨⟨hsprite', hsettings'⟩, hglide'⟩ := hreturns
  refine ⟨?sprite, ?settings, ?slots, ?watch⟩
  case sprite =>
    exact ((hsprite sprite).1 (fun x hx _ => hsprite' x hx) fun x hx => (hdecode.1.1 x hx).1).1
  case settings =>
    exact hsettings settings (fun x hx _ => hsettings' x hx) (by decide +kernel)
  case slots =>
    let crew : Crew (Nat → Float) (fun _ : Unit => Sprite Float) Float :=
      ⟨⟨.standard, fun _ => 0.0⟩, slots, fun _ => sprite⟩
    have hslot : (slots.take site).1 = some glide := by
      rw [Slots.take, Slots.get?_put, if_pos rfl]
    exact (hslots crew site glide hslot (fun x hx _ => hglide' x hx) fun x hx =>
      (hdecode.2 x hx).1).1
  case watch => exact (hwatch ⟨0.0 / 0.0⟩).2 ⟨_, List.mem_singleton_self _, by decide⟩

end StageMotion
