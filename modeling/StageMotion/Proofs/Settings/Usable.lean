import StageMotion.Proofs.Number.Value
import StageMotion.Scalar.Real
import StageMotion.Settings

/-!
# Usable settings

A stage can be run with settings if it has a proper size and a tick rate in range (`Usable`). The
check of settings lets through exactly the usable ones, and says of others what is wrong with them,
the size before the rate (`check_eq_ok_iff`, `check_eq_badStage_iff`, `check_eq_badTickRate_iff`).
The defaults are usable, so whatever is found where a settings file should be, the settings are. The
time between two ticks is safe even for settings that were never checked, because a rate out of
range counts as the default (`tickInterval_eq`).
-/

namespace StageMotion

namespace Settings

variable {α : Type} [Scalar α]

/-! ## The check -/

/-- Both sides of the stage are finite and positive. -/
def HasStage (settings : Settings α) : Prop :=
  (Scalar.isFinite settings.stageWidth ∧ 0.0 < settings.stageWidth) ∧
    (Scalar.isFinite settings.stageHeight ∧ 0.0 < settings.stageHeight)

/-- The tick rate is in range. -/
def HasRate (settings : Settings α) : Prop :=
  1.0 ≤ settings.tickRate ∧ settings.tickRate ≤ 1000.0

/-- A stage can be run with the settings. -/
def Usable (settings : Settings α) : Prop := settings.HasStage ∧ settings.HasRate

theorem hasStage_iff (settings : Settings α) : settings.HasStage ↔
    (isLength settings.stageWidth && isLength settings.stageHeight) = true := by
  simp [HasStage, isLength]

theorem hasRate_iff (settings : Settings α) :
    settings.HasRate ↔ isTickRate settings.tickRate = true := by
  simp only [isTickRate, Bool.and_eq_true, decide_eq_true_eq]
  exact Iff.rfl

theorem check_of_usable {settings : Settings α} (h : settings.Usable) :
    settings.check = .ok settings := by
  rw [Usable, hasStage_iff, hasRate_iff] at h
  simp [check, h.1, h.2]

theorem check_of_not_hasStage {settings : Settings α} (h : ¬ settings.HasStage) :
    settings.check = .error (.badStage settings.stageWidth settings.stageHeight) := by
  rw [hasStage_iff, Bool.not_eq_true] at h
  rw [check, h]
  rfl

theorem check_of_not_hasRate {settings : Settings α} (hstage : settings.HasStage)
    (h : ¬ settings.HasRate) : settings.check = .error (.badTickRate settings.tickRate) := by
  rw [hasStage_iff] at hstage
  rw [hasRate_iff, Bool.not_eq_true] at h
  rw [check, hstage, h]
  rfl

theorem check_eq_ok_iff (settings checked : Settings α) :
    settings.check = .ok checked ↔ settings.Usable ∧ settings = checked := by
  by_cases hstage : settings.HasStage
  · by_cases hrate : settings.HasRate
    · simp [check_of_usable ⟨hstage, hrate⟩, Usable, hstage, hrate]
    · simp [check_of_not_hasRate hstage hrate, Usable, hrate]
  · simp [check_of_not_hasStage hstage, Usable, hstage]

theorem check_eq_badStage_iff (settings : Settings α) :
    settings.check = .error (.badStage settings.stageWidth settings.stageHeight) ↔
      ¬ settings.HasStage := by
  by_cases hstage : settings.HasStage
  · by_cases hrate : settings.HasRate
    · simp [check_of_usable ⟨hstage, hrate⟩, hstage]
    · simp [check_of_not_hasRate hstage hrate, hstage]
  · simp [check_of_not_hasStage hstage, hstage]

theorem check_eq_badTickRate_iff (settings : Settings α) :
    settings.check = .error (.badTickRate settings.tickRate) ↔
      settings.HasStage ∧ ¬ settings.HasRate := by
  by_cases hstage : settings.HasStage
  · by_cases hrate : settings.HasRate
    · simp [check_of_usable ⟨hstage, hrate⟩, hrate]
    · simp [check_of_not_hasRate hstage hrate, hstage, hrate]
  · simp [check_of_not_hasStage hstage, hstage]

theorem check_ne_malformed (settings : Settings α) : settings.check ≠ .error .malformed := by
  by_cases hstage : settings.HasStage
  · by_cases hrate : settings.HasRate
    · simp [check_of_usable ⟨hstage, hrate⟩]
    · simp [check_of_not_hasRate hstage hrate]
  · simp [check_of_not_hasStage hstage]

/-! ## Settings from a file -/

section

variable [JsonCodec α]

theorem usable_of_load {file : FileContent} {settings : Settings α}
    (h : load file = .ok settings) : settings.Usable := by
  cases file with
  | missing | directory => cases h
  | bytes content =>
    simp only [load] at h
    split at h
    · rename_i text htext
      simp only [parse] at h
      split at h
      · obtain ⟨husable, rfl⟩ := (check_eq_ok_iff _ _).mp h
        exact husable
      · cases h
    · cases h

theorem loadOrStandard_of_ok {file : FileContent} {settings : Settings α}
    (h : load file = .ok settings) : loadOrStandard file = settings := by
  rw [loadOrStandard, h]

theorem loadOrStandard_of_error {file : FileContent} {error : SettingsError α}
    (h : load file = .error error) : loadOrStandard file = (standard : Settings α) := by
  rw [loadOrStandard, h]

end

theorem usable_standard : (standard : Settings Float).Usable := by
  rw [Usable, hasStage_iff, hasRate_iff]
  decide

theorem usable_loadOrStandard (file : FileContent) :
    (loadOrStandard file : Settings Float).Usable := by
  cases h : (load file : Except (SettingsError Float) (Settings Float)) with
  | ok settings => rw [loadOrStandard_of_ok h]; exact usable_of_load h
  | error error => rw [loadOrStandard_of_error h]; exact usable_standard

/-! ## The time between two ticks -/

/-- The rate that counts: the default if the rate of the settings is out of range. -/
def soundRate (settings : Settings α) : α :=
  if isTickRate settings.tickRate then settings.tickRate else standardTickRate

theorem tickInterval_eq (settings : Settings α) :
    settings.tickInterval = 1.0 / settings.soundRate := rfl

theorem soundRate_of_hasRate {settings : Settings α} (h : settings.HasRate) :
    settings.soundRate = settings.tickRate := if_pos ((hasRate_iff settings).mp h)

theorem soundRate_between (h : (1.0 : α) ≤ 30.0 ∧ (30.0 : α) ≤ 1000.0) (settings : Settings α) :
    1.0 ≤ settings.soundRate ∧ settings.soundRate ≤ 1000.0 := by
  by_cases hrate : settings.HasRate
  · rw [soundRate_of_hasRate hrate]
    exact hrate
  · rw [soundRate, if_neg fun e => hrate ((hasRate_iff settings).mpr e)]
    exact h

/-- The exact value of the rate that counts is in range. -/
theorem exactValue_soundRate (settings : Settings Float) :
    settings.soundRate.isFinite ∧ 1 ≤ exactValue settings.soundRate ∧
      exactValue settings.soundRate ≤ 1000 := by
  obtain ⟨hmin, hmax⟩ := soundRate_between (by decide) settings
  have hone : exactValue 1.0 = 1 := by
    change Unpacked.value (.finite .positive (2 ^ 52) (-52) (by decide)) = 1
    rw [Unpacked.value_positive]
    norm_num
  have hthousand : exactValue 1000.0 = 1000 := by
    change Unpacked.value (.finite .positive 8796093022208000 (-43) (by decide)) = 1000
    rw [Unpacked.value_positive]
    norm_num
  have hfinite : settings.soundRate.isFinite :=
    isFinite_of_between (x := 1.0) (z := 1000.0) (by decide) (by decide) hmin hmax
  rw [← hone, ← hthousand, ← le_iff_exactValue_le (by decide) hfinite,
    ← le_iff_exactValue_le hfinite (by decide)]
  exact ⟨hfinite, hmin, hmax⟩

theorem tickInterval_between [Elementary] (settings : Settings ℝ) :
    1 / 1000 ≤ settings.tickInterval ∧ settings.tickInterval ≤ 1 := by
  obtain ⟨hmin, hmax⟩ := soundRate_between (by norm_num) settings
  have hone : (1.0 : ℝ) = 1 := by norm_num
  have hthousand : (1000.0 : ℝ) = 1000 := by norm_num
  rw [hone] at hmin
  rw [hthousand] at hmax
  have hpos : 0 < settings.soundRate := lt_of_lt_of_le one_pos hmin
  rw [tickInterval_eq, hone]
  exact ⟨one_div_le_one_div_of_le hpos hmax, (div_le_one hpos).mpr hmin⟩

end Settings

/-- **Settings are always usable**: whatever is found where a settings file should be, the settings
are those of the file if it has any and the defaults if not, and they have a proper size, a tick
rate in range, and its inverse as the time between two ticks. For settings that were never checked,
with any rate at all, infinite or no number, the time between two ticks is the inverse of a rate
whose exact value is in range, so that in exact arithmetic the time lies between a thousandth of a
second and a second. -/
theorem settings_always_usable [Elementary] :
    (∀ file : FileContent,
      let settings : Settings Float := Settings.loadOrStandard file
      settings = (Settings.load file).toOption.getD Settings.standard ∧
      (settings.stageWidth.isFinite ∧ 0.0 < settings.stageWidth) ∧
      (settings.stageHeight.isFinite ∧ 0.0 < settings.stageHeight) ∧
      (1.0 ≤ settings.tickRate ∧ settings.tickRate ≤ 1000.0) ∧
      settings.tickInterval = 1.0 / settings.tickRate) ∧
    (∀ settings : Settings Float, ∃ rate : Float, settings.tickInterval = 1.0 / rate ∧
      rate.isFinite ∧ 1 / 1000 ≤ 1 / exactValue rate ∧ 1 / exactValue rate ≤ 1) ∧
    ∀ settings : Settings ℝ, 1 / 1000 ≤ settings.tickInterval ∧ settings.tickInterval ≤ 1 := by
  refine ⟨fun file => ?_, fun settings => ?_, Settings.tickInterval_between⟩
  · intro settings
    obtain ⟨⟨hwidth, hheight⟩, hrate⟩ := Settings.usable_loadOrStandard file
    refine ⟨?_, hwidth, hheight, hrate, ?_⟩
    · cases h : (Settings.load file : Except (SettingsError Float) (Settings Float)) with
      | ok found => exact Settings.loadOrStandard_of_ok h
      | error error => exact Settings.loadOrStandard_of_error h
    · rw [Settings.tickInterval_eq, Settings.soundRate_of_hasRate hrate]
  · obtain ⟨hfinite, hmin, hmax⟩ := settings.exactValue_soundRate
    have hpos : 0 < exactValue settings.soundRate := lt_of_lt_of_le one_pos hmin
    exact ⟨settings.soundRate, settings.tickInterval_eq, hfinite,
      one_div_le_one_div_of_le hpos hmax, (div_le_one hpos).mpr hmin⟩

/-- The first file has settings, and they are used. The second has a rate that is out of range, and
so has none. -/
example :
    let load (text : String) : Settings Float := Settings.loadOrStandard (.bytes text.toUTF8)
    let quick := load "\x7b\"stage_width\": 640, \"tick_hz\": 60\x7d"
    quick = ⟨640.0, 360.0, none, 60.0⟩ ∧ quick.tickInterval = 1.0 / 60.0 ∧
      load "\x7b\"stage_width\": 640, \"tick_hz\": 6000\x7d" = .standard := by
  decide +kernel

end StageMotion
