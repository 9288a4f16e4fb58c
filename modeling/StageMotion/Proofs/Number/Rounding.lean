import Mathlib.Algebra.Order.Archimedean.Real.Basic
import StageMotion.Scalar.Real

/-!
# Rounding and snapping to whole numbers

Rounding with a half going away from zero is a matter of the absolute value: that of the result is
the absolute value of the number, rounded with a half going up (`Scalar.abs_round`). So a number is
within a bound after it is rounded exactly if its distance from zero is less than the whole part of
the bound and a half (`Scalar.abs_round_le_iff`), and rounding takes it past no bound by more than a
half (`Scalar.abs_round_le`).

A number that is close to a whole one is reported as that one. As no number is close to two of them,
a number is close to one and snapped to it, or close to none and left as it is (`snap_cases`). The
numbers close to a whole one are those of an interval around it, and they all become its middle. So
snapping jumps at both ends of the interval, but it never takes a number past one outside
(`snap_le_of_apart`), and the order of numbers stays (`snap_le_snap`).
-/

namespace StageMotion

theorem abs_neg_sub_intCast (x : ℝ) (n : ℤ) : |-x - n| = |x - (-n : ℤ)| := by
  rw [← abs_neg]
  push_cast
  ring_nf

variable [Elementary]

/-! ## Rounding -/

namespace Scalar

theorem round_of_nonneg {x : ℝ} (h : 0 ≤ x) : round x = ⌊x + 1 / 2⌋ :=
  if_pos h

theorem round_of_neg {x : ℝ} (h : x < 0) : round x = ⌈x - 1 / 2⌉ :=
  if_neg (not_le.mpr h)

theorem exists_round_eq (x : ℝ) : ∃ n : ℤ, round x = n := by
  rcases le_or_gt 0 x with h | h
  · exact ⟨_, round_of_nonneg h⟩
  · exact ⟨_, round_of_neg h⟩

/-- Where a whole number is closer than a half, it is the nearest. -/
theorem round_eq_of_abs_sub_lt {x : ℝ} {n : ℤ} (h : |x - n| < 1 / 2) : round x = n := by
  obtain ⟨hlow, hhigh⟩ := abs_lt.mp h
  rcases le_or_gt 0 x with hx | hx
  · have hfloor : ⌊x + 1 / 2⌋ = n := Int.floor_eq_iff.mpr ⟨by linarith, by linarith⟩
    rw [round_of_nonneg hx, hfloor]
  · have hceil : ⌈x - 1 / 2⌉ = n := Int.ceil_eq_iff.mpr ⟨by linarith, by linarith⟩
    rw [round_of_neg hx, hceil]

theorem round_neg_of_pos {x : ℝ} (h : 0 < x) : round (-x) = -round x := by
  have hceil : -x - 1 / 2 = -(x + 1 / 2) := by ring
  rw [round_of_neg (neg_neg_of_pos h), round_of_nonneg h.le, hceil, Int.ceil_neg, Int.cast_neg]

theorem round_nonneg {x : ℝ} (h : 0 ≤ x) : 0 ≤ round x := by
  rw [round_of_nonneg h]
  exact_mod_cast Int.floor_nonneg.mpr (by linarith)

theorem abs_round (x : ℝ) : |round x| = ⌊|x| + 1 / 2⌋ := by
  rcases le_or_gt 0 x with h | h
  · rw [abs_of_nonneg (round_nonneg h), abs_of_nonneg h, round_of_nonneg h]
  · have hpos : 0 < -x := neg_pos.mpr h
    rw [← neg_neg x, round_neg_of_pos hpos, abs_neg, abs_neg, abs_of_nonneg (round_nonneg hpos.le),
      abs_of_pos hpos, round_of_nonneg hpos.le]

theorem abs_round_le (x : ℝ) : |round x| ≤ |x| + 1 / 2 :=
  (abs_round x).trans_le (Int.floor_le _)

theorem abs_round_le_iff {x bound : ℝ} : |round x| ≤ bound ↔ |x| < ⌊bound⌋ + 1 / 2 := by
  rw [abs_round, ← Int.le_floor, ← Int.lt_add_one_iff, Int.floor_lt]
  push_cast
  constructor <;> intro h <;> linarith

end Scalar

/-! ## Snapping -/

theorem snap_of_near {x : ℝ} {n : ℤ} (h : |x - n| < 1e-9) : snap x = n := by
  have hround : Scalar.round x = n := Scalar.round_eq_of_abs_sub_lt (h.trans (by norm_num))
  change (if |x - Scalar.round x| < 1e-9 then Scalar.round x else x) = n
  rw [hround, if_pos h]

theorem snap_of_apart {x : ℝ} (h : ∀ n : ℤ, 1e-9 ≤ |x - n|) : snap x = x := by
  obtain ⟨n, hround⟩ := Scalar.exists_round_eq x
  change (if |x - Scalar.round x| < 1e-9 then Scalar.round x else x) = x
  rw [hround, if_neg (not_lt.mpr (h n))]

/-- All that snapping does. -/
theorem snap_cases (x : ℝ) :
    (∃ n : ℤ, |x - n| < 1e-9 ∧ snap x = n) ∨ (∀ n : ℤ, 1e-9 ≤ |x - n|) ∧ snap x = x := by
  by_cases hnear : ∃ n : ℤ, |x - n| < 1e-9
  · obtain ⟨n, h⟩ := hnear
    exact .inl ⟨n, h, snap_of_near h⟩
  · have happart : ∀ n : ℤ, 1e-9 ≤ |x - n| := fun n => not_lt.mp fun h => hnear ⟨n, h⟩
    exact .inr ⟨happart, snap_of_apart happart⟩

theorem snap_intCast (n : ℤ) : snap (n : ℝ) = n :=
  snap_of_near (by norm_num)

theorem snap_snap (x : ℝ) : snap (snap x) = snap x := by
  obtain ⟨n, -, hsnap⟩ | ⟨-, hsnap⟩ := snap_cases x
  · rw [hsnap, snap_intCast]
  · rw [hsnap, hsnap]

theorem abs_snap_sub_lt (x : ℝ) : |snap x - x| < 1e-9 := by
  obtain ⟨n, hnear, hsnap⟩ | ⟨-, hsnap⟩ := snap_cases x
  · rwa [hsnap, abs_sub_comm]
  · rw [hsnap, sub_self, abs_zero]
    norm_num

theorem exists_snap_eq_intCast_iff {x : ℝ} :
    (∃ n : ℤ, snap x = n) ↔ ∃ n : ℤ, |x - n| < 1e-9 := by
  constructor
  · rintro ⟨n, hn⟩
    refine ⟨n, ?_⟩
    rw [← hn, abs_sub_comm]
    exact abs_snap_sub_lt x
  · rintro ⟨n, hnear⟩
    exact ⟨n, snap_of_near hnear⟩

theorem snap_neg (x : ℝ) : snap (-x) = -snap x := by
  obtain ⟨n, hnear, hsnap⟩ | ⟨happart, hsnap⟩ := snap_cases x
  · have hmirror : |-x - (-n : ℤ)| < 1e-9 := by rwa [abs_neg_sub_intCast, neg_neg]
    rw [snap_of_near hmirror, hsnap, Int.cast_neg]
  · have hmirror (n : ℤ) : 1e-9 ≤ |-x - n| := by
      rw [abs_neg_sub_intCast]
      exact happart (-n)
    rw [snap_of_apart hmirror, hsnap]

/-- Snapping takes no number past one that is left as it is. -/
theorem snap_le_of_apart {a b : ℝ} (h : a ≤ b) (happart : ∀ n : ℤ, 1e-9 ≤ |b - n|) :
    snap a ≤ b := by
  obtain ⟨n, hnear, hsnap⟩ | ⟨-, hsnap⟩ := snap_cases a
  · rw [hsnap]
    by_contra hpast
    -- a number between another and a whole one is as close to the whole one
    have hlow := (abs_lt.mp hnear).1
    have hnear' : |b - n| < 1e-9 := abs_lt.mpr ⟨by linarith, by linarith⟩
    exact (happart n).not_gt hnear'
  · rwa [hsnap]

theorem snap_le_snap {a b : ℝ} (h : a ≤ b) : snap a ≤ snap b := by
  obtain ⟨n, hb, hn⟩ | ⟨hb, hn⟩ := snap_cases b
  · obtain ⟨m, ha, hm⟩ | ⟨ha, hm⟩ := snap_cases a
    · have hlt : (m : ℝ) < n + 1 := by linarith [(abs_lt.mp ha).1, (abs_lt.mp hb).2]
      have hle : m ≤ n := Int.lt_add_one_iff.mp (by exact_mod_cast hlt)
      rw [hm, hn]
      exact_mod_cast hle
    · have hmirror (k : ℤ) : 1e-9 ≤ |-a - k| := by
        rw [abs_neg_sub_intCast]
        exact ha (-k)
      have hle := snap_le_of_apart (neg_le_neg h) hmirror
      rw [snap_neg] at hle
      rw [hm]
      exact neg_le_neg_iff.mp hle
  · rw [hn]
    exact snap_le_of_apart h hb

end StageMotion
