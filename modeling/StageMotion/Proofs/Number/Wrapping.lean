import Mathlib.Algebra.Order.ToIntervalMod
import StageMotion.Geometry
import StageMotion.Scalar.Real

/-!
# Wrapping into a range

Both ends of a range count as places of it, so a turn is longer by one than the range. On exact
numbers `wrap` thus fills the range and what is beyond its high end by less than one. As that is one
turn, it holds exactly one of the numbers that are whole turns apart (`wrap_eq_iff`), and from this
alone come all laws of wrapping. On whole numbers nothing is strictly between the high end and the
number after it, and wrapping is division with remainder (`wrap_intCast`).
-/

namespace StageMotion

theorem add_emod_mem {first last : ℤ} (h : first ≤ last) (n : ℤ) :
    first + (n - first) % (last - first + 1) ∈ Set.Icc first last := by
  have hturn : 0 < last - first + 1 := by omega
  have hnonneg := Int.emod_nonneg (n - first) hturn.ne'
  have hlt := Int.emod_lt_of_pos (n - first) hturn
  exact ⟨by omega, by omega⟩

section

variable [Elementary] {lo hi : ℝ}

theorem wrap_eq_toIcoMod (h : 0 < hi - lo + 1) (n : ℝ) : wrap n lo hi = toIcoMod h lo n := by
  have hone : (1.0 : ℝ) = 1 := by norm_num
  rw [toIcoMod, toIcoDiv_eq_floor, zsmul_eq_mul, ← hone]
  rfl

/-- Where a number is wrapped to is the one place of the range that is whole turns away from it. -/
theorem wrap_eq_iff (h : 0 < hi - lo + 1) {n r : ℝ} : wrap n lo hi = r ↔
    r ∈ Set.Ico lo (hi + 1) ∧ ∃ turns : ℤ, n = r + turns * (hi - lo + 1) := by
  have hend : lo + (hi - lo + 1) = hi + 1 := by ring
  rw [wrap_eq_toIcoMod h, toIcoMod_eq_iff, hend]
  simp only [zsmul_eq_mul]

theorem wrap_mem (h : 0 < hi - lo + 1) (n : ℝ) : wrap n lo hi ∈ Set.Ico lo (hi + 1) :=
  ((wrap_eq_iff h).mp rfl).1

theorem wrap_of_mem (h : 0 < hi - lo + 1) {n : ℝ} (hn : n ∈ Set.Ico lo (hi + 1)) :
    wrap n lo hi = n :=
  (wrap_eq_iff h).mpr ⟨hn, 0, by simp⟩

theorem exists_wrap_eq_add (h : 0 < hi - lo + 1) (n : ℝ) :
    ∃ turns : ℤ, wrap n lo hi = n + turns * (hi - lo + 1) := by
  obtain ⟨-, turns, hn⟩ := (wrap_eq_iff h).mp (rfl : wrap n lo hi = _)
  refine ⟨-turns, ?_⟩
  push_cast
  linarith

theorem wrap_eq_wrap_iff (h : 0 < hi - lo + 1) {m n : ℝ} :
    wrap m lo hi = wrap n lo hi ↔ ∃ turns : ℤ, m = n + turns * (hi - lo + 1) := by
  obtain ⟨hmem, turns, hn⟩ := (wrap_eq_iff h).mp (rfl : wrap n lo hi = _)
  rw [wrap_eq_iff h]
  constructor
  · rintro ⟨-, more, hm⟩
    refine ⟨more - turns, ?_⟩
    push_cast
    linarith
  · rintro ⟨more, hm⟩
    refine ⟨hmem, more + turns, ?_⟩
    push_cast
    linarith

/-- On whole numbers, wrapping takes the remainder, counted from the low end of the range. -/
theorem wrap_intCast {first last : ℤ} (h : first ≤ last) (n : ℤ) :
    wrap (n : ℝ) first last = ((first + (n - first) % (last - first + 1) : ℤ) : ℝ) := by
  obtain ⟨hfirst, hlast⟩ := add_emod_mem h n
  have hdiv := Int.emod_add_mul_ediv (n - first) (last - first + 1)
  refine (wrap_eq_iff (by exact_mod_cast (by omega : 0 < last - first + 1))).mpr
    ⟨⟨by exact_mod_cast hfirst, by exact_mod_cast Int.lt_add_one_iff.mpr hlast⟩,
      (n - first) / (last - first + 1), ?_⟩
  have hsum : n = first + (n - first) % (last - first + 1) +
      (n - first) / (last - first + 1) * (last - first + 1) := by linarith
  exact_mod_cast hsum

/-- **Wrapping picks the one number of its kind**: where a number is wrapped to is whole turns away
from it and in the range, which for this ends one beyond its high end. A number that is in the range
stays, nothing else in the range is whole turns away, and wrapping once more changes nothing. Two
numbers are wrapped to the same place exactly if they are whole turns apart. And on whole numbers
the place is a whole number that is not beyond the high end itself. -/
theorem wrap_picks_representative (h : lo ≤ hi) :
    (∀ n : ℝ, (∃ turns : ℤ, wrap n lo hi = n + turns * (hi - lo + 1)) ∧
      wrap n lo hi ∈ Set.Ico lo (hi + 1) ∧ (n ∈ Set.Ico lo (hi + 1) → wrap n lo hi = n) ∧
      (∀ r ∈ Set.Ico lo (hi + 1), (∃ turns : ℤ, r = n + turns * (hi - lo + 1)) →
        r = wrap n lo hi) ∧
      wrap (wrap n lo hi) lo hi = wrap n lo hi) ∧
    (∀ m n : ℝ, wrap m lo hi = wrap n lo hi ↔ ∃ turns : ℤ, m = n + turns * (hi - lo + 1)) ∧
    ∀ first last n : ℤ, lo = first → hi = last →
      ∃ r ∈ Set.Icc first last, wrap (n : ℝ) lo hi = r := by
  have hturn : 0 < hi - lo + 1 := by linarith
  refine ⟨fun n => ⟨exists_wrap_eq_add hturn n, wrap_mem hturn n, wrap_of_mem hturn, ?_, ?_⟩,
    fun m n => wrap_eq_wrap_iff hturn, ?_⟩
  · intro r hr hturns
    rw [← wrap_of_mem hturn hr]
    exact (wrap_eq_wrap_iff hturn).mpr hturns
  · exact wrap_of_mem hturn (wrap_mem hturn n)
  · rintro first last n rfl rfl
    have hle : first ≤ last := by exact_mod_cast h
    exact ⟨_, add_emod_mem hle n, wrap_intCast hle n⟩

end

/-- In a range from a half below zero to two, a turn is three and a half. So one below zero is
wrapped to a place beyond the high end; ten, on the faces of a die, to the fourth of them. -/
theorem wrap_picks_representative_die :
    (-1 / 2 : ℝ) ≤ 2 ∧ wrap (-1 : ℝ) (-1 / 2) 2 = 5 / 2 ∧
      (1 : ℝ) ≤ 6 ∧ wrap (10 : ℝ) 1 6 = 4 := by
  have hhalves : (-1 / 2 : ℝ) ≤ 2 := by norm_num
  have hfaces : (1 : ℝ) ≤ 6 := by norm_num
  obtain ⟨hrange, -, -⟩ := wrap_picks_representative hhalves
  obtain ⟨hdie, -, -⟩ := wrap_picks_representative hfaces
  obtain ⟨-, -, -, hunique, -⟩ := hrange (-1)
  obtain ⟨-, -, -, hunique', -⟩ := hdie 10
  refine ⟨hhalves, ?_, hfaces, ?_⟩
  · exact (hunique (5 / 2) (by norm_num) ⟨1, by norm_num⟩).symm
  · exact (hunique' 4 (by norm_num) ⟨-1, by norm_num⟩).symm

end StageMotion
