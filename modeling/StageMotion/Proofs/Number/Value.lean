import Mathlib

/-!
# The exact value of a floating-point number

A finite floating-point number is a whole number times a power of two, and so has an exact value
(`exactValue`). The order of floating-point numbers looks at the powers first and at the whole
numbers then. This is the order of the values, because the whole number has all its 53 bits unless
the power is the smallest one (`Full`): `compare_eq_of_full`, and from it `le_iff_exactValue_le`.
-/

namespace StageMotion

open Float.Model (UnpackedFloat Format)

namespace Unpacked

/-- The value of an unpacked number. Infinities, and what is no number, have none and count as
zero. -/
def value : UnpackedFloat → ℚ
  | .finite sign mantissa exponent _ => sign.apply mantissa * 2 ^ exponent
  | _ => 0

@[simp] theorem value_zero (s : UnpackedFloat.Sign) : value (.zero s) = 0 := rfl

theorem value_positive (m : ℕ) (e : ℤ) (hm : 0 < m) :
    value (.finite .positive m e hm) = m * 2 ^ e := rfl

theorem value_negative (m : ℕ) (e : ℤ) (hm : 0 < m) :
    value (.finite .negative m e hm) = -(m * 2 ^ e) :=
  neg_mul (m : ℚ) (2 ^ e)

/-! ## Full mantissas -/

/-- Zero, or a mantissa that has all its bits unless the exponent is the smallest. -/
def Full : UnpackedFloat → Prop
  | .finite _ mantissa exponent _ =>
    mantissa < 2 ^ 53 ∧ -1074 ≤ exponent ∧ (2 ^ 52 ≤ mantissa ∨ exponent = -1074)
  | .zero _ => True
  | _ => False

theorem toNat_one_append (m : BitVec 52) : (1#1 ++ m).toNat = 2 ^ 52 + m.toNat := by
  rw [BitVec.toNat_append, ← Nat.shiftLeft_add_eq_or_of_lt m.isLt]
  rfl

theorem full_unpack {x : Float.Model} (h : x.isFinite) : Full x.unpack := by
  let m : BitVec 52 := @UnpackedFloat.unpackMantissa .binary64 x.toBits.toBitVec
  let e : BitVec 11 := @UnpackedFloat.unpackExponent .binary64 x.toBits.toBitVec
  have hm : m.toNat < 2 ^ 52 := m.isLt
  unfold Float.Model.isFinite at h
  unfold Float.Model.unpack UnpackedFloat.unpack at h ⊢
  dsimp only at h ⊢
  split_ifs at h ⊢ with hinf hnan hzero hm0
  · simp [UnpackedFloat.isFinite] at h
  · simp [UnpackedFloat.isFinite] at h
  · trivial
  · have he : e.toNat = 0 := congrArg BitVec.toNat hzero
    change m.toNat < 2 ^ 53 ∧ -1074 ≤ (e.toNat : ℤ) - (1023 + 52) + 1 ∧
      (2 ^ 52 ≤ m.toNat ∨ (e.toNat : ℤ) - (1023 + 52) + 1 = -1074)
    omega
  · have he : e.toNat ≠ 0 := fun he => hzero (BitVec.eq_of_toNat_eq he)
    change (1#1 ++ m).toNat < 2 ^ 53 ∧ -1074 ≤ (e.toNat : ℤ) - (1023 + 52) ∧
      (2 ^ 52 ≤ (1#1 ++ m).toNat ∨ (e.toNat : ℤ) - (1023 + 52) = -1074)
    rw [toNat_one_append]
    omega

/-! ## Order -/

/-- A full mantissa is above every mantissa of a smaller exponent. -/
theorem lt_of_exponent_lt {m n : ℕ} {e f : ℤ} (hm : m < 2 ^ 53) (hn : 2 ^ 52 ≤ n) (h : e < f) :
    (m : ℚ) * 2 ^ e < n * 2 ^ f := by
  have hm' : (m : ℚ) < 2 ^ 53 := by exact_mod_cast hm
  have hn' : (2 : ℚ) ^ 52 ≤ n := by exact_mod_cast hn
  have hef : (2 : ℚ) ^ (e + 1) ≤ 2 ^ f := zpow_le_zpow_right₀ one_le_two h
  calc (m : ℚ) * 2 ^ e < 2 ^ 53 * 2 ^ e := by gcongr
    _ = 2 ^ 52 * 2 ^ (e + 1) := by rw [zpow_add₀ two_ne_zero]; ring
    _ ≤ n * 2 ^ f := by gcongr

theorem compare_magnitude {m n : ℕ} {e f : ℤ} {s t : UnpackedFloat.Sign} (hm : 0 < m) (hn : 0 < n)
    (hx : Full (.finite s m e hm)) (hy : Full (.finite t n f hn)) :
    (compare e f).then (compare m n) = compare ((m : ℚ) * 2 ^ e) (n * 2 ^ f) := by
  obtain ⟨hm53, he, hme⟩ := hx
  obtain ⟨hn53, hf, hnf⟩ := hy
  symm
  rcases lt_trichotomy e f with h | rfl | h
  · rw [compare_lt_iff_lt.mpr h, compare_lt_iff_lt.mpr (lt_of_exponent_lt hm53 (by omega) h)]
    rfl
  · have hpos : (0 : ℚ) < 2 ^ e := by positivity
    have hscaled : compare ((m : ℚ) * 2 ^ e) (n * 2 ^ e) = compare m n := by
      rcases lt_trichotomy m n with h | rfl | h
      · rw [compare_lt_iff_lt.mpr h, compare_lt_iff_lt]
        gcongr
      · simp
      · rw [compare_gt_iff_gt.mpr h, compare_gt_iff_gt]
        gcongr
    rw [hscaled, compare_eq_iff_eq.mpr rfl]
    rfl
  · rw [compare_gt_iff_gt.mpr h, compare_gt_iff_gt.mpr (lt_of_exponent_lt hn53 (by omega) h)]
    rfl

theorem compare_neg_neg (a b : ℚ) : compare (-a) (-b) = (compare a b).swap := by
  rcases lt_trichotomy a b with h | rfl | h
  · rw [compare_lt_iff_lt.mpr h, compare_gt_iff_gt.mpr (neg_lt_neg h)]
    rfl
  · rw [compare_eq_iff_eq.mpr rfl, compare_eq_iff_eq.mpr rfl]
    rfl
  · rw [compare_gt_iff_gt.mpr h, compare_lt_iff_lt.mpr (neg_lt_neg h)]
    rfl

/-- The order of full numbers is that of their values. -/
theorem compare_eq_of_full {x y : UnpackedFloat} (hx : Full x) (hy : Full y) :
    x.compare y = some (compare (value x) (value y)) := by
  have pos {m : ℕ} (e : ℤ) (hm : 0 < m) : (0 : ℚ) < m * 2 ^ e := by positivity
  have neg {m : ℕ} (e : ℤ) (hm : 0 < m) : -((m : ℚ) * 2 ^ e) < 0 := neg_lt_zero.mpr (pos e hm)
  cases x with
  | notANumber | infinity => exact hx.elim
  | zero s =>
    rw [value_zero]
    cases y with
    | notANumber | infinity => exact hy.elim
    | zero t => cases s <;> cases t <;> rfl
    | finite t n f hn =>
      cases t with
      | positive => rw [value_positive, compare_lt_iff_lt.mpr (pos f hn)]; cases s <;> rfl
      | negative => rw [value_negative, compare_gt_iff_gt.mpr (neg f hn)]; cases s <;> rfl
  | finite s m e hm =>
    cases y with
    | notANumber | infinity => exact hy.elim
    | zero t =>
      rw [value_zero]
      cases s with
      | positive => rw [value_positive, compare_gt_iff_gt.mpr (pos e hm)]; cases t <;> rfl
      | negative => rw [value_negative, compare_lt_iff_lt.mpr (neg e hm)]; cases t <;> rfl
    | finite t n f hn =>
      cases s <;> cases t
      · rw [value_negative, value_negative, compare_neg_neg, ← compare_magnitude hm hn hx hy]
        rfl
      · rw [value_negative, value_positive, compare_lt_iff_lt.mpr ((neg e hm).trans (pos f hn))]
        rfl
      · rw [value_positive, value_negative, compare_gt_iff_gt.mpr ((neg f hn).trans (pos e hm))]
        rfl
      · rw [value_positive, value_positive, ← compare_magnitude hm hn hx hy]
        rfl

/-- What lies between two finite numbers is finite: what is no number compares with nothing. -/
theorem isFinite_of_between {x y z : UnpackedFloat} (hx : x.isFinite) (hz : z.isFinite)
    (hxy : x.le y) (hyz : y.le z) : y.isFinite := by
  cases y with
  | zero | finite => rfl
  | notANumber => cases x <;> cases hxy
  | infinity s =>
    cases s with
    | positive =>
      cases z with
      | notANumber | infinity => cases hz
      | zero | finite => cases hyz
    | negative =>
      cases x with
      | notANumber | infinity => cases hx
      | zero | finite => cases hxy

end Unpacked

/-- The exact value of a finite number. -/
def exactValue (x : Float) : ℚ := Unpacked.value x.toModel.unpack

theorem isFinite_of_between {x y z : Float} (hx : x.isFinite) (hz : z.isFinite) (hxy : x ≤ y)
    (hyz : y ≤ z) : y.isFinite :=
  Unpacked.isFinite_of_between hx hz (of_decide_eq_true hxy) (of_decide_eq_true hyz)

/-- The order of finite numbers is that of their values. -/
theorem le_iff_exactValue_le {x y : Float} (hx : x.isFinite) (hy : y.isFinite) :
    x ≤ y ↔ exactValue x ≤ exactValue y := by
  have h := Unpacked.compare_eq_of_full (Unpacked.full_unpack hx) (Unpacked.full_unpack hy)
  have hle : x ≤ y ↔ x.toModel.unpack.le y.toModel.unpack := decide_eq_true_iff
  rw [hle, UnpackedFloat.le, h, Option.any_some, ← Ordering.ne_gt_iff_isLE]
  exact compare_le_iff_le

end StageMotion
