import StageMotion.Proofs.Number.Value

/-!
# The order of all floating-point numbers

The infinities are the ends of the extended numbers, and all other numbers are at their exact
values. This is how floats compare (`lt_iff_extendedValue_lt`, `le_iff_extendedValue_le`), except
that what is no number compares with nothing, not even with itself. At the upper end there is
`infinity` alone (`eq_infinity_of_not_lt`).
-/

namespace StageMotion

open Float.Model (UnpackedFloat)

namespace Unpacked

/-- The value of an unpacked number among the extended numbers. What is no number has none and
counts as zero. -/
noncomputable def extendedValue : UnpackedFloat → EReal
  | .infinity .negative => ⊥
  | .infinity .positive => ⊤
  | x => ((value x : ℝ) : EReal)

/-- An infinity, or a number with a full mantissa. -/
def Proper (x : UnpackedFloat) : Prop := Full x ∨ ∃ s, x = .infinity s

theorem proper_unpack {x : Float.Model} (h : x.isNaN = false) : Proper x.unpack := by
  have hfull : x.isFinite → Full x.unpack := full_unpack
  unfold Float.Model.isNaN at h
  unfold Float.Model.isFinite at hfull
  cases hx : x.unpack with
  | notANumber =>
    rw [hx] at h
    cases h
  | infinity s => exact .inr ⟨s, rfl⟩
  | zero | finite =>
    rw [hx] at hfull
    exact .inl (hfull rfl)

theorem compare_coe (p q : ℚ) : compare ((p : ℝ) : EReal) ((q : ℝ) : EReal) = compare p q := by
  have hmono : StrictMono fun q : ℚ => ((q : ℝ) : EReal) :=
    EReal.coe_strictMono.comp Rat.cast_strictMono
  rw [← cmp_eq_compare, ← cmp_eq_compare]
  exact hmono.cmp_map_eq p q

/-- The order of proper numbers is that of their values. -/
theorem compare_eq_of_proper {x y : UnpackedFloat} (hx : Proper x) (hy : Proper y) :
    x.compare y = some (compare (extendedValue x) (extendedValue y)) := by
  have bot_lt (q : ℚ) : compare (⊥ : EReal) ((q : ℝ) : EReal) = .lt :=
    compare_lt_iff_lt.mpr (EReal.bot_lt_coe _)
  have lt_top (q : ℚ) : compare ((q : ℝ) : EReal) ⊤ = .lt :=
    compare_lt_iff_lt.mpr (EReal.coe_lt_top _)
  have gt_bot (q : ℚ) : compare ((q : ℝ) : EReal) ⊥ = .gt :=
    compare_gt_iff_gt.mpr (EReal.bot_lt_coe _)
  have top_gt (q : ℚ) : compare (⊤ : EReal) ((q : ℝ) : EReal) = .gt :=
    compare_gt_iff_gt.mpr (EReal.coe_lt_top _)
  have ends_lt : compare (⊥ : EReal) ⊤ = .lt := compare_lt_iff_lt.mpr bot_lt_top
  have ends_gt : compare (⊤ : EReal) ⊥ = .gt := compare_gt_iff_gt.mpr bot_lt_top
  have same (e : EReal) : compare e e = .eq := compare_eq_iff_eq.mpr rfl
  cases x with
  | notANumber => simp [Proper, Full] at hx
  | infinity s =>
    cases y with
    | notANumber => simp [Proper, Full] at hy
    | infinity t =>
      cases s <;> cases t <;> simp only [extendedValue, same, ends_lt, ends_gt] <;> rfl
    | zero | finite => cases s <;> simp only [extendedValue, bot_lt, top_gt] <;> rfl
  | zero | finite =>
    cases y with
    | notANumber => simp [Proper, Full] at hy
    | infinity t => cases t <;> simp only [extendedValue, lt_top, gt_bot] <;> rfl
    | zero | finite =>
      rw [compare_eq_of_full (hx.resolve_right (by simp)) (hy.resolve_right (by simp)),
        ← compare_coe]
      rfl

/-- What is no number compares with nothing. -/
theorem isNaN_of_compare {x y : UnpackedFloat} {o : Ordering} (h : x.compare y = some o) :
    x.isNaN = false ∧ y.isNaN = false := by
  cases x with
  | notANumber => cases h
  | _ =>
    cases y with
    | notANumber => cases h
    | _ => exact ⟨rfl, rfl⟩

theorem unpack_eq_infinity_of_extendedValue {x : Float.Model} (hx : x.isNaN = false)
    (h : extendedValue x.unpack = ⊤) : x.unpack = .infinity .positive := by
  obtain hfull | ⟨s, hs⟩ := proper_unpack hx
  · cases hunpack : x.unpack with
    | infinity | notANumber =>
      rw [hunpack] at hfull
      exact hfull.elim
    | zero | finite =>
      rw [hunpack] at h
      exact absurd h (EReal.coe_ne_top _)
  · rw [hs] at h ⊢
    cases s with
    | positive => rfl
    | negative => exact absurd h bot_ne_top

/-- The bits of the upper end: all of the exponent, and nothing else. -/
theorem toNat_toBits_of_unpack {x : Float.Model} (h : x.unpack = .infinity .positive) :
    x.toBits.toNat = (2 ^ 11 - 1) * 2 ^ 52 := by
  let m : BitVec 52 := @UnpackedFloat.unpackMantissa .binary64 x.toBits.toBitVec
  let e : BitVec 11 := @UnpackedFloat.unpackExponent .binary64 x.toBits.toBitVec
  let s : BitVec 1 := @UnpackedFloat.unpackSign .binary64 x.toBits.toBitVec
  have hlt := x.toBits.toNat_lt
  have hm : m.toNat = x.toBits.toNat % 2 ^ 52 := by
    simp [m, UnpackedFloat.unpackMantissa, BitVec.extractLsb]
  have he : e.toNat = x.toBits.toNat / 2 ^ 52 % 2 ^ 11 := by
    simp [e, UnpackedFloat.unpackExponent, BitVec.extractLsb, Nat.shiftRight_eq_div_pow]
  have hs : s.toNat = x.toBits.toNat / 2 ^ 63 % 2 := by
    simp [s, UnpackedFloat.unpackSign, BitVec.extractLsb, Nat.shiftRight_eq_div_pow]
  unfold Float.Model.unpack UnpackedFloat.unpack at h
  dsimp only at h
  split_ifs at h with hones hzeros
  have hm' : m.toNat = 0 := congrArg BitVec.toNat hzeros
  have he' : e.toNat = 2 ^ 11 - 1 := congrArg BitVec.toNat hones
  have hs' : s.toNat = 0 := by
    have hsign : UnpackedFloat.Sign.ofBitVec s = .positive := UnpackedFloat.infinity.inj h
    by_contra hne
    rw [UnpackedFloat.Sign.ofBitVec, if_neg fun hzero => hne (congrArg BitVec.toNat hzero)] at hsign
    cases hsign
  omega

end Unpacked

/-- The value of a number among the extended numbers. -/
noncomputable def extendedValue (x : Float) : EReal := Unpacked.extendedValue x.toModel.unpack

theorem compare_unpack_iff {x y : Float} {o : Ordering} :
    x.toModel.unpack.compare y.toModel.unpack = some o ↔
      x.isNaN = false ∧ y.isNaN = false ∧ compare (extendedValue x) (extendedValue y) = o := by
  constructor
  · intro h
    obtain ⟨hx, hy⟩ := Unpacked.isNaN_of_compare h
    rw [Unpacked.compare_eq_of_proper (Unpacked.proper_unpack hx) (Unpacked.proper_unpack hy)] at h
    exact ⟨hx, hy, Option.some.inj h⟩
  · rintro ⟨hx, hy, rfl⟩
    exact Unpacked.compare_eq_of_proper (Unpacked.proper_unpack hx) (Unpacked.proper_unpack hy)

theorem lt_iff_extendedValue_lt {x y : Float} : x < y ↔
    x.isNaN = false ∧ y.isNaN = false ∧ extendedValue x < extendedValue y := by
  have hlt : x < y ↔ x.toModel.unpack.lt y.toModel.unpack := decide_eq_true_iff
  rw [hlt, UnpackedFloat.lt, beq_iff_eq, compare_unpack_iff, compare_lt_iff_lt]

theorem le_iff_extendedValue_le {x y : Float} : x ≤ y ↔
    x.isNaN = false ∧ y.isNaN = false ∧ extendedValue x ≤ extendedValue y := by
  have hle : x ≤ y ↔ x.toModel.unpack.le y.toModel.unpack := decide_eq_true_iff
  rw [hle, UnpackedFloat.le, Option.any_eq_true]
  simp only [compare_unpack_iff]
  constructor
  · rintro ⟨o, ⟨hx, hy, rfl⟩, ho⟩
    exact ⟨hx, hy, compare_le_iff_le.mp (Ordering.ne_gt_iff_isLE.mpr ho)⟩
  · rintro ⟨hx, hy, h⟩
    exact ⟨_, ⟨hx, hy, rfl⟩, Ordering.ne_gt_iff_isLE.mp (compare_le_iff_le.mpr h)⟩

/-! ## The upper end -/

/-- The float above all numbers. -/
def infinity : Float := 1.0 / 0.0

theorem extendedValue_infinity : extendedValue infinity = ⊤ :=
  congrArg Unpacked.extendedValue (rfl : infinity.toModel.unpack = .infinity .positive)

theorem eq_infinity_of_extendedValue {x : Float} (hx : x.isNaN = false) (h : extendedValue x = ⊤) :
    x = infinity := by
  have hbits := Unpacked.toNat_toBits_of_unpack (Unpacked.unpack_eq_infinity_of_extendedValue hx h)
  obtain ⟨⟨bits, valid⟩⟩ := x
  have hsame : bits = infinity.toModel.toBits := UInt64.toNat.inj hbits
  subst hsame
  rfl

theorem eq_infinity_of_not_lt {x : Float} (hx : x.isNaN = false) (h : ¬ x < infinity) :
    x = infinity := by
  apply eq_infinity_of_extendedValue hx
  by_contra hne
  refine h (lt_iff_extendedValue_lt.mpr ⟨hx, rfl, ?_⟩)
  rw [extendedValue_infinity]
  exact lt_top_iff_ne_top.mpr hne

/-- An infinite float that is not negative is the upper end. -/
theorem eq_infinity_of_isInf {x : Float} (hx : x.isInf) (h : 0.0 ≤ x) : x = infinity := by
  obtain ⟨-, hnumber, hle⟩ := le_iff_extendedValue_le.mp h
  apply eq_infinity_of_extendedValue hnumber
  have hinf : x.toModel.unpack.isInf := hx
  unfold extendedValue at hle ⊢
  cases hunpack : x.toModel.unpack with
  | notANumber | zero | finite =>
    rw [hunpack] at hinf
    cases hinf
  | infinity s =>
    cases s with
    | positive => rfl
    | negative =>
      rw [hunpack] at hle
      exact absurd (le_bot_iff.mp hle) (EReal.coe_ne_bot _)

end StageMotion
