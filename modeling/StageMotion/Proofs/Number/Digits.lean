import Mathlib.Algebra.Order.Ring.Nat
import StageMotion.Decimal.Layout
import StageMotion.Decimal.Numeral

/-!
# Digits

The digits of a natural number stand for that number (`digitsFrom_digitsOf`), and do not start with
a zero unless the number is zero (`digitsOf_ne_zero_cons`). So the numeral of a natural number, and
that of a float in any layout, is proper: it has a whole digit, and does not start with a zero if it
has more (`Numeral.isProper_ofNat`, `Layout.isProper_ofFloat`). Which numerals are 64-bit numbers is
`Numeral.toUInt64?_eq_some_iff`.
-/

namespace StageMotion

/-- A numeral that can stand in a JSON text: its whole part has a digit, and does not start with a
zero if it has more. -/
def Numeral.IsProper (n : Numeral) : Prop :=
  n.whole ≠ [] ∧ ∀ d ds, n.whole ≠ Digit.zero :: d :: ds

/-! ## The digits of a natural number -/

theorem digitsFrom_go {fuel n : Nat} (h : n < 2 ^ fuel) (ds : List Digit) :
    digitsFrom 0 (digitsOf.go fuel n ds) = digitsFrom n ds := by
  induction fuel generalizing n ds with
  | zero =>
    obtain rfl : n = 0 := by simpa using h
    rfl
  | succ fuel ih =>
    by_cases hn : n < 10
    · simp [digitsOf.go, hn, digitsFrom, Fin.ofNat, Nat.mod_eq_of_lt hn]
    · have htenth : n / 10 < 2 ^ fuel := by rw [Nat.pow_succ] at h; omega
      have hdigit : 10 * (n / 10) + n % 10 = n := Nat.div_add_mod n 10
      rw [digitsOf.go, if_neg hn, ih htenth]
      simp [digitsFrom, Fin.ofNat, hdigit]

theorem digitsFrom_digitsOf (n : Nat) : digitsFrom 0 (digitsOf n) = n :=
  digitsFrom_go Nat.lt_log2_self []

theorem go_ne_zero_cons {fuel n : Nat} (hpos : 0 < n) (h : n < 2 ^ fuel) (ds tail : List Digit) :
    digitsOf.go fuel n ds ≠ 0 :: tail := by
  induction fuel generalizing n ds with
  | zero => exact absurd h (by omega)
  | succ fuel ih =>
    by_cases hn : n < 10
    · simp only [digitsOf.go, hn, if_true, ne_eq, List.cons.injEq, not_and]
      intro hzero
      have := congrArg Fin.val hzero
      simp [Fin.ofNat, Nat.mod_eq_of_lt hn] at this
      omega
    · simp only [digitsOf.go, hn, if_false]
      exact ih (by omega) (by rw [Nat.pow_succ] at h; omega) _

/-- Only the digits of zero start with a zero. -/
theorem digitsOf_ne_zero_cons {n : Nat} (h : 0 < n) (ds : List Digit) : digitsOf n ≠ 0 :: ds :=
  go_ne_zero_cons h Nat.lt_log2_self [] ds

theorem digitsOf_zero : digitsOf 0 = [0] := rfl

theorem digitsOf_ne_nil (n : Nat) : digitsOf n ≠ [] := by
  intro h
  have hn := digitsFrom_digitsOf n
  rw [h] at hn
  rw [← hn] at h
  cases h

theorem Numeral.isProper_ofNat (n : Nat) : (Numeral.ofNat n).IsProper := by
  refine ⟨digitsOf_ne_nil n, fun d ds h => ?_⟩
  obtain rfl | hn := Nat.eq_zero_or_pos n
  · cases h
  · exact digitsOf_ne_zero_cons hn _ h

/-- A numeral of a 64-bit number has neither sign, point nor exponent. -/
theorem Numeral.toUInt64?_eq_some_iff (n : Numeral) (value : UInt64) :
    n.toUInt64? = some value ↔ n.negative = false ∧ n.fraction = [] ∧ n.exponent = none ∧
      digitsFrom 0 n.whole = value.toNat := by
  simp only [Numeral.toUInt64?]
  constructor
  · intro h
    split at h
    case isTrue hplain =>
      cases h
      simp only [Bool.and_eq_true, Bool.not_eq_true', List.isEmpty_iff, Option.isNone_iff_eq_none,
        decide_eq_true_eq] at hplain
      obtain ⟨⟨⟨hsign, hpoint⟩, hexponent⟩, hsize⟩ := hplain
      exact ⟨hsign, hpoint, hexponent, (UInt64.toNat_ofNat_of_lt hsize).symm⟩
    case isFalse => cases h
  · rintro ⟨hsign, hpoint, hexponent, hwhole⟩
    have hsize : value.toNat < UInt64.size := value.toNat_lt_size
    simp [hsign, hpoint, hexponent, hwhole, hsize]

/-! ## The shortest decimal -/

namespace Binary

theorem factors_pos (x : Binary) (place : Int) :
    0 < (x.factors place).1 ∧ 0 < (x.factors place).2 :=
  ⟨Nat.mul_pos (Nat.pow_pos (by decide)) (Nat.pow_pos (by decide)),
    Nat.mul_pos (Nat.pow_pos (by decide)) (Nat.pow_pos (by decide))⟩

/-- Zero rounds to no number but zero. -/
theorem readsBack_pos {x : Binary} (hx : x.significand ≠ 0) {place : Int} {c : Nat}
    (h : x.readsBack place c) : 0 < c := by
  by_contra hc
  obtain rfl : c = 0 := by omega
  obtain ⟨-, hdown⟩ := x.factors_pos place
  have hlow : 0 < x.low := by rw [low]; split <;> omega
  have hpos : 0 < x.low * (x.factors place).2 := Nat.mul_pos hlow hdown
  simp only [readsBack, Nat.zero_mul] at h
  split at h
  all_goals
    simp only [Bool.and_eq_true, decide_eq_true_eq] at h
    omega

/-- A candidate is one of the two neighbours of a number, and it is the right one. -/
theorem readsBack_of_candidate? {x : Binary} {tie : Tie} {place : Int} {c : Nat}
    (h : x.candidate? tie place = some c) : x.readsBack place c := by
  simp only [candidate?] at h
  split at h
  case isTrue hbelow =>
    split at h
    case isTrue habove =>
      split at h
      case h_1 => cases h; exact hbelow
      case h_2 => cases h; exact habove
      case h_3 =>
        cases tie with
        | upward => cases h; exact habove
        | toEven =>
          simp only [Option.some.injEq] at h
          split at h
          · exact h ▸ hbelow
          · exact h ▸ habove
    case isFalse => cases h; exact hbelow
  case isFalse =>
    split at h
    case isTrue habove => cases h; exact habove
    case isFalse => cases h

/-- The shortest decimal has the digit zero alone only where it stands for zero. -/
theorem exponent_shortest {x : Binary} {tie : Tie} (h : (x.shortest tie).digits = 0) :
    (x.shortest tie).exponent = 0 := by
  by_cases hx : x.significand = 0
  · rw [shortest, if_pos hx]
  have hpos : 0 < (x.shortest tie).digits := by
    rw [shortest, if_neg hx]
    generalize hfound : (List.range 24).findSome? _ = found
    cases found with
    | none =>
      simp only [Option.getD_none, exactDecimal]
      split <;> exact Nat.mul_pos (Nat.pos_of_ne_zero hx) (Nat.pow_pos (by decide))
    | some d =>
      obtain ⟨n, -, hd⟩ := List.exists_of_findSome?_eq_some hfound
      obtain ⟨c, hc, rfl⟩ := Option.map_eq_some_iff.mp hd
      exact readsBack_pos hx (readsBack_of_candidate? hc)
  omega

end Binary

/-! ## Layouts -/

/-- However its point is set, a decimal makes a proper numeral. -/
theorem Layout.isProper_numeral (layout : Layout) (negative : Bool) {d : Decimal}
    (h : d.digits = 0 → d.exponent ≤ 0) : (layout.numeral negative d).IsProper := by
  obtain ⟨digit, tail, hds⟩ := List.exists_cons_of_ne_nil (digitsOf_ne_nil d.digits)
  simp only [Layout.numeral, hds]
  split
  · exact ⟨by simp, by simp⟩
  split
  · exact ⟨by simp, by simp⟩
  rename_i hpoint
  obtain ⟨places, hplaces⟩ : ∃ places,
      (((digit :: tail).length : Int) + d.exponent).toNat = places + 1 :=
    Nat.exists_eq_add_one.mpr (by omega)
  rw [hplaces, List.take_succ_cons, List.cons_append]
  refine ⟨by simp, fun d' ds hwhole => ?_⟩
  obtain ⟨rfl, hrest⟩ := List.cons.inj hwhole
  -- A zero in front is the only digit, with no zeros of the exponent behind it.
  have hzero : d.digits = 0 := by
    by_contra hne
    exact digitsOf_ne_zero_cons (Nat.pos_of_ne_zero hne) _ hds
  rw [hzero, digitsOf_zero] at hds
  obtain ⟨-, rfl⟩ := List.cons.inj hds
  have hexponent : d.exponent.toNat = 0 := Int.toNat_of_nonpos (h hzero)
  simp [hexponent] at hrest

theorem Layout.isProper_ofFloat (layout : Layout) (x : Float) : (layout.ofFloat x).IsProper :=
  layout.isProper_numeral _ fun h => (Binary.exponent_shortest h).le

end StageMotion
