import StageMotion.Decimal.Numeral

/-!
# Numbers as numerals

A finite floating-point number is a whole number of some power of two. The shortest decimal is the
one with the fewest digits that still reads back as a given number. It is found by exact arithmetic
on whole numbers: on coarser and coarser grids of decimal numbers the number has two neighbours, and
the coarsest grid on which one of them rounds to the number wins. `Tie` decides between two
neighbours at the same distance.

A decimal becomes a numeral by setting its point, or by moving the point behind the first digit and
writing the power of ten out. `Layout` holds what one kind of output decides about that.

* `Binary` : the exact value of a floating-point number;
* `Binary.low`, `Binary.high` : the ends of the interval of numbers that round to it;
* `Binary.shortest` : the shortest decimal;
* `Layout.ofFloat` : the numeral of a number, in as few digits as read back to it;
* `Numeral.withPlaces` : the numeral of a number with some digits behind the point.
-/

namespace StageMotion

/-! ## Exact values -/

/-- The value `significand * 2 ^ exponent`. -/
structure Binary where
  significand : Nat
  exponent : Int
  /-- The next value below is only half as far away as the next value above. -/
  narrowBelow : Bool
  deriving DecidableEq, Repr

namespace Binary

/-- Whether the sign bit of a number is set. -/
def isNegative (x : Float) : Bool := x.toBits >>> 63 == 1

/-- The magnitude of a finite number. -/
def ofFloat (x : Float) : Binary :=
  let bits := x.toBits
  let fraction := (bits &&& 0xFFFFFFFFFFFFF).toNat
  match ((bits >>> 52) &&& 0x7FF).toNat with
  | 0 => ⟨fraction, -1074, false⟩
  | e + 1 => ⟨0x10000000000000 + fraction, (e : Int) - 1074, fraction == 0 && e != 0⟩

/-! ### The rounding interval

Both ends are given in quarters of the last binary place, so that they are whole. -/

/-- Halfway to the value below, in quarters. -/
def low (x : Binary) : Nat := 4 * x.significand - if x.narrowBelow then 1 else 2

/-- Halfway to the value above, in quarters. -/
def high (x : Binary) : Nat := 4 * x.significand + 2

/-- Halfway points round to an even significand, so the ends belong to the interval of one. -/
def closed (x : Binary) : Bool := x.significand % 2 == 0

end Binary

/-! ## The shortest decimal -/

/-- What becomes of a number halfway between two neighbours. -/
inductive Tie
  | toEven
  | upward
  deriving DecidableEq, Repr

/-- The value `digits * 10 ^ exponent`. -/
structure Decimal where
  digits : Nat
  exponent : Int
  deriving DecidableEq, Repr

namespace Binary

/-- The factors that make multiples of `10 ^ place` and quarters of the last binary place of `x`
comparable: `c` of the former against `q` of the latter compare as `c * up` against `q * down`. -/
def factors (x : Binary) (place : Int) : Nat × Nat :=
  (Nat.pow 10 place.toNat * Nat.pow 2 (2 - x.exponent).toNat,
    Nat.pow 10 (-place).toNat * Nat.pow 2 (x.exponent - 2).toNat)

/-- Whether `c * 10 ^ place` rounds to `x`. -/
def readsBack (x : Binary) (place : Int) (c : Nat) : Bool :=
  let (up, down) := x.factors place
  if x.closed then x.low * down ≤ c * up && c * up ≤ x.high * down
  else x.low * down < c * up && c * up < x.high * down

/-- The multiple of `10 ^ place` nearest to `x` among those that round to it, if there is one. -/
def candidate? (x : Binary) (tie : Tie) (place : Int) : Option Nat :=
  let (up, down) := x.factors place
  let quarters := 4 * x.significand * down
  let below := quarters / up
  let above := below + 1
  if x.readsBack place below then
    if x.readsBack place above then
      match compare (2 * quarters) ((below + above) * up) with
      | .lt => some below
      | .gt => some above
      | .eq =>
        match tie with
        | .toEven => some (if below % 2 = 0 then below else above)
        | .upward => some above
    else some below
  else if x.readsBack place above then some above
  else none

/-- A place above the leading digit of `x`. The factor is just above the decimal logarithm of two,
and one place more makes up for it being above where the logarithm of `x` is negative. -/
def topPlace (x : Binary) : Int :=
  ((x.significand.log2 : Int) + 1 + x.exponent) * 30103 / 100000 + 2

/-- All digits of `x`. -/
def exactDecimal (x : Binary) : Decimal :=
  if x.exponent < 0 then ⟨x.significand * Nat.pow 5 (-x.exponent).toNat, x.exponent⟩
  else ⟨x.significand * Nat.pow 2 x.exponent.toNat, 0⟩

/-- The decimal with the fewest digits that rounds to `x`, the nearest of those. Seventeen digits
below the leading one are always enough. -/
def shortest (x : Binary) (tie : Tie) : Decimal :=
  if x.significand = 0 then ⟨0, 0⟩
  else
    let found := (List.range 24).findSome? fun (n : Nat) =>
      let place := x.topPlace - n
      (x.candidate? tie place).map fun c => Decimal.mk c place
    found.getD x.exactDecimal

end Binary

/-! ## Layouts -/

/-- The decisions of one kind of output. -/
structure Layout where
  tie : Tie
  /-- Which powers of ten of the leading digit are written without an exponent. -/
  positional : Int → Bool
  /-- Whether whole numbers keep a zero behind the point. -/
  pointZero : Bool

namespace Layout

/-- Sets the point of a decimal. -/
def numeral (layout : Layout) (negative : Bool) (d : Decimal) : Numeral :=
  let ds := digitsOf d.digits
  let point := ds.length + d.exponent
  let zeroIfEmpty (fraction : List Digit) : List Digit :=
    if fraction.isEmpty && layout.pointZero then [Digit.zero] else fraction
  if !layout.positional (point - 1) then ⟨negative, ds.take 1, ds.drop 1, some (point - 1)⟩
  else if point ≤ 0 then
    ⟨negative, [Digit.zero], List.replicate (-point).toNat Digit.zero ++ ds, none⟩
  else
    ⟨negative, ds.take point.toNat ++ List.replicate d.exponent.toNat Digit.zero,
      zeroIfEmpty (ds.drop point.toNat), none⟩

/-- The numeral of a finite number, in as few digits as read back to it. -/
def ofFloat (layout : Layout) (x : Float) : Numeral :=
  layout.numeral (Binary.isNegative x) ((Binary.ofFloat x).shortest layout.tie)

end Layout

/-! ## A fixed number of places

It is the exact binary value that is rounded, and a half goes to the even neighbour. The sign stays,
also where nothing but zeros is left of the number. -/

/-- The whole number nearest to a quotient, a half going to the even one. -/
def roundQuotient (numerator denominator : Nat) : Nat :=
  let below := numerator / denominator
  match compare (2 * (numerator % denominator)) denominator with
  | .lt => below
  | .gt => below + 1
  | .eq => below + below % 2

namespace Numeral

/-- The numeral of a finite number with `places` digits behind the point. -/
def withPlaces (places : Nat) (x : Float) : Numeral :=
  let b := Binary.ofFloat x
  let units := roundQuotient
    (b.significand * Nat.pow 2 b.exponent.toNat * Nat.pow 10 places)
    (Nat.pow 2 (-b.exponent).toNat)
  let ds := digitsOf units
  let ds := List.replicate (places + 1 - ds.length) Digit.zero ++ ds
  ⟨Binary.isNegative x, ds.take (ds.length - places), ds.drop (ds.length - places), none⟩

end Numeral

end StageMotion
