/-!
# Decimal numerals

A numeral as it stands in a text: sign, digits before and after the point, and a power of ten. Two
numerals of one value are different numerals.

* `Digit` : the decimal digits, and `digitsOf` those of a natural number;
* `Numeral` : the numerals;
* `Numeral.chars` : how a numeral is written;
* `Numeral.toFloat?`, `Numeral.toUInt64?` : the number of a numeral, if it is in range.

The number of a numeral is made in two steps. Its digits are gathered in a 64-bit word, as many as
fit; whole digits that do not fit count as zeros, and digits behind the point that do not fit are
left out. The word is then multiplied or divided by a power of ten.
-/

namespace StageMotion

/-- A decimal digit. -/
abbrev Digit := Fin 10

namespace Digit

def zero : Digit := ⟨0, by decide⟩

/-- The character of a digit. -/
def char (d : Digit) : Char := Char.ofNat (48 + d.val)

/-- The digit of a character. -/
def ofChar? (c : Char) : Option Digit :=
  if h : 48 ≤ c.toNat ∧ c.toNat < 58 then some ⟨c.toNat - 48, by omega⟩ else none

theorem ofChar?_char (d : Digit) : ofChar? (char d) = some d := by
  revert d
  decide

end Digit

/-- The number that a string of digits stands for, if `n` stands before it. -/
def digitsFrom (n : Nat) (ds : List Digit) : Nat := ds.foldl (fun n d => 10 * n + d.val) n

/-- The digits of a natural number. -/
def digitsOf (n : Nat) : List Digit := go (n.log2 + 1) n []
where
  go : Nat → Nat → List Digit → List Digit
    | 0, _, ds => ds
    | fuel + 1, n, ds =>
      let ds := Fin.ofNat 10 n :: ds
      if n < 10 then ds else go fuel (n / 10) ds

/-- A decimal numeral; `exponent` is the power of ten that stands behind it, if there is one. -/
structure Numeral where
  negative : Bool
  whole : List Digit
  fraction : List Digit
  exponent : Option Int
  deriving DecidableEq, Repr

namespace Numeral

/-- The numeral of a natural number. -/
def ofNat (n : Nat) : Numeral := ⟨false, digitsOf n, [], none⟩

/-- The written power of ten, always with its sign. -/
def exponentChars (e : Int) : List Char :=
  'e' :: (if e < 0 then '-' else '+') :: (digitsOf e.natAbs).map Digit.char

/-- How a numeral is written. -/
def chars (n : Numeral) : List Char :=
  (if n.negative then ['-'] else []) ++ n.whole.map Digit.char ++
    (if n.fraction.isEmpty then [] else '.' :: n.fraction.map Digit.char) ++
    (n.exponent.map exponentChars).getD []

/-- The text of a numeral. -/
def text (n : Numeral) : String := String.ofList n.chars

end Numeral

/-! ## The number of a numeral -/

/-- Puts digits behind a word as long as it stays below `2 ^ 64`, and gives what is left. -/
def gather : Nat → List Digit → Nat × List Digit
  | word, [] => (word, [])
  | word, d :: ds =>
    if 10 * word + d.val < UInt64.size then gather (10 * word + d.val) ds else (word, d :: ds)

/-- The float nearest to a power of ten. -/
def tenTo (n : Nat) : Float := Float.ofScientific 1 false n

/-- A number times a power of ten, if that is no infinity. No power of ten above `10 ^ 308` is a
finite number, so smaller ones are divided by in two steps. -/
def shiftPoint? (x : Float) (places : Int) : Option Float :=
  if x == 0.0 then some x
  else if 308 < places then none
  else if 0 ≤ places then
    let product := x * tenTo places.toNat
    if product.isInf then none else some product
  else if -308 ≤ places then some (x / tenTo (-places).toNat)
  else if -616 ≤ places then some (x / tenTo 308 / tenTo (-places - 308).toNat)
  else some 0.0

namespace Numeral

/-- The word of a numeral and the power of ten behind it. -/
def word (n : Numeral) : Nat × Int :=
  let (word, zeros) := gather 0 n.whole
  let (word, cut) := gather word n.fraction
  (word, zeros.length - (n.fraction.length - cut.length : Nat) + n.exponent.getD 0)

/-- The number of a numeral, if it is finite. -/
def toFloat? (n : Numeral) : Option Float :=
  let (word, places) := n.word
  (shiftPoint? (Float.ofNat word) places).map fun x => if n.negative then -x else x

/-- The 64-bit number of a numeral that has neither sign, point nor exponent. -/
def toUInt64? (n : Numeral) : Option UInt64 :=
  let value := digitsFrom 0 n.whole
  if !n.negative && n.fraction.isEmpty && n.exponent.isNone && value < UInt64.size then
    some (UInt64.ofNat value)
  else none

end Numeral

end StageMotion
