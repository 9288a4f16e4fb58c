/-!
# String literals

What stands between the quotes of a string literal: characters, and escapes that stand for them. An
escape can name half of a surrogate pair. Two halves that belong together are one character; a half
on its own is allowed in a literal, but then the literal has no text.

* `Piece` : what one character or escape of a literal stands for;
* `scanPieces` : the pieces up to the closing quote;
* `textOfPieces?` : the text of the pieces;
* `escape` : the characters of a text as they stand in a literal.
-/

namespace StageMotion.Json

/-! ## Hexadecimal digits -/

/-- The value of a hexadecimal digit, in either case. -/
def hexDigit? (c : Char) : Option Nat :=
  let n := c.toNat
  if 48 ≤ n ∧ n < 58 then some (n - 48)
  else if 97 ≤ n ∧ n < 103 then some (n - 87)
  else if 65 ≤ n ∧ n < 71 then some (n - 55)
  else none

/-- The character of a hexadecimal digit, in lower case. -/
def hexChar (n : Nat) : Char := if n < 10 then Char.ofNat (48 + n) else Char.ofNat (87 + n)

/-- The number of four hexadecimal digits. -/
def hexNumber? (a b c d : Char) : Option Nat := do
  some (((← hexDigit? a) * 16 + (← hexDigit? b)) * 256 + ((← hexDigit? c) * 16 + (← hexDigit? d)))

/-! ## Reading -/

/-- What one character or escape of a literal stands for. -/
inductive Piece
  | char (c : Char)
  /-- Half of a surrogate pair. -/
  | half (unit : Nat)
  deriving DecidableEq, Repr

/-- The piece of a four-digit escape. -/
def Piece.ofUnit (unit : Nat) : Piece :=
  if 0xD800 ≤ unit ∧ unit < 0xE000 then half unit else char (Char.ofNat unit)

/-- The character of a one-letter escape. -/
def unescape? : Char → Option Char
  | '"' => some '"'
  | '\\' => some '\\'
  | '/' => some '/'
  | 'b' => some '\x08'
  | 'f' => some '\x0c'
  | 'n' => some '\n'
  | 'r' => some '\r'
  | 't' => some '\t'
  | _ => none

/-- The pieces of a literal up to its closing quote, and what follows the quote. Control characters
have to be escaped. -/
def scanPieces : List Char → Option (List Piece × List Char)
  | [] => none
  | '"' :: rest => some ([], rest)
  | '\\' :: 'u' :: a :: b :: c :: d :: rest => do
    let unit ← hexNumber? a b c d
    let (pieces, rest) ← scanPieces rest
    some (.ofUnit unit :: pieces, rest)
  | '\\' :: letter :: rest => do
    let c ← unescape? letter
    let (pieces, rest) ← scanPieces rest
    some (.char c :: pieces, rest)
  | c :: rest =>
    if c.toNat < 0x20 then none
    else do
      let (pieces, rest) ← scanPieces rest
      some (.char c :: pieces, rest)

/-- The character of the two halves of a surrogate pair. -/
def pairChar? (high low : Nat) : Option Char :=
  if high < 0xDC00 ∧ 0xDC00 ≤ low then
    some (Char.ofNat (0x10000 + (high - 0xD800) * 0x400 + (low - 0xDC00)))
  else none

/-- The text of some pieces, unless one of them is half of a pair without its other half. -/
def textOfPieces? : List Piece → Option (List Char)
  | [] => some []
  | .char c :: pieces => (textOfPieces? pieces).map (c :: ·)
  | .half high :: .half low :: pieces => do
    let c ← pairChar? high low
    (textOfPieces? pieces).map (c :: ·)
  | .half _ :: _ => none

/-! ## Writing -/

/-- A character as it stands in a literal. Only quotes, backslashes and control characters are
escaped. -/
def escapeChar (c : Char) : List Char :=
  if c = '"' then ['\\', '"']
  else if c = '\\' then ['\\', '\\']
  else if c.toNat < 0x20 then
    match c with
    | '\x08' => ['\\', 'b']
    | '\t' => ['\\', 't']
    | '\n' => ['\\', 'n']
    | '\x0c' => ['\\', 'f']
    | '\r' => ['\\', 'r']
    | _ => ['\\', 'u', '0', '0', hexChar (c.toNat / 16), hexChar (c.toNat % 16)]
  else [c]

/-- A text as it stands in a literal. -/
def escape (text : List Char) : List Char := text.flatMap escapeChar

end StageMotion.Json
