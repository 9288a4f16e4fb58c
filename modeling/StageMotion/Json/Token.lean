import StageMotion.Decimal.Numeral
import StageMotion.Json.Literal

/-!
# JSON tokens

The words of a JSON text. Blanks separate words and mean nothing.

* `Token` : the words;
* `Token.scan?` : the words of a text;
* `Token.chars` : how a word is written.
-/

namespace StageMotion.Json

/-- A word of a JSON text. -/
inductive Token
  | openArray
  | closeArray
  | openObject
  | closeObject
  | colon
  | comma
  | null
  | bool (value : Bool)
  | number (numeral : Numeral)
  /-- A string literal; it has no text if it holds half of a surrogate pair on its own. -/
  | string (text : Option String)
  deriving DecidableEq, Repr

/-! ## Numbers -/

/-- The digits in front, and what follows them. -/
def scanDigits : List Char → List Digit × List Char
  | [] => ([], [])
  | c :: cs =>
    match Digit.ofChar? c with
    | some d =>
      let (ds, rest) := scanDigits cs
      (d :: ds, rest)
    | none => ([], c :: cs)

/-- A point with the digits behind it, if there is a point; there have to be digits then. -/
def scanFraction? : List Char → Option (List Digit × List Char)
  | '.' :: cs =>
    let (ds, rest) := scanDigits cs
    if ds.isEmpty then none else some (ds, rest)
  | cs => some ([], cs)

/-- The power of ten behind its letter. -/
def scanPower? (cs : List Char) : Option (Option Int × List Char) :=
  let (negative, cs) :=
    match cs with
    | '-' :: cs => (true, cs)
    | '+' :: cs => (false, cs)
    | cs => (false, cs)
  let (ds, rest) := scanDigits cs
  let power : Int := digitsFrom 0 ds
  if ds.isEmpty then none else some (some (if negative then -power else power), rest)

/-- An exponent, if there is one. -/
def scanExponent? : List Char → Option (Option Int × List Char)
  | 'e' :: cs => scanPower? cs
  | 'E' :: cs => scanPower? cs
  | cs => some (none, cs)

/-- A number. Its whole part has a digit, and does not start with a zero if it has more. -/
def scanNumber? (cs : List Char) : Option (Numeral × List Char) := do
  let (negative, cs) :=
    match cs with
    | '-' :: cs => (true, cs)
    | cs => (false, cs)
  let (whole, cs) := scanDigits cs
  match whole with
  | [] => none
  | 0 :: _ :: _ => none
  | _ =>
    let (fraction, cs) ← scanFraction? cs
    let (exponent, cs) ← scanExponent? cs
    some (⟨negative, whole, fraction, exponent⟩, cs)

namespace Token

/-! ## Words -/

def isBlank (c : Char) : Bool := c = ' ' || c = '\n' || c = '\t' || c = '\r'

/-- The word that starts with a given character, and what follows it. -/
def scanOne? : Char → List Char → Option (Token × List Char)
  | '[', cs => some (openArray, cs)
  | ']', cs => some (closeArray, cs)
  | '\x7b', cs => some (openObject, cs)
  | '\x7d', cs => some (closeObject, cs)
  | ':', cs => some (colon, cs)
  | ',', cs => some (comma, cs)
  | 'n', 'u' :: 'l' :: 'l' :: cs => some (null, cs)
  | 't', 'r' :: 'u' :: 'e' :: cs => some (bool true, cs)
  | 'f', 'a' :: 'l' :: 's' :: 'e' :: cs => some (bool false, cs)
  | '"', cs =>
    (scanPieces cs).map fun (pieces, rest) =>
      (string ((textOfPieces? pieces).map String.ofList), rest)
  | c, cs => (scanNumber? (c :: cs)).map fun (n, rest) => (number n, rest)

/-- At most `limit` words and blanks, in reverse order behind those already found. -/
def scanFrom? : (limit : Nat) → (found : List Token) → List Char → Option (List Token)
  | _, found, [] => some found.reverse
  | 0, _, _ :: _ => none
  | limit + 1, found, c :: cs =>
    if isBlank c then scanFrom? limit found cs
    else
      match scanOne? c cs with
      | some (token, rest) => scanFrom? limit (token :: found) rest
      | none => none

/-- The words of a text. A word has at least one character, so there are no more words than
characters. -/
def scan? (cs : List Char) : Option (List Token) := scanFrom? cs.length [] cs

/-! ## Writing -/

/-- How a word is written. A literal without a text is written as half a surrogate pair. -/
def chars : Token → List Char
  | openArray => ['[']
  | closeArray => [']']
  | openObject => ['\x7b']
  | closeObject => ['\x7d']
  | colon => [':']
  | comma => [',']
  | null => ['n', 'u', 'l', 'l']
  | bool true => ['t', 'r', 'u', 'e']
  | bool false => ['f', 'a', 'l', 's', 'e']
  | number n => n.chars
  | string (some text) => '"' :: escape text.toList ++ ['"']
  | string none => ['"', '\\', 'u', 'd', '8', '0', '0', '"']

end Token

end StageMotion.Json
