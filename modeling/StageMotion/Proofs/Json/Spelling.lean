import Mathlib.Data.List.Chain
import StageMotion.Json.Token
import StageMotion.Proofs.Number.Digits

/-!
# The spelling of JSON words

How the words of a JSON text may be written, as a grammar that knows nothing of reading: numbers
(`Numeral.Spelling`), string literals with their escapes (`Json.LiteralSpelling`), words
(`Json.Token.Spelling`) and texts, in which blanks may stand anywhere around words
(`Json.Token.Spelled`). Reading finds the words of every text that is spelled so, as long as no
number runs into what follows it (`Json.Token.scan?_of_spelled`).
-/

namespace StageMotion

/-! ## Numbers -/

/-- The spellings of the power of ten behind a number: nothing, or a letter, a sign and digits. -/
inductive PowerSpelling : Option Int → List Char → Prop
  | absent : PowerSpelling none []
  | bare {letter : Char} {ds : List Digit} (hletter : letter = 'e' ∨ letter = 'E')
    (hds : ds ≠ []) : PowerSpelling (some (digitsFrom 0 ds)) (letter :: ds.map Digit.char)
  | plus {letter : Char} {ds : List Digit} (hletter : letter = 'e' ∨ letter = 'E')
    (hds : ds ≠ []) : PowerSpelling (some (digitsFrom 0 ds)) (letter :: '+' :: ds.map Digit.char)
  | minus {letter : Char} {ds : List Digit} (hletter : letter = 'e' ∨ letter = 'E')
    (hds : ds ≠ []) : PowerSpelling (some (-digitsFrom 0 ds)) (letter :: '-' :: ds.map Digit.char)

/-- The sign of a number. -/
def signChars (negative : Bool) : List Char := if negative then ['-'] else []

/-- The point of a number and the digits behind it, if there are any. -/
def fractionChars (fraction : List Digit) : List Char :=
  if fraction.isEmpty then [] else '.' :: fraction.map Digit.char

/-- The spellings of a number. -/
def Numeral.Spelling (n : Numeral) (cs : List Char) : Prop :=
  n.IsProper ∧ ∃ power, PowerSpelling n.exponent power ∧
    cs = signChars n.negative ++ n.whole.map Digit.char ++ fractionChars n.fraction ++ power

theorem Digit.char_ne_sign (d : Digit) : d.char ≠ '-' ∧ d.char ≠ '+' := by
  revert d
  decide

namespace Json

/-- No number goes on here. -/
def Ends (cs : List Char) : Prop :=
  ∀ c ∈ cs.head?, Digit.ofChar? c = none ∧ c ≠ '.' ∧ c ≠ 'e' ∧ c ≠ 'E'

theorem scanDigits_append {rest : List Char} (h : ∀ c ∈ rest.head?, Digit.ofChar? c = none)
    (ds : List Digit) : scanDigits (ds.map Digit.char ++ rest) = (ds, rest) := by
  induction ds with
  | nil =>
    cases rest with
    | nil => rfl
    | cons c rest => simp [scanDigits, h c rfl]
  | cons d ds ih => simp [scanDigits, Digit.ofChar?_char, ih]

theorem scanFraction?_append {rest : List Char}
    (h : ∀ c ∈ rest.head?, Digit.ofChar? c = none ∧ c ≠ '.') (fraction : List Digit) :
    scanFraction? (fractionChars fraction ++ rest) = some (fraction, rest) := by
  cases fraction with
  | nil =>
    cases rest with
    | nil => rfl
    | cons c rest =>
      have hc : c ≠ '.' := (h c rfl).2
      simp [fractionChars, scanFraction?, hc]
  | cons d ds =>
    have hscan := scanDigits_append (fun c hc => (h c hc).1) (d :: ds)
    simp only [List.map_cons, List.cons_append] at hscan
    simp [fractionChars, scanFraction?, hscan]

/-- The power of ten behind its letter, in its three spellings. -/
theorem scanPower?_append {rest : List Char} (h : Ends rest) {ds : List Digit} (hds : ds ≠ []) :
    let power : Int := digitsFrom 0 ds
    scanPower? (ds.map Digit.char ++ rest) = some (some power, rest) ∧
      scanPower? ('+' :: ds.map Digit.char ++ rest) = some (some power, rest) ∧
      scanPower? ('-' :: ds.map Digit.char ++ rest) = some (some (-power), rest) := by
  have hscan := scanDigits_append (fun c hc => (h c hc).1) ds
  refine ⟨?_, by simp [scanPower?, hscan, hds], by simp [scanPower?, hscan, hds]⟩
  obtain ⟨d, ds, rfl⟩ := List.exists_cons_of_ne_nil hds
  simp only [List.map_cons, List.cons_append] at hscan ⊢
  obtain ⟨hminus, hplus⟩ := Digit.char_ne_sign d
  simp [scanPower?, hscan, hminus, hplus]

theorem scanExponent?_append {rest : List Char} (h : Ends rest) {power : Option Int}
    {cs : List Char} (hcs : PowerSpelling power cs) :
    scanExponent? (cs ++ rest) = some (power, rest) := by
  cases hcs with
  | absent =>
    cases rest with
    | nil => rfl
    | cons c rest =>
      obtain ⟨-, -, he, hE⟩ := h c rfl
      simp [scanExponent?, he, hE]
  | bare hletter hds =>
    obtain ⟨hbare, -, -⟩ := scanPower?_append h hds
    rcases hletter with rfl | rfl <;> simp [scanExponent?, hbare]
  | plus hletter hds =>
    obtain ⟨-, hplus, -⟩ := scanPower?_append h hds
    rcases hletter with rfl | rfl <;> simpa [scanExponent?] using hplus
  | minus hletter hds =>
    obtain ⟨-, -, hminus⟩ := scanPower?_append h hds
    rcases hletter with rfl | rfl <;> simpa [scanExponent?] using hminus

theorem head?_power {rest : List Char} (h : Ends rest) {power : Option Int} {cs : List Char}
    (hcs : PowerSpelling power cs) :
    ∀ c ∈ (cs ++ rest).head?, Digit.ofChar? c = none ∧ c ≠ '.' := by
  cases hcs with
  | absent => exact fun c hc => ⟨(h c hc).1, (h c hc).2.1⟩
  | bare hletter | plus hletter | minus hletter =>
    rintro c ⟨⟩
    rcases hletter with rfl | rfl <;> exact ⟨by decide, by decide⟩

theorem head?_fraction {rest : List Char} (h : ∀ c ∈ rest.head?, Digit.ofChar? c = none ∧ c ≠ '.')
    (fraction : List Digit) :
    ∀ c ∈ (fractionChars fraction ++ rest).head?, Digit.ofChar? c = none := by
  cases fraction with
  | nil => exact fun c hc => (h c hc).1
  | cons d ds =>
    rintro c ⟨⟩
    decide

theorem scanNumber?_append {rest : List Char} (h : Ends rest) {n : Numeral} {cs : List Char}
    (hcs : n.Spelling cs) : scanNumber? (cs ++ rest) = some (n, rest) := by
  obtain ⟨⟨hwhole, hzero⟩, power, hpower, rfl⟩ := hcs
  obtain ⟨negative, whole, fraction, exponent⟩ := n
  have hexponent := scanExponent?_append h hpower
  have hfraction := scanFraction?_append (head?_power h hpower) fraction
  have hdigits := scanDigits_append (head?_fraction (head?_power h hpower) fraction) whole
  obtain ⟨d, ds, rfl⟩ := List.exists_cons_of_ne_nil hwhole
  obtain ⟨hminus, -⟩ := Digit.char_ne_sign d
  cases ds with
  | nil =>
    simp only [List.map_cons, List.map_nil, List.cons_append, List.nil_append] at hdigits
    cases negative <;>
      simp [scanNumber?, signChars, hminus, hdigits, hfraction, hexponent]
  | cons d' ds =>
    have hd : d ≠ 0 := fun hd => hzero d' ds (by rw [hd]; rfl)
    simp only [List.map_cons, List.cons_append] at hdigits
    cases negative <;>
      simp [scanNumber?, signChars, hminus, hdigits, hfraction, hexponent, hd]

/-! ## String literals -/

/-- The spellings of one character, or half of a surrogate pair, in a string literal. -/
inductive Piece.Spelling : Piece → List Char → Prop
  | plain {c : Char} (hc : 0x20 ≤ c.toNat) (hquote : c ≠ '"') (hbackslash : c ≠ '\\') :
    Spelling (.char c) [c]
  | letter {l c : Char} (h : unescape? l = some c) : Spelling (.char c) ['\\', l]
  | unit {a b c d : Char} {unit : Nat} (h : hexNumber? a b c d = some unit) :
    Spelling (.ofUnit unit) ['\\', 'u', a, b, c, d]

/-- The spellings of what stands between the quotes of a string literal. -/
inductive LiteralSpelling : List Piece → List Char → Prop
  | nil : LiteralSpelling [] []
  | cons {piece : Piece} {pieces : List Piece} {w cs : List Char} (hw : piece.Spelling w)
    (hcs : LiteralSpelling pieces cs) : LiteralSpelling (piece :: pieces) (w ++ cs)

theorem scanPieces_append {pieces : List Piece} {cs : List Char} (h : LiteralSpelling pieces cs)
    (rest : List Char) : scanPieces (cs ++ '"' :: rest) = some (pieces, rest) := by
  induction h with
  | nil => rfl
  | cons hw hcs ih =>
    cases hw with
    | plain hc hquote hbackslash =>
      have hc : ¬ _ < 0x20 := not_lt.mpr hc
      simp [scanPieces, hbackslash, hc, ih]
    | @letter l c h =>
      have hu : l ≠ 'u' := by rintro rfl; cases h
      simp [scanPieces, hu, h, ih]
    | unit h => simp [scanPieces, h, ih]

/-! ## Words -/

/-- The spellings of a word. -/
inductive Token.Spelling : Token → List Char → Prop
  | openArray : Spelling .openArray ['[']
  | closeArray : Spelling .closeArray [']']
  | openObject : Spelling .openObject ['\x7b']
  | closeObject : Spelling .closeObject ['\x7d']
  | colon : Spelling .colon [':']
  | comma : Spelling .comma [',']
  | null : Spelling .null ['n', 'u', 'l', 'l']
  | true : Spelling (.bool true) ['t', 'r', 'u', 'e']
  | false : Spelling (.bool false) ['f', 'a', 'l', 's', 'e']
  | number {n : Numeral} {cs : List Char} (h : n.Spelling cs) : Spelling (.number n) cs
  | string {pieces : List Piece} {cs : List Char} (h : LiteralSpelling pieces cs) :
    Spelling (.string ((textOfPieces? pieces).map String.ofList)) ('"' :: cs ++ ['"'])

theorem Token.scanOne?_digit (d : Digit) (cs : List Char) : scanOne? d.char cs =
    (scanNumber? (d.char :: cs)).map fun (n, rest) => (.number n, rest) := by
  match d with
  | 0 | 1 | 2 | 3 | 4 | 5 | 6 | 7 | 8 | 9 => rfl

theorem Token.isBlank_digit (d : Digit) : isBlank d.char = false := by
  revert d
  decide

/-- A number starts with its sign or with a digit. -/
theorem eq_cons_of_spelling {n : Numeral} {cs : List Char} (h : n.Spelling cs) :
    ∃ c tail, cs = c :: tail ∧ (c = '-' ∨ ∃ d : Digit, c = d.char) := by
  obtain ⟨⟨hwhole, -⟩, power, -, rfl⟩ := h
  obtain ⟨d, ds, hds⟩ := List.exists_cons_of_ne_nil hwhole
  cases hnegative : n.negative with
  | true => exact ⟨'-', _, rfl, .inl rfl⟩
  | false => exact ⟨d.char, _, by simp [signChars, hds]; rfl, .inr ⟨d, rfl⟩⟩

namespace Token

/-- A word is found where it stands, unless it is a number that runs into what follows. -/
theorem scanOne?_append {t : Token} {w : List Char} (h : t.Spelling w) {rest : List Char}
    (hrest : (∃ n, t = .number n) → Ends rest) :
    ∃ c tail, w = c :: tail ∧ isBlank c = false ∧ scanOne? c (tail ++ rest) = some (t, rest) := by
  cases h with
  | openArray | closeArray | openObject | closeObject | colon | comma | null | true | false =>
    exact ⟨_, _, rfl, rfl, rfl⟩
  | number h =>
    have hscan := scanNumber?_append (hrest ⟨_, rfl⟩) h
    obtain ⟨c, tail, rfl, hc⟩ := eq_cons_of_spelling h
    refine ⟨c, tail, rfl, ?_⟩
    rcases hc with rfl | ⟨d, rfl⟩
    · refine ⟨rfl, ?_⟩
      change (scanNumber? ('-' :: tail ++ rest)).map _ = _
      rw [hscan]
      rfl
    · refine ⟨isBlank_digit d, ?_⟩
      rw [scanOne?_digit, ← List.cons_append, hscan]
      rfl
  | string h =>
    refine ⟨'"', _, rfl, rfl, ?_⟩
    simp [scanOne?, scanPieces_append h rest]

/-! ## Texts -/

/-- The spellings of a text: its words in their order, and blanks anywhere around them. -/
inductive Spelled : List Token → List Char → Prop
  | done : Spelled [] []
  | blank {c : Char} {ts : List Token} {cs : List Char} (hc : isBlank c) (h : Spelled ts cs) :
    Spelled ts (c :: cs)
  | word {t : Token} {ts : List Token} {w cs : List Char} (hw : t.Spelling w) (h : Spelled ts cs) :
    Spelled (t :: ts) (w ++ cs)

/-- A word that no number runs into. -/
def EndsNumber (t : Token) : Prop := t = comma ∨ t = closeArray ∨ t = closeObject

/-- No number stands before a word that it could run into. -/
def Separated (ts : List Token) : Prop :=
  ts.IsChain fun t next => (∃ n, t = .number n) → next.EndsNumber

theorem ends_of_spelled {ts : List Token} {cs : List Char} (h : Spelled ts cs)
    (hts : ∀ t ∈ ts.head?, t.EndsNumber) : Ends cs := by
  cases h with
  | done => rintro c ⟨⟩
  | blank hc h =>
    rintro c ⟨⟩
    simp only [isBlank, Bool.or_eq_true, decide_eq_true_eq] at hc
    rcases hc with ((rfl | rfl) | rfl) | rfl <;> decide
  | word hw h =>
    rcases hts _ rfl with rfl | rfl | rfl <;> cases hw <;> rintro c ⟨⟩ <;> decide

theorem scanFrom?_of_spelled {ts : List Token} {cs : List Char} (h : Spelled ts cs)
    (hts : Separated ts) {limit : Nat} (hlimit : cs.length ≤ limit) (found : List Token) :
    scanFrom? limit found cs = some (found.reverse ++ ts) := by
  induction h generalizing limit found with
  | done => simp [scanFrom?]
  | blank hc h ih =>
    obtain ⟨limit, rfl⟩ : ∃ m, limit = m + 1 := Nat.exists_eq_add_one.mpr (by simp at hlimit; omega)
    simp [scanFrom?, hc, ih hts (by simpa using hlimit)]
  | @word t ts w cs hw h ih =>
    have hrest : (∃ n, t = .number n) → Ends cs := fun hn =>
      ends_of_spelled h fun next hnext => (List.isChain_cons.mp hts).1 next hnext hn
    obtain ⟨c, tail, rfl, hblank, hone⟩ := scanOne?_append hw hrest
    have hlength : cs.length + 1 ≤ limit := by simp at hlimit; omega
    obtain ⟨limit, rfl⟩ : ∃ m, limit = m + 1 := Nat.exists_eq_add_one.mpr (by omega)
    have hrec := ih (List.isChain_cons.mp hts).2 (Nat.le_of_succ_le_succ hlength) (t :: found)
    simp [scanFrom?, hblank, hone, hrec]

/-- The words of a text are found however they are spelled. -/
theorem scan?_of_spelled {ts : List Token} {cs : List Char} (h : Spelled ts cs)
    (hts : Separated ts) : scan? cs = some ts :=
  scanFrom?_of_spelled h hts le_rfl []

end Token

end Json

end StageMotion
