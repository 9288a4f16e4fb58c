import StageMotion.Proofs.Json.Reading

/-!
# Printing JSON

The text of a value spells it if its numbers are proper (`Json.written_text`), and so it is read as
that value again (`Json.parse?_text`). Every character has a spelling in a literal that stands for
it and nothing else (`Json.spelling_escapeChar`), so strings come back as they are.
-/

namespace StageMotion

/-! ## Numbers -/

theorem powerSpelling_exponentChars (e : Int) :
    PowerSpelling (some e) (Numeral.exponentChars e) := by
  have hdigits := digitsFrom_digitsOf e.natAbs
  have hne := digitsOf_ne_nil e.natAbs
  rw [Numeral.exponentChars]
  split
  · have he : e = -digitsFrom 0 (digitsOf e.natAbs) := by omega
    nth_rewrite 1 [he]
    exact .minus (.inl rfl) hne
  · have he : e = digitsFrom 0 (digitsOf e.natAbs) := by omega
    nth_rewrite 1 [he]
    exact .plus (.inl rfl) hne

theorem Numeral.spelling_chars {n : Numeral} (h : n.IsProper) : n.Spelling n.chars := by
  refine ⟨h, _, ?_, rfl⟩
  cases n.exponent with
  | none => exact .absent
  | some e => exact powerSpelling_exponentChars e

namespace Json

/-! ## Strings -/

/-- Every code of a control character is read from the two digits that are written for it. -/
theorem hexNumber?_hexChar {n : Nat} (h : n < 32) :
    hexNumber? '0' '0' (hexChar (n / 16)) (hexChar (n % 16)) = some n := by
  revert n
  decide

theorem spelling_escapeChar (c : Char) : (Piece.char c).Spelling (escapeChar c) := by
  unfold escapeChar
  split
  case isTrue hc => subst hc; exact .letter rfl
  split
  case isTrue hc => subst hc; exact .letter rfl
  split
  case isFalse hquote hbackslash hcontrol => exact .plain (by omega) hquote hbackslash
  case isTrue hcontrol =>
    split
    case h_1 | h_2 | h_3 | h_4 | h_5 => exact .letter rfl
    case h_6 =>
      have hunit : Piece.ofUnit c.toNat = .char c := by
        rw [Piece.ofUnit, if_neg (by omega), Char.ofNat_toNat]
      exact hunit ▸ .unit (hexNumber?_hexChar hcontrol)

theorem literalSpelling_escape (text : List Char) :
    LiteralSpelling (text.map .char) (escape text) := by
  induction text with
  | nil => exact .nil
  | cons c text ih => exact .cons (spelling_escapeChar c) ih

theorem textOfPieces?_map_char (text : List Char) : textOfPieces? (text.map .char) = some text := by
  induction text with
  | nil => rfl
  | cons c text ih => simp [textOfPieces?, ih]

/-! ## Words -/

theorem Token.spelling_chars {t : Token} (h : ∀ n, t = .number n → n.IsProper) :
    t.Spelling t.chars := by
  match t with
  | openArray | closeArray | openObject | closeObject | colon | comma | null | bool true
  | bool false => constructor
  | number n => exact .number (Numeral.spelling_chars (h n rfl))
  | string (some text) =>
    have htext := Token.Spelling.string (literalSpelling_escape text.toList)
    rwa [textOfPieces?_map_char, Option.map_some, String.ofList_toList] at htext
  | string none =>
    have hhalf : hexNumber? 'd' '8' '0' '0' = some 0xD800 := by decide
    exact .string (.cons (.unit hhalf) .nil)

theorem Token.spelled_chars {ts : List Token} (h : ∀ n, .number n ∈ ts → n.IsProper) :
    Spelled ts (ts.flatMap chars) := by
  induction ts with
  | nil => exact .done
  | cons t ts ih =>
    exact .word (spelling_chars fun n hn => h n (by simp [hn])) (ih fun n hn => h n (by simp [hn]))

/-! ## Values -/

/-- All numbers of a value are proper. -/
def Proper (j : Json) : Prop := ∀ n, .number n ∈ j.tokens → n.IsProper

/-- The text of a value spells it. -/
theorem written_text {j : Json} (h : j.Proper) : j.Written j.text := by
  rw [Written, text, String.toList_ofList]
  exact Token.spelled_chars h

/-- The text of a value is read as that value. -/
theorem parse?_text {j : Json} (h : j.Proper) : parse? j.text = some j :=
  parse?_of_written (written_text h)

theorem proper_null : null.Proper := by simp [Proper, tokens]

theorem proper_bool (b : Bool) : (bool b).Proper := by simp [Proper, tokens]

theorem proper_string (text : Option String) : (string text).Proper := by simp [Proper, tokens]

theorem proper_number {n : Numeral} (h : n.IsProper) : (number n).Proper := by
  intro m hm
  simp only [tokens, List.mem_singleton, Token.number.injEq] at hm
  exact hm ▸ h

theorem mem_itemTokens {t : Token} (ht : t ≠ .comma) (items : List Json) :
    t ∈ itemTokens items ↔ ∃ item ∈ items, t ∈ item.tokens := by
  induction items with
  | nil => simp [itemTokens]
  | cons item items ih => simp [itemTokens, ht, ih]

theorem mem_membersTokens {n : Numeral} (members : List (Option String × Json)) :
    .number n ∈ membersTokens members ↔ ∃ member ∈ members, .number n ∈ member.2.tokens := by
  induction members with
  | nil => simp [membersTokens]
  | cons member members ih =>
    obtain ⟨key, value⟩ := member
    simp [membersTokens, memberTokens, ih]

theorem proper_array {items : List Json} (h : ∀ item ∈ items, item.Proper) :
    (array items).Proper := by
  intro n hn
  cases items with
  | nil => simp [tokens] at hn
  | cons item items =>
    have hmem : .number n ∈ item.tokens ∨ ∃ item' ∈ items, .number n ∈ item'.tokens := by
      simpa [tokens, mem_itemTokens] using hn
    rcases hmem with hn | ⟨item', hitem, hn⟩
    · exact h item (by simp) n hn
    · exact h item' (by simp [hitem]) n hn

theorem proper_object {members : List (Option String × Json)}
    (h : ∀ member ∈ members, member.2.Proper) : (object members).Proper := by
  intro n hn
  cases members with
  | nil => simp [tokens] at hn
  | cons member members =>
    obtain ⟨key, value⟩ := member
    have hmem : .number n ∈ value.tokens ∨ ∃ member ∈ members, .number n ∈ member.2.tokens := by
      simpa [tokens, memberTokens, mem_membersTokens] using hn
    rcases hmem with hn | ⟨member, hmember, hn⟩
    · exact h (key, value) (by simp) n hn
    · exact h member (by simp [hmember]) n hn

end Json

end StageMotion
