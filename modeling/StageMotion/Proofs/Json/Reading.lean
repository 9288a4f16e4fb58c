import StageMotion.Json
import StageMotion.Proofs.Json.Spelling

/-!
# Reading JSON

A text is read as the value it spells (`Json.parse?_of_written`), wherever its blanks are and
however its numbers and strings are spelled. The machine that reads words is followed over the words
of a value: started where a value may stand, it ends behind that value with the stack as it was
(`Json.run?_tokens`).
-/

namespace StageMotion.Json

open Token

/-! ## Words in a row -/

/-- No value starts with the end of an array. -/
theorem tokens_eq_cons (j : Json) : ∃ t ts, j.tokens = t :: ts ∧ t ≠ closeArray := by
  cases j with
  | null | bool | number | string => exact ⟨_, _, rfl, by simp⟩
  | array items => cases items <;> exact ⟨_, _, rfl, by simp⟩
  | object members => cases members <;> exact ⟨_, _, rfl, by simp⟩

/-- The first item of an array is read as any other. -/
theorem run?_firstItem (j : Json) (stack : List Frame) (rest : List Token) :
    run? (.firstItem stack) (j.tokens ++ rest) =
      run? (.value (.array [] :: stack)) (j.tokens ++ rest) := by
  obtain ⟨t, ts, hts, ht⟩ := tokens_eq_cons j
  rw [hts, List.cons_append, run?, run?]
  cases t with
  | closeArray => exact absurd rfl ht
  | _ => rfl

mutual

theorem run?_tokens (j : Json) (stack : List Frame) (rest : List Token) :
    run? (.value stack) (j.tokens ++ rest) = run? (.after stack j) rest := by
  match j with
  | null | bool _ | number _ | string _ | array [] | object [] => rfl
  | array (item :: items) =>
    calc run? (.value stack) ((array (item :: items)).tokens ++ rest)
      _ = run? (.firstItem stack) (item.tokens ++ (itemTokens items ++ closeArray :: rest)) := by
        simp [tokens, run?, step?, begin?]
      _ = run? (.after (.array [] :: stack) item) (itemTokens items ++ closeArray :: rest) := by
        rw [run?_firstItem, run?_tokens item]
      _ = run? (.after stack (array (item :: items))) rest :=
        run?_itemTokens items [] item stack rest
  | object (member :: members) =>
    calc run? (.value stack) ((object (member :: members)).tokens ++ rest)
      _ = run? (.nextKey [] stack)
          (memberTokens member ++ (membersTokens members ++ closeObject :: rest)) := by
        obtain ⟨key, value⟩ := member
        simp [tokens, memberTokens, run?, step?, begin?]
      _ = run? (.after (.object [] member.1 :: stack) member.2)
          (membersTokens members ++ closeObject :: rest) := run?_memberTokens member [] stack _
      _ = run? (.after stack (object (member :: members))) rest :=
        run?_membersTokens members [] member stack rest

theorem run?_itemTokens (items before : List Json) (v : Json) (stack : List Frame)
    (rest : List Token) :
    run? (.after (.array before :: stack) v) (itemTokens items ++ closeArray :: rest) =
      run? (.after stack (.array (before.reverse ++ v :: items))) rest := by
  match items with
  | [] => simp [itemTokens, run?, step?]
  | item :: items =>
    have hitem := run?_tokens item (.array (v :: before) :: stack)
      (itemTokens items ++ closeArray :: rest)
    have hitems := run?_itemTokens items (v :: before) item stack rest
    simp [itemTokens, run?, step?, hitem, hitems]

theorem run?_memberTokens (member : Option String × Json) (before : List (Option String × Json))
    (stack : List Frame) (rest : List Token) :
    run? (.nextKey before stack) (memberTokens member ++ rest) =
      run? (.after (.object before member.1 :: stack) member.2) rest := by
  match member with
  | (key, value) => exact run?_tokens value (.object before key :: stack) rest

theorem run?_membersTokens (members before : List (Option String × Json))
    (member : Option String × Json) (stack : List Frame) (rest : List Token) :
    run? (.after (.object before member.1 :: stack) member.2)
        (membersTokens members ++ closeObject :: rest) =
      run? (.after stack (.object (before.reverse ++ member :: members))) rest := by
  match members with
  | [] => simp [membersTokens, run?, step?]
  | next :: members =>
    have hnext := run?_memberTokens next (member :: before) stack
      (membersTokens members ++ closeObject :: rest)
    have hmembers := run?_membersTokens members (member :: before) next stack rest
    simp [membersTokens, run?, step?, hnext, hmembers]

end

theorem ofTokens?_tokens (j : Json) : ofTokens? j.tokens = some j := by
  have h := run?_tokens j [] []
  rw [List.append_nil] at h
  simp [ofTokens?, h, run?]

/-! ## Numbers in a value are separated -/

theorem separated_cons {t : Token} {ts : List Token} (ht : ∀ n, t ≠ .number n)
    (hts : Separated ts) : Separated (t :: ts) :=
  List.isChain_cons.mpr ⟨fun _ _ ⟨n, hn⟩ => absurd hn (ht n), hts⟩

theorem endsNumber_itemTokens (items : List Json) (rest : List Token) :
    ∀ t ∈ (itemTokens items ++ closeArray :: rest).head?, t.EndsNumber := by
  cases items with
  | nil => rintro t ⟨⟩; exact .inr (.inl rfl)
  | cons => rintro t ⟨⟩; exact .inl rfl

theorem endsNumber_membersTokens (members : List (Option String × Json)) (rest : List Token) :
    ∀ t ∈ (membersTokens members ++ closeObject :: rest).head?, t.EndsNumber := by
  cases members with
  | nil => rintro t ⟨⟩; exact .inr (.inr rfl)
  | cons => rintro t ⟨⟩; exact .inl rfl

mutual

theorem separated_tokens (j : Json) {rest : List Token} (hrest : Separated rest)
    (hends : ∀ t ∈ rest.head?, t.EndsNumber) : Separated (j.tokens ++ rest) := by
  match j with
  | null | bool _ | string _ => exact separated_cons (by simp) hrest
  | number n => exact List.isChain_cons.mpr ⟨fun t ht _ => hends t ht, hrest⟩
  | array [] | object [] => exact separated_cons (by simp) (separated_cons (by simp) hrest)
  | array (item :: items) =>
    have hitems := separated_itemTokens items hrest
    have hitem := separated_tokens item hitems (endsNumber_itemTokens items rest)
    simpa [tokens] using separated_cons (by simp) hitem
  | object (member :: members) =>
    have hmembers := separated_membersTokens members hrest
    have hmember := separated_memberTokens member hmembers (endsNumber_membersTokens members rest)
    simpa [tokens] using separated_cons (by simp) hmember

theorem separated_itemTokens (items : List Json) {rest : List Token} (hrest : Separated rest) :
    Separated (itemTokens items ++ closeArray :: rest) := by
  match items with
  | [] => exact separated_cons (by simp) hrest
  | item :: items =>
    have hitems := separated_itemTokens items hrest
    have hitem := separated_tokens item hitems (endsNumber_itemTokens items rest)
    simpa [itemTokens] using separated_cons (by simp) hitem

theorem separated_memberTokens (member : Option String × Json) {rest : List Token}
    (hrest : Separated rest) (hends : ∀ t ∈ rest.head?, t.EndsNumber) :
    Separated (memberTokens member ++ rest) := by
  match member with
  | (key, value) =>
    exact separated_cons (by simp) (separated_cons (by simp) (separated_tokens value hrest hends))

theorem separated_membersTokens (members : List (Option String × Json)) {rest : List Token}
    (hrest : Separated rest) : Separated (membersTokens members ++ closeObject :: rest) := by
  match members with
  | [] => exact separated_cons (by simp) hrest
  | member :: members =>
    have hmembers := separated_membersTokens members hrest
    have hmember := separated_memberTokens member hmembers (endsNumber_membersTokens members rest)
    simpa [membersTokens] using separated_cons (by simp) hmember

end

/-! ## Texts -/

/-- A text spells a value. -/
def Written (j : Json) (text : String) : Prop := Spelled j.tokens text.toList

/-- A text is read as the value it spells. -/
theorem parse?_of_written {j : Json} {text : String} (h : j.Written text) :
    parse? text = some j := by
  have hseparated : Separated j.tokens := by
    have hnil : Separated [] := .nil
    simpa using separated_tokens j hnil (by rintro t ⟨⟩)
  simp [parse?, scan?_of_spelled h hseparated, ofTokens?_tokens]

end StageMotion.Json
