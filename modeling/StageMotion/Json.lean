import StageMotion.Json.Token

/-!
# JSON values

JSON texts as trees. Objects keep all their members in the order in which they are written, and
numbers keep their digits.

* `Json` : the trees;
* `Json.tokens`, `Json.text` : a tree as a text without blanks;
* `Json.parse?` : the tree of a text.

Reading runs a machine with a stack of unfinished arrays and objects over the tokens, so a text may
nest as deeply as it likes.
-/

namespace StageMotion

/-- A JSON value. Strings and keys have no text if they hold half of a surrogate pair. -/
inductive Json
  | null
  | bool (value : Bool)
  | number (numeral : Numeral)
  | string (text : Option String)
  | array (items : List Json)
  | object (members : List (Option String × Json))
  deriving Repr

namespace Json

/-! ## Writing -/

mutual

/-- The words of a value. -/
def tokens : Json → List Token
  | null => [.null]
  | bool b => [.bool b]
  | number n => [.number n]
  | string s => [.string s]
  | array [] => [.openArray, .closeArray]
  | array (item :: items) => .openArray :: item.tokens ++ itemTokens items ++ [.closeArray]
  | object [] => [.openObject, .closeObject]
  | object (member :: members) =>
    .openObject :: memberTokens member ++ membersTokens members ++ [.closeObject]

/-- The words of further items of an array. -/
def itemTokens : List Json → List Token
  | [] => []
  | item :: items => .comma :: item.tokens ++ itemTokens items

/-- The words of a member of an object. -/
def memberTokens : Option String × Json → List Token
  | (key, value) => .string key :: .colon :: value.tokens

/-- The words of further members of an object. -/
def membersTokens : List (Option String × Json) → List Token
  | [] => []
  | member :: members => .comma :: memberTokens member ++ membersTokens members

end

/-- A value as a text without blanks. -/
def text (j : Json) : String := String.ofList (j.tokens.flatMap Token.chars)

/-! ## Reading -/

/-- An array or object that is not complete: what stands before the value that is being read,
the latest first. -/
inductive Frame
  | array (before : List Json)
  | object (before : List (Option String × Json)) (key : Option String)

/-- What may follow. -/
inductive State
  /-- A value. -/
  | value (stack : List Frame)
  /-- The first item of an array, or its end. -/
  | firstItem (stack : List Frame)
  /-- The first key of an object, or its end. -/
  | firstKey (stack : List Frame)
  /-- The next key of an object. -/
  | nextKey (before : List (Option String × Json)) (stack : List Frame)
  /-- The colon behind a key. -/
  | colon (before : List (Option String × Json)) (key : Option String) (stack : List Frame)
  /-- What goes on behind a complete value. -/
  | after (stack : List Frame) (value : Json)

/-- The state after the first word of a value. -/
def begin? (stack : List Frame) : Token → Option State
  | .null => some (.after stack .null)
  | .bool b => some (.after stack (.bool b))
  | .number n => some (.after stack (.number n))
  | .string s => some (.after stack (.string s))
  | .openArray => some (.firstItem stack)
  | .openObject => some (.firstKey stack)
  | _ => none

/-- The state after one more word, if it may stand there. -/
def step? : State → Token → Option State
  | .value stack, token => begin? stack token
  | .firstItem stack, .closeArray => some (.after stack (.array []))
  | .firstItem stack, token => begin? (.array [] :: stack) token
  | .firstKey stack, .closeObject => some (.after stack (.object []))
  | .firstKey stack, .string key => some (.colon [] key stack)
  | .nextKey before stack, .string key => some (.colon before key stack)
  | .colon before key stack, .colon => some (.value (.object before key :: stack))
  | .after (.array before :: stack) v, .comma => some (.value (.array (v :: before) :: stack))
  | .after (.array before :: stack) v, .closeArray =>
    some (.after stack (.array (v :: before).reverse))
  | .after (.object before key :: stack) v, .comma => some (.nextKey ((key, v) :: before) stack)
  | .after (.object before key :: stack) v, .closeObject =>
    some (.after stack (.object ((key, v) :: before).reverse))
  | _, _ => none

/-- The state after a list of words. -/
def run? : State → List Token → Option State
  | state, [] => some state
  | state, token :: tokens =>
    match step? state token with
    | some state => run? state tokens
    | none => none

/-- The value of a list of words. -/
def ofTokens? (tokens : List Token) : Option Json :=
  match run? (.value []) tokens with
  | some (.after [] v) => some v
  | _ => none

/-- The value of a text. -/
def parse? (text : String) : Option Json := (Token.scan? text.toList).bind ofTokens?

end Json

end StageMotion
