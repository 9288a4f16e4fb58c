import StageMotion.Decimal.Layout
import StageMotion.Json

/-!
# Values as JSON

`JsonCodec` says how the values of a type are written as JSON, and which JSON is read as one. Most
types are records: an object with a member for each field, in which members that are no field are
skipped, or an array of the fields in their order.

* `JsonCodec` : writing and reading the values of a type;
* `Json.fields?` : the values of the fields of a record;
* `JsonCodec.print`, `JsonCodec.read?` : values as texts.
-/

namespace StageMotion

/-- How the values of a type are written and read. -/
class JsonCodec (β : Type) where
  encode : β → Json
  decode? : Json → Option β

namespace JsonCodec

variable {β : Type} [JsonCodec β]

/-- The text of a value. -/
def print (value : β) : String := (encode value).text

/-- The value of a text. -/
def read? (text : String) : Option β := (Json.parse? text).bind decode?

/-- The value of a field that has a default. -/
def decodeOr? (default : β) : Option Json → Option β
  | some j => decode? j
  | none => some default

end JsonCodec

namespace Json

/-! ## Records -/

/-- The value of a field among the members of an object: nothing if two members have its name, and
nothing inside if none has. -/
def member? (members : List (Option String × Json)) (name : String) : Option (Option Json) :=
  match members.filter fun member => member.1 = some name with
  | [] => some none
  | [member] => some (some member.2)
  | _ => none

/-- The values of the fields of a record, in the order of their names. A record is an object, in
which no field occurs twice and every key has a text, or an array of no more items than there are
fields and at least `least`. Missing fields have no value. -/
def fields? (names : List String) (least : Nat) : Json → Option (List (Option Json))
  | object members =>
    if members.all fun member => member.1.isSome then names.mapM (member? members) else none
  | array items =>
    if least ≤ items.length ∧ items.length ≤ names.length then
      some (items.map some ++ List.replicate (names.length - items.length) none)
    else none
  | _ => none

/-- A record as an object. -/
def record (members : List (String × Json)) : Json :=
  object (members.map fun (name, value) => (some name, value))

/-- A text. -/
def ofString (text : String) : Json := string (some text)

/-- The text of a string. -/
def string? : Json → Option String
  | string text => text
  | _ => none

end Json

namespace JsonCodec

/-! ## Plain values -/

/-- Numbers in JSON have the fewest digits that read back, with at least one behind the point; an
exponent is written below `10 ^ -5` and from `10 ^ 16` on. -/
def numberLayout : Layout where
  tie := .toEven
  positional e := -5 ≤ e ∧ e < 16
  pointZero := true

/-- JSON has no infinities, and nothing that is no number; both are written as null. -/
instance : JsonCodec Float where
  encode x := if x.isFinite then .number (numberLayout.ofFloat x) else .null
  decode?
    | .number n => n.toFloat?
    | _ => none

instance : JsonCodec UInt64 where
  encode n := .number (.ofNat n.toNat)
  decode?
    | .number n => n.toUInt64?
    | _ => none

instance : JsonCodec Bool where
  encode := .bool
  decode?
    | .bool b => some b
    | _ => none

instance : JsonCodec String where
  encode := .ofString
  decode? := Json.string?

/-- A value that may be missing is null if it is. -/
instance {β : Type} [JsonCodec β] : JsonCodec (Option β) where
  encode
    | some value => encode value
    | none => .null
  decode?
    | .null => some none
    | j => (decode? j).map some

end JsonCodec

end StageMotion
