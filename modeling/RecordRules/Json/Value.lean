/-
  JSON values. Objects keep their members in order.
-/
import RecordRules.Json.Numeral

namespace RecordRules

/-- A JSON value. -/
inductive Json
  | null
  | bool (b : Bool)
  | number (n : Numeral)
  | text (s : String)
  | array (items : List Json)
  | object (members : List (String × Json))
deriving Repr, Inhabited

namespace Json

/-- The name of a value's type. -/
def typeName : Json → String
  | null => "null"
  | bool _ => "bool"
  | number _ => "number"
  | text _ => "string"
  | array _ => "array"
  | object _ => "object"

/-- The text of a text value. -/
def text? : Json → Option String
  | text s => some s
  | _ => none

/-- The value of a natural number. -/
def nat (n : Nat) : Json := number (Numeral.ofNat n)

end Json

end RecordRules
