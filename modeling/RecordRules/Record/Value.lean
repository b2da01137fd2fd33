/-
  Values of record fields, and records as what can be asked for fields by name.
-/
import RecordRules.Date
import RecordRules.Decimal.Read
import RecordRules.Entries
import RecordRules.Json.Print
import RecordRules.Text.Blank

namespace RecordRules

/-- The value of a field. -/
inductive Value
  | text (s : String)
  | number (d : Decimal)
  | date (d : Date)
  | bool (b : Bool)
  | other (json : Json)

namespace Value

/-- The value of a JSON value: none of null. A number too great or too small is kept as it is. -/
def ofJson : Json → Option Value
  | .null => none
  | .bool b => some (bool b)
  | .text s => some (text s)
  | .number n =>
    match Decimal.ofText? n.text with
    | some d => some (number d)
    | none => some (other (.number n))
  | json => some (other json)

/-- Whether a value is a text of white space only. -/
def isBlank : Value → Bool
  | text s => Text.isBlankText s
  | _ => false

/-- The value as messages show it. -/
def shown : Value → String
  | text s => s
  | number d => d.text
  | date d => d.text
  | bool b => toString b
  | other json => json.print

end Value

/-- Why a field cannot be read. -/
inductive AccessFault
  | unknown (field : String)
  | unreadable (field reason : String)
deriving DecidableEq, Repr

namespace AccessFault

/-- The wording of a fault. -/
def message : AccessFault → String
  | unknown field => "record has no field '" ++ field ++ "'"
  | unreadable field reason => "field '" ++ field ++ "' could not be read: " ++ reason

/-- The message of the violation that a fault counts as. -/
def violation : AccessFault → String
  | unknown _ => "Field definition mismatch."
  | unreadable .. => "Error accessing field value."

end AccessFault

/-- A record: the name of its type, and what it answers when asked for a field. A field without a
    value is readable. -/
structure Record where
  typeName : String
  field : String → Except AccessFault (Option Value)

/-- The record of a JSON object. A member that is missing has no value. -/
def Record.ofMembers (typeName : String) (members : List (String × Json)) : Record where
  typeName
  field name := .ok ((members.lookup name).bind Value.ofJson)

/-- The record of a JSON value that is an object. -/
def Record.ofJson? (typeName : String) : Json → Option Record
  | .object members => some (.ofMembers typeName members)
  | _ => none

end RecordRules
