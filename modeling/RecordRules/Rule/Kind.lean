/-
  The kinds of fields that rules know.
-/
import RecordRules.Text.Ascii

namespace RecordRules

/-- What kind of values a field has. Fields of an unknown kind are not checked. -/
inductive Kind
  | string
  | number
  | date
  | unknown (name : String)
deriving DecidableEq, Repr

namespace Kind

/-- The kind of a name. The case of letters does not count. -/
def ofName (name : String) : Kind :=
  match Text.lower name with
  | "string" => string
  | "number" => number
  | "date" => date
  | _ => unknown name

/-- The name of a kind; an unknown kind's is as it was written. -/
def name : Kind → String
  | string => "string"
  | number => "number"
  | date => "date"
  | unknown name => name

end Kind

end RecordRules
