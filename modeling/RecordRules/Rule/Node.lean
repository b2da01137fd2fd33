/-
  Rule nodes: what is declared for one field, as properties with JSON values. A property is looked at
  when it is needed, and only then can its value turn out to be unusable.
-/
import RecordRules.Decimal.Read
import RecordRules.Entries
import RecordRules.Json.Print
import RecordRules.Pattern
import RecordRules.Rule.Defect
import RecordRules.Rule.Kind

namespace RecordRules

/-- A JSON value as a text: texts as they are, other values as they are printed. -/
def Json.asText : Json → String
  | .text s => s
  | json => json.print

/-- The properties declared for one field. -/
structure Node where
  properties : Entries Json

namespace Node

instance : Inhabited Node := ⟨⟨.empty⟩⟩

/-- The property that points to a definition. -/
def referenceKey : String := "$ref"

/-- The complaint about a value that has to be an object. -/
def notAnObject (json : Json) : String := "expected an object, got " ++ json.typeName

/-- The node of a JSON object. -/
def ofJson (field : String) : Json → Except Defect Node
  | .object members => .ok ⟨.ofList members⟩
  | json => .error (.badRule field "<node>" (notAnObject json))

/-- The value of a property. -/
def find? (n : Node) (property : String) : Option Json := n.properties.find? property

/-- A node with a property set. -/
def insert (n : Node) (property : String) (value : Json) : Node :=
  ⟨n.properties.insert property value⟩

/-- The JSON object of a node. -/
def toJson (n : Node) : Json := .object n.properties.list

/-- The text of a node. -/
def print (n : Node) : String := n.toJson.print

/-- The pointer to a definition. A pointer that is no text is taken by its JSON text. -/
def reference? (n : Node) : Option String := (n.find? referenceKey).map Json.asText

/-- Whether the field has to have a value. -/
def isRequired (n : Node) : Bool :=
  match n.find? "required" with
  | some (.bool b) => b
  | some (.text s) => Text.sameLetters s "true"
  | _ => false

/-- The kind of the field: text, if none is declared. -/
def kind (n : Node) : Kind :=
  match n.find? "type" with
  | some (.text s) => .ofName s
  | some json => .unknown json.print
  | none => .string

/-- The text of a property. -/
def text? (n : Node) (property : String) : Option String := (n.find? property).bind Json.text?

/-! ## Constraints -/

/-- Lengths have to fit 64 bits. -/
def lengthLimit : Nat := 0x10000000000000000

/-- The number of a text of digits, with a plus sign or without. -/
def lengthOfChars? : List Char → Option Nat
  | '+' :: cs => Digits.natOf? cs
  | cs => Digits.natOf? cs

/-- The length that a value gives: a natural number, or a text of one. -/
def lengthOf? (json : Json) : Option Nat :=
  let n? := match json with
    | .number n => n.nat?
    | .text s => lengthOfChars? (Text.trimChars s.toList)
    | _ => none
  n?.filter (· < lengthLimit)

/-- The decimal number that a value gives. -/
def decimalOf? : Json → Option Decimal
  | .number n => Decimal.ofText? n.text
  | .text s => Decimal.ofText? s
  | _ => none

/-- A property that bounds a length. -/
def length (n : Node) (field property : String) : Except Defect (Option Nat) :=
  match n.find? property with
  | none => .ok none
  | some json =>
    match lengthOf? json with
    | some limit => .ok (some limit)
    | none => .error (.badRule field property ("not a length: " ++ json.print))

/-- A property that bounds a number. -/
def decimal (n : Node) (field property : String) : Except Defect (Option Decimal) :=
  match n.find? property with
  | none => .ok none
  | some json =>
    match decimalOf? json with
    | some limit => .ok (some limit)
    | none => .error (.badRule field property ("not a decimal: " ++ json.print))

/-- The pattern that a text has to fit. -/
def pattern (n : Node) (field : String) : Except Defect (Option Pattern) :=
  match n.find? "pattern" with
  | none => .ok none
  | some (.text text) =>
    match Pattern.compile text with
    | .ok p => .ok (some p)
    | .error d => .error (.badPattern field text d.message)
  | some json => .error (.badRule field "pattern" ("expected a string, got " ++ json.typeName))

/-- The texts that are allowed, in order. Items that are no texts count by their JSON text. -/
def allowed (n : Node) (field : String) : Except Defect (Option (List String)) :=
  match n.find? "allowedValues" with
  | none => .ok none
  | some (.array items) => .ok (some (items.map Json.asText))
  | some json =>
    .error (.badRule field "allowedValues" ("expected an array, got " ++ json.typeName))

/-- Finds the first constraint that cannot be used. -/
def check (n : Node) (field : String) : Except Defect Unit := do
  let _ ← n.length field "minLength"
  let _ ← n.length field "maxLength"
  let _ ← n.pattern field
  let _ ← n.allowed field
  let _ ← n.decimal field "minValue"
  let _ ← n.decimal field "maxValue"

end Node

end RecordRules
