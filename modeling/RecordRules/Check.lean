/-
  The check of one field's value against its resolved node.

  A field without a value, or with blank text, is missing: that is a violation if the field is
  required, and nothing else is checked. Any other value is checked by the kind of the field. The
  checks of a text and the bounds of a number add up; a value of the wrong kind is one violation.
  A constraint that cannot be used is a defect, which counts more than all violations.
-/
import RecordRules.Date.Strict
import RecordRules.Log.Line
import RecordRules.Record.Value
import RecordRules.Rule.Node
import RecordRules.Template

namespace RecordRules

/-- A rule that a field's value breaks. -/
structure Violation where
  field : String
  message : String
deriving DecidableEq, Repr

/-- What the checks of dates depend on: the day of the check, and which days are holidays. -/
structure Dates where
  today : Date
  isHoliday : Date → Bool

namespace Check

/-- The value that is checked: none of blank text. -/
def present (value : Option Value) : Option Value := value.filter fun v => !v.isBlank

/-- The message of a violation: the node's template under a property with values put in, or the
    default. -/
def message (rules : Node) (property default : String) (values : Template.Values) : String :=
  match rules.text? property with
  | some template => Template.render template values
  | none => default

/-- A check of a value: the field, the value as messages show it, and the rules. -/
structure Subject where
  field : String
  shown : String
  rules : Node

/-- A violation with the field and the value for its template, and further values. -/
def Subject.violation (s : Subject) (property default : String) (more : Template.Values := []) :
    Violation :=
  ⟨s.field, message s.rules property default ([("field", s.field), ("value", s.shown)] ++ more)⟩

/-- The violation of a missing value. -/
def missing (field : String) (rules : Node) : Violation :=
  ⟨field, message rules "errorMessageRequired" (field ++ " is required.") [("field", field)]⟩

/-! ## Texts -/

/-- The check of a text against a least length. -/
def Subject.minLength (s : Subject) (text : String) : Option Nat → List Violation
  | some limit =>
    if text.toList.length < limit then
      [s.violation "errorMessageMinLength" ("Min length is " ++ toString limit)
        [("minLength", toString limit)]]
    else []
  | none => []

/-- The check of a text against a greatest length. -/
def Subject.maxLength (s : Subject) (text : String) : Option Nat → List Violation
  | some limit =>
    if limit < text.toList.length then
      [s.violation "errorMessageMaxLength" ("Max length is " ++ toString limit)
        [("maxLength", toString limit)]]
    else []
  | none => []

/-- The check of a text against a pattern. -/
def Subject.pattern (s : Subject) (text : String) : Option Pattern → List Violation
  | some p =>
    if p.accepts text then []
    else [s.violation "errorMessagePattern" "Invalid format." [("pattern", p.text)]]
  | none => []

/-- The check of a text against the texts that are allowed. -/
def Subject.allowed (s : Subject) (text : String) : Option (List String) → List Violation
  | some texts =>
    if texts.contains text then []
    else
      let joined := ", ".intercalate texts
      [s.violation "errorMessageAllowedValues" ("Invalid value. Allowed: " ++ joined)
        [("allowedValues", joined)]]
  | none => []

/-- The check of a value that has to be a text. -/
def Subject.string (s : Subject) : Value → Except Defect (List Violation)
  | .text text => do
    let least ← s.rules.length s.field "minLength"
    let greatest ← s.rules.length s.field "maxLength"
    let pattern ← s.rules.pattern s.field
    let allowed ← s.rules.allowed s.field
    return s.minLength text least ++ s.maxLength text greatest ++ s.pattern text pattern ++
      s.allowed text allowed
  | _ => .ok [s.violation "errorMessageType" "Must be a string."]

/-! ## Numbers -/

/-- The check of a number against a least value. -/
def Subject.minValue (s : Subject) (number : Decimal) : Option Decimal → List Violation
  | some limit =>
    if number.below limit then
      [s.violation "errorMessageMinValue" ("Min value is " ++ limit.text)
        [("minValue", limit.text)]]
    else []
  | none => []

/-- The check of a number against a greatest value. -/
def Subject.maxValue (s : Subject) (number : Decimal) : Option Decimal → List Violation
  | some limit =>
    if limit.below number then
      [s.violation "errorMessageMaxValue" ("Max value is " ++ limit.text)
        [("maxValue", limit.text)]]
    else []
  | none => []

/-- The number of a value: a number, or numeric text. -/
def number? : Value → Option Decimal
  | .number d => some d
  | .text s => Decimal.ofText? s
  | _ => none

/-- The check of a value that has to be a number. -/
def Subject.number (s : Subject) (value : Value) : Except Defect (List Violation) :=
  match number? value with
  | some number => do
    let least ← s.rules.decimal s.field "minValue"
    let greatest ← s.rules.decimal s.field "maxValue"
    return s.minValue number least ++ s.maxValue number greatest
  | none => .ok [s.violation "errorMessageType" "Must be a valid number."]

/-! ## Dates -/

/-- The value of `minDate` that stands for the day of the check. -/
def todayToken : String := "today"

/-- The name of the rule against weekends and holidays. -/
def noWeekendOrHoliday : String := "noWeekendOrHoliday"

/-- Whether the rules forbid days before the day of the check. -/
def forbidsPast (rules : Node) : Bool :=
  (rules.text? "minDate").any fun token => Text.sameLetters token todayToken

/-- The check of a day against the day of the check. -/
def Subject.minDate (s : Subject) (dates : Dates) (day : Date) : List Violation :=
  if forbidsPast s.rules && day.before dates.today then
    [s.violation "errorMessageMinDate" "Date cannot be in the past."
      [("minDate", dates.today.text)]]
  else []

/-- The check of a day against weekends and holidays. -/
def Subject.customRule (s : Subject) (dates : Dates) (day : Date) : List Violation :=
  if s.rules.text? "customRule" = some noWeekendOrHoliday then
    if day.isWeekend then [s.violation "errorMessageCustomRule" "Date cannot be a weekend."]
    else if dates.isHoliday day then
      [s.violation "errorMessageCustomRule" "Date cannot be a public holiday."]
    else []
  else []

/-- The check of a day. -/
def Subject.day (s : Subject) (dates : Dates) (day : Date) : List Violation :=
  s.minDate dates day ++ s.customRule dates day

/-- The check of a value that has to be a date. -/
def Subject.date (s : Subject) (dates : Dates) : Value → List Violation
  | .date d => s.day dates d
  | .text t =>
    match Date.ofStrict? (Text.trim t) with
    | some d => s.day dates d
    | none =>
      [s.violation "errorMessageType" "Invalid date format. Expected yyyy-MM-dd."]
  | _ => [s.violation "errorMessageType" "Invalid date type."]

/-! ## Fields -/

/-- The check of a value that is there. -/
def presentValue (field : String) (value : Value) (rules : Node) (dates : Dates) :
    Except Defect (List Violation) :=
  let subject : Subject := ⟨field, value.shown, rules⟩
  match rules.kind with
  | .string => subject.string value
  | .number => subject.number value
  | .date => .ok (subject.date dates value)
  | .unknown _ => .ok []

/-- The check of a field's value. -/
def field (field : String) (value : Option Value) (rules : Node) (dates : Dates) :
    Except Defect (List Violation) :=
  match present value with
  | some value => presentValue field value rules dates
  | none => .ok (if rules.isRequired then [missing field rules] else [])

/-- What the check of a field logs: a field of an unknown kind that has a value. -/
def log (field : String) (value : Option Value) (rules : Node) : List Log.Entry :=
  match present value, rules.kind with
  | some _, .unknown name => [Log.Event.unsupportedRuleType.entry [("field", field), ("type", name)]]
  | _, _ => []

end Check

end RecordRules
