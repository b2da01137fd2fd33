/-
  What is wrong with a field, apart from how it is worded. A complaint is a rule that a value breaks;
  it has a template that a node can declare, a wording for nodes that declare none, and values to put
  in. The check of a field raises complaints and words each of them, and templates play a part only in
  the second step.

  1. `field_eq_complaints`: the violations of a field are its complaints, each in its wording.
  2. `complaints_congr`: nodes that differ in templates only raise the same complaints.
-/
import RecordRules.Proofs.Check.Fields

namespace RecordRules

/-! ## Complaints -/

/-- A rule that a field's value breaks. -/
inductive Complaint
  | missing
  | noText
  | noNumber
  | misspeltDate
  | noDate
  | limit (l : Limit)
  | past (today : Date)
  | weekend
  | holiday

/-- The property that declares the wording of a broken constraint. -/
def Constraint.template : Constraint → String
  | minLength => "errorMessageMinLength"
  | maxLength => "errorMessageMaxLength"
  | pattern => "errorMessagePattern"
  | allowedValues => "errorMessageAllowedValues"
  | minValue => "errorMessageMinValue"
  | maxValue => "errorMessageMaxValue"

/-- The wording of a limit, if none is declared. -/
def Limit.wording : Limit → String
  | minLength limit => "Min length is " ++ toString limit
  | maxLength limit => "Max length is " ++ toString limit
  | pattern _ => "Invalid format."
  | allowedValues texts => "Invalid value. Allowed: " ++ ", ".intercalate texts
  | minValue limit => "Min value is " ++ limit.text
  | maxValue limit => "Max value is " ++ limit.text

/-- The limit as templates show it. -/
def Limit.shown : Limit → String
  | minLength limit | maxLength limit => toString limit
  | pattern p => p.text
  | allowedValues texts => ", ".intercalate texts
  | minValue limit | maxValue limit => limit.text

namespace Complaint

/-- The property that declares the wording of a complaint. -/
def template : Complaint → String
  | missing => "errorMessageRequired"
  | noText | noNumber | misspeltDate | noDate => "errorMessageType"
  | limit l => l.constraint.template
  | past _ => "errorMessageMinDate"
  | weekend | holiday => "errorMessageCustomRule"

/-- The wording of a complaint, if none is declared. -/
def wording (field : String) : Complaint → String
  | missing => field ++ " is required."
  | noText => "Must be a string."
  | noNumber => "Must be a valid number."
  | misspeltDate => "Invalid date format. Expected yyyy-MM-dd."
  | noDate => "Invalid date type."
  | limit l => l.wording
  | past _ => "Date cannot be in the past."
  | weekend => "Date cannot be a weekend."
  | holiday => "Date cannot be a public holiday."

/-- The values for the template of a complaint, besides the field and its value. -/
def placeholders : Complaint → Template.Values
  | limit l => [(l.constraint.property, l.shown)]
  | past today => [("minDate", today.text)]
  | _ => []

/-- The values for the template of a complaint. A missing value is not shown. -/
def values (field shown : String) : Complaint → Template.Values
  | missing => [("field", field)]
  | c => [("field", field), ("value", shown)] ++ c.placeholders

/-- The violation of a complaint: its wording by the rules. -/
def violation (field shown : String) (rules : Node) (c : Complaint) : Violation :=
  ⟨field, Check.message rules c.template (c.wording field) (c.values field shown)⟩

end Complaint

/-- The properties that declare wordings. -/
def templates : List String :=
  ["errorMessageRequired", "errorMessageType", "errorMessageMinLength", "errorMessageMaxLength",
    "errorMessagePattern", "errorMessageAllowedValues", "errorMessageMinValue",
    "errorMessageMaxValue", "errorMessageMinDate", "errorMessageCustomRule"]

theorem Constraint.template_mem (c : Constraint) : c.template ∈ templates := by
  cases c <;> decide

theorem Complaint.template_mem (c : Complaint) : c.template ∈ templates := by
  cases c with
  | limit l => exact l.constraint.template_mem
  | past => exact show "errorMessageMinDate" ∈ templates by decide
  | missing | noText | noNumber | misspeltDate | noDate | weekend | holiday => decide

/-! ## Complaints about a field -/

namespace Check

/-- The limits among these constraints that are broken. -/
def brokenLimits (field : String) (rules : Node) (constraints : List Constraint)
    (broken : Limit → Bool) : Except Defect (List Complaint) :=
  (constraints.mapM (rules.limit field)).map fun limits =>
    (limits.reduceOption.filter broken).map .limit

/-- The complaints about a day. -/
def dayComplaints (rules : Node) (dates : Dates) (day : Date) : List Complaint :=
  (if forbidsPast rules && day.before dates.today then [.past dates.today] else []) ++
    if rules.text? "customRule" = some noWeekendOrHoliday then
      if day.isWeekend then [.weekend] else if dates.isHoliday day then [.holiday] else []
    else []

/-- The complaints about a value that has to be a date. -/
def dateComplaints (rules : Node) (dates : Dates) : Value → List Complaint
  | .date d => dayComplaints rules dates d
  | .text t =>
    match Date.ofStrict? (Text.trim t) with
    | some d => dayComplaints rules dates d
    | none => [.misspeltDate]
  | _ => [.noDate]

/-- The complaints about a value that is there. -/
def presentComplaints (field : String) (value : Value) (rules : Node) (dates : Dates) :
    Except Defect (List Complaint) :=
  match rules.kind with
  | .string =>
    match value with
    | .text text => brokenLimits field rules Constraint.ofTexts (breaksText text)
    | _ => .ok [.noText]
  | .number =>
    match number? value with
    | some number => brokenLimits field rules Constraint.ofNumbers (breaksNumber number)
    | none => .ok [.noNumber]
  | .date => .ok (dateComplaints rules dates value)
  | .unknown _ => .ok []

/-- The complaints about a field. -/
def complaints (field : String) (value : Option Value) (rules : Node) (dates : Dates) :
    Except Defect (List Complaint) :=
  match present value with
  | some value => presentComplaints field value rules dates
  | none => .ok (if rules.isRequired then [.missing] else [])

end Check

/-- The value of a field as messages show it. -/
def shownValue (value : Option Value) : String := (value.map Value.shown).getD ""

section

variable {field shown : String} {rules : Node} {dates : Dates}

theorem limit_violation (l : Limit) :
    l.violation ⟨field, shown, rules⟩ = (Complaint.limit l).violation field shown rules := by
  cases l <;> rfl

theorem checkLimits_eq (constraints : List Constraint) (broken : Limit → Bool) :
    Check.Subject.checkLimits ⟨field, shown, rules⟩ constraints broken =
      (Check.brokenLimits field rules constraints broken).map
        (List.map (Complaint.violation field shown rules)) := by
  unfold Check.Subject.checkLimits Check.brokenLimits
  cases constraints.mapM (rules.limit field) with
  | error => rfl
  | ok limits =>
    simp only [Except.map, List.map_map, Except.ok.injEq]
    exact List.map_congr_left fun l _ => limit_violation l

theorem day_eq (day : Date) :
    Check.Subject.day ⟨field, shown, rules⟩ dates day =
      (Check.dayComplaints rules dates day).map (Complaint.violation field shown rules) := by
  unfold Check.Subject.day Check.Subject.minDate Check.Subject.customRule Check.dayComplaints
  rw [List.map_append]
  congr 1
  · split <;> rfl
  · split
    · split
      · rfl
      · split <;> rfl
    · rfl

theorem date_eq (value : Value) :
    Check.Subject.date ⟨field, shown, rules⟩ dates value =
      (Check.dateComplaints rules dates value).map (Complaint.violation field shown rules) := by
  cases value with
  | date d => exact day_eq d
  | text t =>
    unfold Check.Subject.date Check.dateComplaints
    dsimp only
    cases Date.ofStrict? (Text.trim t) with
    | some d => exact day_eq d
    | none => rfl
  | number | bool | other => rfl

theorem presentValue_eq (value : Value) :
    Check.presentValue field value rules dates =
      (Check.presentComplaints field value rules dates).map
        (List.map (Complaint.violation field value.shown rules)) := by
  unfold Check.presentValue Check.presentComplaints
  cases rules.kind with
  | string =>
    cases value with
    | text text => exact (string_eq_checkLimits text).trans (checkLimits_eq _ _)
    | number | date | bool | other => rfl
  | number =>
    dsimp only
    cases numeric : Check.number? value with
    | some number => exact (number_eq_checkLimits numeric).trans (checkLimits_eq _ _)
    | none =>
      rw [Check.Subject.number, numeric]
      rfl
  | date => exact congrArg Except.ok (date_eq value)
  | unknown => rfl

/-- The check of a field words the complaints about it. -/
theorem field_eq_complaints (field : String) (value : Option Value) (rules : Node) (dates : Dates) :
    Check.field field value rules dates =
      (Check.complaints field value rules dates).map
        (List.map (Complaint.violation field (shownValue value) rules)) := by
  unfold Check.field Check.complaints
  cases there : Check.present value with
  | some v =>
    obtain ⟨rfl, _⟩ := present_eq_some_iff.mp there
    exact presentValue_eq v
  | none =>
    dsimp only
    cases rules.isRequired <;> rfl

end

/-! ## Templates -/

/-- Two nodes declare the same, apart from wordings. -/
def SameButWording (rules rules' : Node) : Prop :=
  ∀ property, property ∉ templates → rules.find? property = rules'.find? property

/-- A wording can be declared, and replaced, without a change to anything else. -/
theorem sameButWording_insert {property : String} (template : property ∈ templates) (rules : Node)
    (value : Json) : SameButWording rules (rules.insert property value) := by
  intro other declared
  rw [Node.insert, Node.find?, Node.find?, Entries.find?_insert, if_neg]
  rintro rfl
  exact declared template

theorem SameButWording.trans {rules rules' rules'' : Node} (first : SameButWording rules rules')
    (second : SameButWording rules' rules'') : SameButWording rules rules'' :=
  fun property other => (first property other).trans (second property other)

section

variable {rules rules' : Node} (same : SameButWording rules rules')

include same

theorem SameButWording.limit (field : String) (c : Constraint) :
    rules.limit field c = rules'.limit field c := by
  have constraint : c.property ∉ templates := by cases c <;> decide
  rw [Node.limit, Node.limit, Node.declared, Node.declared, same _ constraint]

theorem SameButWording.brokenLimits (field : String) (constraints : List Constraint)
    (broken : Limit → Bool) :
    Check.brokenLimits field rules constraints broken =
      Check.brokenLimits field rules' constraints broken := by
  rw [Check.brokenLimits, Check.brokenLimits, funext (same.limit field)]

theorem SameButWording.text? {property : String} (other : property ∉ templates) :
    rules.text? property = rules'.text? property := by
  rw [Node.text?, Node.text?, same _ other]

theorem SameButWording.dayComplaints (dates : Dates) (day : Date) :
    Check.dayComplaints rules dates day = Check.dayComplaints rules' dates day := by
  have minDate : rules.text? "minDate" = rules'.text? "minDate" := same.text? (by decide)
  have customRule : rules.text? "customRule" = rules'.text? "customRule" := same.text? (by decide)
  rw [Check.dayComplaints, Check.dayComplaints, Check.forbidsPast, Check.forbidsPast, minDate,
    customRule]

theorem SameButWording.dateComplaints (dates : Dates) (value : Value) :
    Check.dateComplaints rules dates value = Check.dateComplaints rules' dates value := by
  unfold Check.dateComplaints
  simp only [same.dayComplaints]

/-- Nodes that differ in wordings only raise the same complaints, or have the same defect. -/
theorem complaints_congr (field : String) (value : Option Value) (dates : Dates) :
    Check.complaints field value rules dates = Check.complaints field value rules' dates := by
  have kind : rules.kind = rules'.kind := by
    rw [Node.kind, Node.kind, same "type" (by decide)]
  have required : rules.isRequired = rules'.isRequired := by
    rw [Node.isRequired, Node.isRequired, same "required" (by decide)]
  unfold Check.complaints Check.presentComplaints
  simp only [kind, required, same.brokenLimits, same.dateComplaints]

end

end RecordRules
