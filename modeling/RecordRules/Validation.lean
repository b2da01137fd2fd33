/-
  Validation of a record against the document of its type. All nodes of the document are resolved
  before any value is looked at; then the fields are checked in order and all violations collected.
  A field that the record cannot give is a violation of its own.
-/
import RecordRules.Check
import RecordRules.Rule.Store

namespace RecordRules

open Log (Logged)

/-- How a validation fails: with violations, or for a defect of the rules. -/
inductive Failure
  | violations (list : List Violation)
  | defect (d : Defect)
deriving DecidableEq, Repr

/-- How many violations there are, in words. -/
def violationCount (n : Nat) : String := toString n ++ " violation(s)"

namespace Failure

/-- The wording of a failure. -/
def message : Failure → String
  | violations list => "Validation failed with " ++ violationCount list.length
  | defect d => "Configuration error: " ++ d.message

/-- The status of a failure: that of the record's fault, or of the rules'. -/
def status : Failure → Nat
  | violations _ => 400
  | defect d => d.status

/-- Whether a failure is a defect of the rules. -/
def isDefect : Failure → Bool
  | violations _ => false
  | defect _ => true

/-- Whether a failure is for want of a document. -/
def isNoDocument : Failure → Bool
  | defect (.noDocument _) => true
  | _ => false

end Failure

namespace Validation

/-- The fields of a document with their resolved nodes. -/
def resolved (store : Store) (document : Document) : Except Defect (List (String × Node)) :=
  document.fields.mapM fun (field, node) => do
    return (field, ← node.resolve store.definitions)

/-- The log entry of a field that cannot be read. -/
def accessEntry (recordType : String) : AccessFault → Log.Entry
  | .unknown field =>
    Log.Event.fieldNotOnRecord.entry [("field", field), ("record_type", recordType)]
  | .unreadable field reason =>
    Log.Event.fieldAccessFailed.entry
      [("field", field), ("reason", reason), ("record_type", recordType)]

/-- The check of one field of a record. -/
def field (record : Record) (recordType : String) (dates : Dates) (name : String) (rules : Node) :
    Logged (Except Defect (List Violation)) :=
  match record.field name with
  | .ok value => ⟨Check.log name value rules, Check.field name value rules dates⟩
  | .error fault => ⟨[accessEntry recordType fault], .ok [⟨name, fault.violation⟩]⟩

/-- The checks of fields, up to the first defect. -/
def fields (record : Record) (recordType : String) (dates : Dates) :
    List (String × Node) → Logged (Except Defect (List Violation))
  | [] => ⟨[], .ok []⟩
  | (name, rules) :: rest =>
    let here := field record recordType dates name rules
    match here.result with
    | .error d => ⟨here.log, .error d⟩
    | .ok violations =>
      let more := fields record recordType dates rest
      ⟨here.log ++ more.log, more.result.map (violations ++ ·)⟩

/-- The violations of a record against the document under a key. -/
def collect (store : Store) (dates : Dates) (record : Record) (recordType : String) :
    Logged (Except Defect (List Violation)) :=
  match do resolved store (← store.document recordType) with
  | .ok rules => fields record recordType dates rules
  | .error d => ⟨[], .error d⟩

/-- The outcome of collected violations. -/
def outcome : Except Defect (List Violation) → Except Failure Unit
  | .error d => .error (.defect d)
  | .ok [] => .ok ()
  | .ok (v :: vs) => .error (.violations (v :: vs))

/-- The log entry of an outcome. -/
def outcomeEntry (recordType : String) : Except Failure Unit → Log.Entry
  | .ok () => Log.Event.validationPassed.entry [("record_type", recordType)]
  | .error (.violations list) =>
    Log.Event.validationFailed.entry
      [("record_type", recordType), ("violations", toString list.length)]
  | .error (.defect d) =>
    Log.Event.configDefect.entry
      [("code", d.code), ("message", d.message), ("record_type", recordType)]

/-- Validates a record against the document under a key. -/
def validate (store : Store) (dates : Dates) (record : Record) (recordType : String) :
    Logged (Except Failure Unit) :=
  let collected := collect store dates record recordType
  let result := outcome collected.result
  ⟨collected.log ++ [outcomeEntry recordType result], result⟩

/-- Validates a record against the document of its declared type. -/
def validateDeclared (store : Store) (dates : Dates) (record : Record) :
    Logged (Except Failure Unit) :=
  validate store dates record record.typeName

end Validation

end RecordRules
