/-
  Events worth a log line, and how grave they are.
-/
import RecordRules.Text.Ascii

namespace RecordRules.Log

/-- How grave an event is. -/
inductive Severity
  | trace
  | info
  | warn
  | error
deriving DecidableEq, Repr

namespace Severity

/-- All severities, rising. -/
def all : List Severity := [trace, info, warn, error]

/-- The place of a severity in the rising order. -/
def rank : Severity → Nat
  | trace => 0
  | info => 1
  | warn => 2
  | error => 3

/-- The name of a severity in log lines. -/
def name : Severity → String
  | trace => "TRACE"
  | info => "INFO"
  | warn => "WARN"
  | error => "ERROR"

/-- The severity of a name. The case of letters does not count, and `warning` is a name too. -/
def ofName? (name : String) : Option Severity :=
  match Text.lower name with
  | "trace" => some trace
  | "info" => some info
  | "warn" => some warn
  | "warning" => some warn
  | "error" => some error
  | _ => none

/-- Whether lines of a severity are written when a least severity is set. -/
def enabled (least s : Severity) : Bool := least.rank ≤ s.rank

end Severity

/-- The events. -/
inductive Event
  | configLoaded
  | definitionsLoaded
  | definitionsMissing
  | ruleDocumentLoaded
  | noRuleDocuments
  | rulesChecked
  | fieldNotOnRecord
  | fieldAccessFailed
  | unsupportedRuleType
  | validationPassed
  | validationFailed
  | configDefect
deriving DecidableEq, Repr

namespace Event

/-- All events: first those of the configuration, then those of loading, then those of validation. -/
def all : List Event :=
  [configLoaded, definitionsLoaded, definitionsMissing, ruleDocumentLoaded, noRuleDocuments,
    rulesChecked, fieldNotOnRecord, fieldAccessFailed, unsupportedRuleType, validationPassed,
    validationFailed, configDefect]

/-- The name of an event in log lines. -/
def name : Event → String
  | configLoaded => "CONFIG_LOADED"
  | definitionsLoaded => "DEFINITIONS_LOADED"
  | definitionsMissing => "DEFINITIONS_MISSING"
  | ruleDocumentLoaded => "RULE_DOCUMENT_LOADED"
  | noRuleDocuments => "NO_RULE_DOCUMENTS"
  | rulesChecked => "RULES_CHECKED"
  | fieldNotOnRecord => "FIELD_NOT_ON_RECORD"
  | fieldAccessFailed => "FIELD_ACCESS_FAILED"
  | unsupportedRuleType => "UNSUPPORTED_RULE_TYPE"
  | validationPassed => "VALIDATION_PASSED"
  | validationFailed => "VALIDATION_FAILED"
  | configDefect => "CONFIG_DEFECT"

/-- The severity of an event. -/
def severity : Event → Severity
  | validationPassed | validationFailed => .trace
  | definitionsMissing | noRuleDocuments | fieldNotOnRecord | unsupportedRuleType => .warn
  | fieldAccessFailed | configDefect => .error
  | configLoaded | definitionsLoaded | ruleDocumentLoaded | rulesChecked => .info

end Event

end RecordRules.Log
