/-
  Defects of a rule set. None of them says anything about a record: a rule set with a defect is
  broken for every record that meets it.
-/

namespace RecordRules

/-- What can be wrong with a rule set. -/
inductive Defect
  | noDocument (key : String)
  | noDefinition (pointer : String)
  | cycle (keys : List String)
  | badPattern (field pattern reason : String)
  | badRule (field property reason : String)
  | malformed (path reason : String)
deriving DecidableEq, Repr

namespace Defect

/-- The code of a defect. -/
def code : Defect → String
  | noDocument _ => "RULES_CONFIG_NOT_FOUND"
  | noDefinition _ => "RULES_DEFINITION_NOT_FOUND"
  | cycle _ => "RULES_REFERENCE_CYCLE"
  | badPattern .. => "RULES_INVALID_PATTERN"
  | badRule .. => "RULES_INVALID_RULE"
  | malformed .. => "RULES_MALFORMED"

/-- The wording of a defect. -/
def message : Defect → String
  | noDocument key => "Validation configuration not found for key: " ++ key
  | noDefinition pointer => "Validation definition not found for $ref: " ++ pointer
  | cycle keys => "Circular $ref chain: " ++ " -> ".intercalate keys
  | badPattern field pattern reason =>
    "Invalid pattern '" ++ pattern ++ "' on field '" ++ field ++ "': " ++ reason
  | badRule field property reason =>
    "Invalid rule '" ++ property ++ "' on field '" ++ field ++ "': " ++ reason
  | malformed path reason => "Malformed rule file '" ++ path ++ "': " ++ reason

/-- The status of a defect: the fault is never the record's. -/
def status (_ : Defect) : Nat := 500

end Defect

end RecordRules
