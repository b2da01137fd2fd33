/-
  What a validation logs. It goes through the fields in the order of the document, up to the first
  whose check is a defect, and logs at most one entry for each: that the record does not give the
  field, or that the field has a value of a type that is not known. Then one entry tells the
  outcome. Without a document, or if a node does not resolve, no field is looked at.

  1. `fieldLog_iff`: what is logged of one field.
  2. `fields_log_append_of_sound`, `fields_log_cons_of_broken`: what is logged of fields one after
     the other, and of one whose check is a defect.
  3. `Reached.collect_log`, `exists_reached`: the fields that are looked at.
  4. `log_mirrors_outcome`: what a validation logs, and which lines are written of it.
-/
import RecordRules.Proofs.Validation.Collected

namespace RecordRules

/-! ## Entries of a validation -/

/-- What is logged of a field: that the record does not give it, or that it has a value of a type
    that is not known, and otherwise nothing. -/
inductive FieldLog (record : Record) (recordType : String) :
    String × Node → List Log.Entry → Prop
  | notOnRecord {name field : String} {rules : Node} :
      record.field name = .error (.unknown field) →
      FieldLog record recordType (name, rules)
        [⟨.warn, "FIELD_NOT_ON_RECORD", [("field", field), ("record_type", recordType)]⟩]
  | accessFailed {name field reason : String} {rules : Node} :
      record.field name = .error (.unreadable field reason) →
      FieldLog record recordType (name, rules)
        [⟨.error, "FIELD_ACCESS_FAILED",
          [("field", field), ("reason", reason), ("record_type", recordType)]⟩]
  | unsupported {name type : String} {rules : Node} {value : Value} :
      record.field name = .ok (some value) → value.isBlank = false → rules.kind = .unknown type →
      FieldLog record recordType (name, rules)
        [⟨.warn, "UNSUPPORTED_RULE_TYPE", [("field", name), ("type", type)]⟩]
  | missing {name : String} {rules : Node} {value : Option Value} :
      record.field name = .ok value → (∀ v ∈ value, v.isBlank = true) →
      FieldLog record recordType (name, rules) []
  | supported {name : String} {rules : Node} {value : Option Value} :
      record.field name = .ok value → (∀ type, rules.kind ≠ .unknown type) →
      FieldLog record recordType (name, rules) []

/-- What is logged of an outcome: success, the number of the violations, or the code and the text of
    the defect. -/
inductive OutcomeLog (recordType : String) : Except Failure Unit → Log.Entry → Prop
  | passed :
      OutcomeLog recordType (.ok ())
        ⟨.trace, "VALIDATION_PASSED", [("record_type", recordType)]⟩
  | failed (list : List Violation) :
      OutcomeLog recordType (.error (.violations list))
        ⟨.trace, "VALIDATION_FAILED",
          [("record_type", recordType), ("violations", toString list.length)]⟩
  | defect (d : Defect) :
      OutcomeLog recordType (.error (.defect d))
        ⟨.error, "CONFIG_DEFECT",
          [("code", d.code), ("message", d.message), ("record_type", recordType)]⟩

/-- The severities from a least one on. -/
def Log.Severity.orGraver : Log.Severity → List Log.Severity
  | trace => [.trace, .info, .warn, .error]
  | info => [.info, .warn, .error]
  | warn => [.warn, .error]
  | error => [.error]

/-- The fields that a validation looks at, with their resolved nodes. -/
inductive Reached (store : Store) (dates : Dates) (record : Record) (recordType : String) :
    List (String × Node) → Prop
  | noDocument :
      store.find? recordType = none →
      Reached store dates record recordType []
  | unresolved {document : Document} {defect : Defect} :
      store.find? recordType = some document →
      FirstError (fun field => field.2.resolve store.definitions) document.fields defect →
      Reached store dates record recordType []
  | upTo {document : Document} {before after : List (String × Node)} {rule : String × Node}
      {defect : Defect} :
      store.find? recordType = some document →
      Resolved store.definitions document.fields (before ++ rule :: after) →
      (∀ earlier ∈ before, ∀ d, ¬ Broken record dates earlier d) →
      Broken record dates rule defect →
      Reached store dates record recordType (before ++ [rule])
  | all {document : Document} {rules : List (String × Node)} :
      store.find? recordType = some document →
      Resolved store.definitions document.fields rules →
      (∀ rule ∈ rules, ∀ d, ¬ Broken record dates rule d) →
      Reached store dates record recordType rules

/-- The entries of a validation with an outcome: those of each field that is looked at, in order,
    and the one of the outcome. -/
inductive ValidationLog (store : Store) (dates : Dates) (record : Record) (recordType : String)
    (result : Except Failure Unit) : List Log.Entry → Prop
  | blocks {rules : List (String × Node)} {blocks : List (List Log.Entry)} {last : Log.Entry} :
      Reached store dates record recordType rules →
      List.Forall₂ (FieldLog record recordType) rules blocks →
      OutcomeLog recordType result last →
      ValidationLog store dates record recordType result (blocks.flatten ++ [last])

section

variable {store : Store} {dates : Dates} {record : Record} {recordType : String}

/-! ## One field -/

theorem check_log_of_missing {value : Option Value} (blank : ∀ v ∈ value, v.isBlank = true)
    (name : String) (rules : Node) : Check.log name value rules = [] := by
  have absent : Check.present value = none := by
    cases value with
    | none => rfl
    | some v => simp [Check.present, blank v rfl]
  rw [Check.log, absent]

theorem check_log_of_supported {rules : Node} (known : ∀ type, rules.kind ≠ .unknown type)
    (name : String) (value : Option Value) : Check.log name value rules = [] := by
  unfold Check.log
  split
  · next declared => exact absurd declared (known _)
  · rfl

theorem check_log_of_unsupported {rules : Node} {type : String} (kind : rules.kind = .unknown type)
    {value : Value} (seen : value.isBlank = false) (name : String) :
    Check.log name (some value) rules =
      [⟨.warn, "UNSUPPORTED_RULE_TYPE", [("field", name), ("type", type)]⟩] := by
  have there : Check.present (some value) = some value := by simp [Check.present, seen]
  rw [Check.log, there, kind]
  rfl

theorem fieldLog_check {name : String} {value : Option Value}
    (gives : record.field name = .ok value) (rules : Node) :
    FieldLog record recordType (name, rules) (Check.log name value rules) := by
  by_cases blank : ∀ v ∈ value, v.isBlank = true
  · rw [check_log_of_missing blank]
    exact .missing gives blank
  · by_cases known : ∀ type, rules.kind ≠ .unknown type
    · rw [check_log_of_supported known]
      exact .supported gives known
    · push Not at blank known
      obtain ⟨v, rfl, seen⟩ := blank
      obtain ⟨type, kind⟩ := known
      have seen' : v.isBlank = false := by simpa using seen
      rw [check_log_of_unsupported kind seen']
      exact .unsupported gives seen' kind

theorem accessEntry_unknown (recordType field : String) :
    Validation.accessEntry recordType (.unknown field) =
      ⟨.warn, "FIELD_NOT_ON_RECORD", [("field", field), ("record_type", recordType)]⟩ := rfl

theorem accessEntry_unreadable (recordType field reason : String) :
    Validation.accessEntry recordType (.unreadable field reason) =
      ⟨.error, "FIELD_ACCESS_FAILED",
        [("field", field), ("reason", reason), ("record_type", recordType)]⟩ := rfl

theorem fieldLog_iff {rule : String × Node} {entries : List Log.Entry} :
    FieldLog record recordType rule entries ↔
      (Validation.field record recordType dates rule.1 rule.2).log = entries := by
  obtain ⟨name, rules⟩ := rule
  constructor
  · rintro (given | given | ⟨given, seen, kind⟩ | ⟨given, blank⟩ | ⟨given, known⟩)
    · simp only [Validation.field, given, accessEntry_unknown]
    · simp only [Validation.field, given, accessEntry_unreadable]
    · simpa [Validation.field, given] using check_log_of_unsupported kind seen name
    · simpa [Validation.field, given] using check_log_of_missing blank name rules
    · simpa [Validation.field, given] using check_log_of_supported known name _
  · rintro rfl
    unfold Validation.field
    cases given : record.field name with
    | ok value => exact fieldLog_check given rules
    | error fault =>
      cases fault with
      | unknown => exact .notOnRecord given
      | unreadable => exact .accessFailed given

theorem forall₂_fieldLog_iff {rules : List (String × Node)} {blocks : List (List Log.Entry)} :
    List.Forall₂ (FieldLog record recordType) rules blocks ↔
      rules.map (fun rule => (Validation.field record recordType dates rule.1 rule.2).log) =
        blocks := by
  -- as an equation, for the relation stands under the one on lists
  have same : FieldLog record recordType = fun rule entries =>
      (Validation.field record recordType dates rule.1 rule.2).log = entries := by
    funext rule entries
    exact propext fieldLog_iff
  rw [same, ← List.forall₂_map_left_iff, List.forall₂_eq_eq_eq]

/-! ## All fields -/

/-- A field whose check is no defect is followed by the others. -/
theorem fields_log_cons_of_sound {rule : String × Node} {rest : List (String × Node)}
    (sound : ∀ d, ¬ Broken record dates rule d) :
    (Validation.fields record recordType dates (rule :: rest)).log =
      (Validation.field record recordType dates rule.1 rule.2).log ++
        (Validation.fields record recordType dates rest).log := by
  obtain ⟨name, rules⟩ := rule
  rw [Validation.fields]
  cases checked : (Validation.field record recordType dates name rules).result with
  | ok violations => rfl
  | error d =>
    have broken : Broken record dates (name, rules) d := field_eq_error_iff.mp checked
    exact absurd broken (sound d)

theorem fields_log_cons_of_broken {rule : String × Node} {rest : List (String × Node)}
    {defect : Defect} (broken : Broken record dates rule defect) :
    (Validation.fields record recordType dates (rule :: rest)).log =
      (Validation.field record recordType dates rule.1 rule.2).log := by
  obtain ⟨name, rules⟩ := rule
  have refused : (Validation.field record recordType dates name rules).result = .error defect :=
    field_eq_error_iff.mpr broken
  rw [Validation.fields]
  simp only [refused]

theorem fields_log_append_of_sound {before rest : List (String × Node)}
    (sound : ∀ rule ∈ before, ∀ d, ¬ Broken record dates rule d) :
    (Validation.fields record recordType dates (before ++ rest)).log =
      before.flatMap (fun rule => (Validation.field record recordType dates rule.1 rule.2).log) ++
        (Validation.fields record recordType dates rest).log := by
  induction before with
  | nil => rfl
  | cons rule before ih =>
    rw [List.forall_mem_cons] at sound
    rw [List.cons_append, fields_log_cons_of_sound sound.1, ih sound.2, List.flatMap_cons,
      List.append_assoc]

/-! ## The whole record -/

/-- What is logged before the outcome is what is logged of the fields that are looked at. -/
theorem Reached.collect_log {rules : List (String × Node)}
    (reached : Reached store dates record recordType rules) :
    (Validation.collect store dates record recordType).log =
      rules.flatMap fun rule => (Validation.field record recordType dates rule.1 rule.2).log := by
  cases reached with
  | noDocument missing => rw [collect_of_none missing]; rfl
  | unresolved found first => rw [collect_of_unresolved found first]; rfl
  | upTo found resolved sound broken =>
    rw [collect_of_resolved found resolved, fields_log_append_of_sound sound,
      fields_log_cons_of_broken broken, List.flatMap_append, List.flatMap_singleton]
  | all found resolved sound =>
    have whole : (Validation.fields record recordType dates (rules ++ [])).log =
        (rules.flatMap fun rule =>
          (Validation.field record recordType dates rule.1 rule.2).log) ++ [] :=
      fields_log_append_of_sound sound
    rw [List.append_nil, List.append_nil] at whole
    rw [collect_of_resolved found resolved, whole]

theorem exists_reached (store : Store) (dates : Dates) (record : Record) (recordType : String) :
    ∃ rules, Reached store dates record recordType rules := by
  cases found : store.find? recordType with
  | none => exact ⟨_, .noDocument found⟩
  | some document =>
    cases resolves : Validation.resolved store document with
    | error defect => exact ⟨_, .unresolved found (resolved_eq_error_iff.mp resolves)⟩
    | ok rules =>
      have resolved := resolved_eq_ok_iff.mp resolves
      -- the result tells how far the fields are gone through
      cases checked : (Validation.fields record recordType dates rules).result with
      | error defect =>
        obtain ⟨before, rule, after, rfl, sound, broken⟩ := fields_eq_error_iff.mp checked
        exact ⟨_, .upTo found resolved sound broken⟩
      | ok violations =>
        obtain ⟨blocks, each, _⟩ := fields_eq_ok_iff.mp checked
        refine ⟨_, .all found resolved fun rule listed d broken => ?_⟩
        obtain ⟨block, _, accepted⟩ := exists_of_forall₂ each listed
        have refused : (Validation.field record recordType dates rule.1 rule.2).result = .error d :=
          field_eq_error_iff.mpr broken
        rw [field_eq_ok_iff.mpr accepted] at refused
        cases refused

theorem outcomeLog_iff {result : Except Failure Unit} {entry : Log.Entry} :
    OutcomeLog recordType result entry ↔ Validation.outcomeEntry recordType result = entry := by
  constructor
  · rintro (_ | _ | _) <;> rfl
  · rintro rfl
    rcases result with (list | d) | _
    · exact .failed list
    · exact .defect d
    · exact .passed

/-- The entries of a validation are the ones that are logged. -/
theorem validationLog_iff {entries : List Log.Entry} :
    ValidationLog store dates record recordType
        (Validation.validate store dates record recordType).result entries ↔
      (Validation.validate store dates record recordType).log = entries := by
  have log {rules : List (String × Node)}
      (reached : Reached store dates record recordType rules) :
      (Validation.validate store dates record recordType).log =
        (rules.map fun rule =>
            (Validation.field record recordType dates rule.1 rule.2).log).flatten ++
          [Validation.outcomeEntry recordType
            (Validation.validate store dates record recordType).result] := by
    rw [← List.flatMap_def, ← reached.collect_log]
    rfl
  constructor
  · rintro ⟨reached, each, told⟩
    rw [log reached, forall₂_fieldLog_iff.mp each, outcomeLog_iff.mp told]
  · rintro rfl
    obtain ⟨rules, reached⟩ := exists_reached store dates record recordType
    rw [log reached]
    exact .blocks reached (forall₂_fieldLog_iff.mpr rfl) (outcomeLog_iff.mpr rfl)

end

theorem enabled_eq (least severity : Log.Severity) :
    least.enabled severity = decide (severity ∈ least.orGraver) := by
  cases least <;> cases severity <;> rfl

/-- What a validation logs mirrors its outcome. There is one way to list the entries of a validation
    with its result, and the lines that are written from any severity on are those of the entries
    that are at least as grave, in their order. -/
theorem log_mirrors_outcome (store : Store) (dates : Dates) (record : Record)
    (recordType : String) :
    ∃ entries,
      (∀ others, ValidationLog store dates record recordType
          (Validation.validate store dates record recordType).result others ↔ others = entries) ∧
      ∀ least, Log.lines least (Validation.validate store dates record recordType).log =
        (entries.filter fun entry => entry.severity ∈ least.orGraver).map Log.Entry.line := by
  refine ⟨(Validation.validate store dates record recordType).log, fun others => ?_, fun least => ?_⟩
  · rw [validationLog_iff, eq_comm]
  · simp only [Log.lines, enabled_eq]

end RecordRules
