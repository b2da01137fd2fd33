/-
  What validation collects. A record type without a document is a defect; then the first field whose
  node does not resolve; then the first field that the record gives and whose check is a defect.
  Otherwise each field has a block of violations, and the blocks follow each other in the order of
  the document.

  1. `Collected`: these rules, without regard to how they are worked through.
  2. `fields_result`: the checks of fields, one after the other, as one pass over a list.
  3. `collected_collect`, `Collected.collect_eq`: what is collected is what the rules say.
  4. `collect_iff_collected`: the same as one statement, with the outcome of a validation.
-/
import RecordRules.Proofs.FirstError
import RecordRules.Validation

namespace RecordRules

/-- The fields of a document, each with its resolved node. -/
def Resolved (definitions : Definitions) (fields rules : List (String × Node)) : Prop :=
  List.Forall₂ (fun field rule => rule.1 = field.1 ∧ field.2.resolve definitions = .ok rule.2)
    fields rules

theorem exists_resolved {definitions : Definitions} {fields : List (String × Node)}
    (resolves : ∀ field ∈ fields, ∃ rules, field.2.resolve definitions = .ok rules) :
    ∃ rules, Resolved definitions fields rules := by
  refine exists_forall₂ fun field listed => ?_
  obtain ⟨rules, here⟩ := resolves field listed
  exact ⟨(field.1, rules), rfl, here⟩

theorem Resolved.exists_field {definitions : Definitions} {fields rules : List (String × Node)}
    (resolved : Resolved definitions fields rules) {rule : String × Node} (listed : rule ∈ rules) :
    ∃ field ∈ fields, rule.1 = field.1 ∧ field.2.resolve definitions = .ok rule.2 := by
  induction resolved with
  | nil => cases listed
  | @cons field _ fields _ here _ ih =>
    rcases List.mem_cons.mp listed with rfl | listed
    · exact ⟨field, List.mem_cons_self .., here⟩
    · obtain ⟨found, there, same⟩ := ih listed
      exact ⟨found, List.mem_cons_of_mem _ there, same⟩

/-- The record gives the field, and the check of its value is a defect. -/
def Broken (record : Record) (dates : Dates) (rule : String × Node) (defect : Defect) : Prop :=
  ∃ value, record.field rule.1 = .ok value ∧
    Check.field rule.1 value rule.2 dates = .error defect

/-- The first of the fields whose check is a defect has this one. -/
def FirstBroken (record : Record) (dates : Dates) (rules : List (String × Node))
    (defect : Defect) : Prop :=
  ∃ before rule after, rules = before ++ rule :: after ∧
    (∀ earlier ∈ before, ∀ d, ¬ Broken record dates earlier d) ∧ Broken record dates rule defect

/-- The violations that a field adds: those of its check, if the record gives it, or one that says
    that the record does not. -/
inductive Block (record : Record) (dates : Dates) : String × Node → List Violation → Prop
  | checked {name : String} {rules : Node} {value : Option Value} {violations : List Violation} :
      record.field name = .ok value → Check.field name value rules dates = .ok violations →
      Block record dates (name, rules) violations
  | unknown {name : String} {rules : Node} {field : String} :
      record.field name = .error (.unknown field) →
      Block record dates (name, rules) [⟨name, "Field definition mismatch."⟩]
  | unreadable {name : String} {rules : Node} {field reason : String} :
      record.field name = .error (.unreadable field reason) →
      Block record dates (name, rules) [⟨name, "Error accessing field value."⟩]

/-- What a validation collects of a record, against the document of a record type. -/
inductive Collected (store : Store) (dates : Dates) (record : Record) (recordType : String) :
    Except Defect (List Violation) → Prop
  | noDocument :
      store.find? recordType = none →
      Collected store dates record recordType (.error (.noDocument recordType))
  | unresolved {document : Document} {defect : Defect} :
      store.find? recordType = some document →
      FirstError (fun field => field.2.resolve store.definitions) document.fields defect →
      Collected store dates record recordType (.error defect)
  | broken {document : Document} {rules : List (String × Node)} {defect : Defect} :
      store.find? recordType = some document →
      Resolved store.definitions document.fields rules →
      FirstBroken record dates rules defect →
      Collected store dates record recordType (.error defect)
  | blocks {document : Document} {rules : List (String × Node)} {blocks : List (List Violation)} :
      store.find? recordType = some document →
      Resolved store.definitions document.fields rules →
      List.Forall₂ (Block record dates) rules blocks →
      Collected store dates record recordType (.ok blocks.flatten)

section

variable {store : Store} {dates : Dates} {record : Record} {recordType : String}

/-! ## One field -/

theorem field_eq_error_iff {rule : String × Node} {defect : Defect} :
    (Validation.field record recordType dates rule.1 rule.2).result = .error defect ↔
      Broken record dates rule defect := by
  unfold Validation.field Broken
  cases record.field rule.1 <;> simp

theorem field_eq_ok_iff {rule : String × Node} {violations : List Violation} :
    (Validation.field record recordType dates rule.1 rule.2).result = .ok violations ↔
      Block record dates rule violations := by
  obtain ⟨name, rules⟩ := rule
  constructor
  · intro h
    unfold Validation.field at h
    cases given : record.field name with
    | ok value =>
      rw [given] at h
      exact .checked given h
    | error fault =>
      rw [given] at h
      cases h
      cases fault with
      | unknown => exact .unknown given
      | unreadable => exact .unreadable given
  · rintro (⟨given, checked⟩ | given | given)
    · simpa [Validation.field, given] using checked
    · simp [Validation.field, given, AccessFault.violation]
    · simp [Validation.field, given, AccessFault.violation]

/-! ## All fields -/

theorem fields_result (rules : List (String × Node)) :
    (Validation.fields record recordType dates rules).result =
      (rules.mapM fun rule => (Validation.field record recordType dates rule.1 rule.2).result).map
        List.flatten := by
  induction rules with
  | nil => rfl
  | cons rule rest ih =>
    obtain ⟨name, rules⟩ := rule
    rw [Validation.fields, List.mapM_cons]
    cases (Validation.field record recordType dates name rules).result with
    | error d => rfl
    | ok violations =>
      simp only [ih]
      cases rest.mapM fun rule =>
        (Validation.field record recordType dates rule.1 rule.2).result <;> rfl

theorem fields_eq_error_iff {rules : List (String × Node)} {defect : Defect} :
    (Validation.fields record recordType dates rules).result = .error defect ↔
      FirstBroken record dates rules defect := by
  rw [fields_result, map_eq_error_iff, mapM_eq_error_iff]
  simp only [FirstError, FirstBroken, exists_ok_iff, ne_eq, field_eq_error_iff]

theorem fields_eq_ok_iff {rules : List (String × Node)} {violations : List Violation} :
    (Validation.fields record recordType dates rules).result = .ok violations ↔
      ∃ blocks, List.Forall₂ (Block record dates) rules blocks ∧ blocks.flatten = violations := by
  rw [fields_result, map_eq_ok_iff]
  simp only [mapM_eq_ok_iff, field_eq_ok_iff]

/-- Records whose fields are checked alike are validated alike. -/
theorem fields_congr {other : Record} {rules : List (String × Node)}
    (same : ∀ rule ∈ rules, Validation.field record recordType dates rule.1 rule.2 =
      Validation.field other recordType dates rule.1 rule.2) :
    Validation.fields record recordType dates rules =
      Validation.fields other recordType dates rules := by
  induction rules with
  | nil => rfl
  | cons rule rest ih =>
    rw [List.forall_mem_cons] at same
    rw [Validation.fields, Validation.fields, same.1, ih same.2]

theorem resolved_eq (document : Document) :
    Validation.resolved store document =
      document.fields.mapM fun field =>
        (field.2.resolve store.definitions).map fun rules => (field.1, rules) := by
  refine congrArg (fun f => document.fields.mapM f) (funext fun field => ?_)
  obtain ⟨name, node⟩ := field
  cases h : node.resolve store.definitions <;>
    simp [h, bind, Except.bind, pure, Except.pure, Except.map]

theorem resolved_eq_ok_iff {document : Document} {rules : List (String × Node)} :
    Validation.resolved store document = .ok rules ↔
      Resolved store.definitions document.fields rules := by
  have pair (field rule : String × Node) :
      ((field.2.resolve store.definitions).map fun rules => (field.1, rules)) = .ok rule ↔
        rule.1 = field.1 ∧ field.2.resolve store.definitions = .ok rule.2 := by
    obtain ⟨name, rules⟩ := rule
    rw [map_eq_ok_iff]
    constructor
    · rintro ⟨_, resolves, same⟩
      cases same
      exact ⟨rfl, resolves⟩
    · rintro ⟨rfl, resolves⟩
      exact ⟨rules, resolves, rfl⟩
  simp only [resolved_eq, mapM_eq_ok_iff, pair, Resolved]

theorem resolved_eq_error_iff {document : Document} {defect : Defect} :
    Validation.resolved store document = .error defect ↔
      FirstError (fun field => field.2.resolve store.definitions) document.fields defect := by
  rw [resolved_eq, mapM_eq_error_iff, firstError_map_iff]

/-! ## The whole record -/

theorem collect_of_none (missing : store.find? recordType = none) :
    Validation.collect store dates record recordType = ⟨[], .error (.noDocument recordType)⟩ := by
  simp only [Validation.collect, Store.document, missing, bind, Except.bind]

/-- Where a node of the document does not resolve, the record is not asked for anything. -/
theorem collect_of_unresolved {document : Document} {defect : Defect}
    (found : store.find? recordType = some document)
    (first : FirstError (fun field => field.2.resolve store.definitions) document.fields defect) :
    Validation.collect store dates record recordType = ⟨[], .error defect⟩ := by
  simp only [Validation.collect, Store.document, found, bind, Except.bind,
    resolved_eq_error_iff.mpr first]

theorem collect_of_resolved {document : Document} {rules : List (String × Node)}
    (found : store.find? recordType = some document)
    (resolved : Resolved store.definitions document.fields rules) :
    Validation.collect store dates record recordType =
      Validation.fields record recordType dates rules := by
  simp only [Validation.collect, Store.document, found, bind, Except.bind,
    resolved_eq_ok_iff.mpr resolved]

theorem collect_congr {other : Record}
    (same : ∀ document rules, store.find? recordType = some document →
      Resolved store.definitions document.fields rules → ∀ rule ∈ rules,
        Validation.field record recordType dates rule.1 rule.2 =
          Validation.field other recordType dates rule.1 rule.2) :
    Validation.collect store dates record recordType =
      Validation.collect store dates other recordType := by
  cases found : store.find? recordType with
  | none => rw [collect_of_none found, collect_of_none found]
  | some document =>
    cases resolves : Validation.resolved store document with
    | error defect =>
      have first := resolved_eq_error_iff.mp resolves
      rw [collect_of_unresolved found first, collect_of_unresolved found first]
    | ok rules =>
      have resolved := resolved_eq_ok_iff.mp resolves
      rw [collect_of_resolved found resolved, collect_of_resolved found resolved,
        fields_congr (same document rules found resolved)]

theorem collected_collect :
    Collected store dates record recordType
      (Validation.collect store dates record recordType).result := by
  cases found : store.find? recordType with
  | none =>
    rw [collect_of_none found]
    exact .noDocument found
  | some document =>
    cases resolves : Validation.resolved store document with
    | error defect =>
      have first := resolved_eq_error_iff.mp resolves
      rw [collect_of_unresolved found first]
      exact .unresolved found first
    | ok rules =>
      have resolved := resolved_eq_ok_iff.mp resolves
      rw [collect_of_resolved found resolved]
      cases checked : (Validation.fields record recordType dates rules).result with
      | error defect => exact .broken found resolved (fields_eq_error_iff.mp checked)
      | ok violations =>
        obtain ⟨blocks, each, rfl⟩ := fields_eq_ok_iff.mp checked
        exact .blocks found resolved each

theorem Collected.collect_eq {result : Except Defect (List Violation)}
    (collected : Collected store dates record recordType result) :
    (Validation.collect store dates record recordType).result = result := by
  cases collected with
  | noDocument missing => rw [collect_of_none missing]
  | unresolved found first => rw [collect_of_unresolved found first]
  | broken found resolved first =>
    rw [collect_of_resolved found resolved]
    exact fields_eq_error_iff.mpr first
  | blocks found resolved each =>
    rw [collect_of_resolved found resolved]
    exact fields_eq_ok_iff.mpr ⟨_, each, rfl⟩

end

/-! ## The outcome -/

theorem outcome_eq_ok_iff {collected : Except Defect (List Violation)} :
    Validation.outcome collected = .ok () ↔ collected = .ok [] := by
  rcases collected with _ | _ | _ <;> simp [Validation.outcome]

theorem outcome_eq_violations_iff {collected : Except Defect (List Violation)}
    {list : List Violation} :
    Validation.outcome collected = .error (.violations list) ↔
      list ≠ [] ∧ collected = .ok list := by
  rcases collected with _ | _ | ⟨v, vs⟩
  · simp [Validation.outcome]
  · simp [Validation.outcome, eq_comm]
  · simp only [Validation.outcome, Except.error.injEq, Failure.violations.injEq, Except.ok.injEq]
    constructor
    · intro same
      exact ⟨same ▸ List.cons_ne_nil v vs, same⟩
    · exact And.right

theorem outcome_eq_defect_iff {collected : Except Defect (List Violation)} {defect : Defect} :
    Validation.outcome collected = .error (.defect defect) ↔ collected = .error defect := by
  rcases collected with _ | _ | _ <;> simp [Validation.outcome]

theorem validate_result (store : Store) (dates : Dates) (record : Record) (recordType : String) :
    (Validation.validate store dates record recordType).result =
      Validation.outcome (Validation.collect store dates record recordType).result := rfl

/-- Validation collects exactly what the rules of `Collected` say. It passes if nothing is
    collected, fails with all violations if there are some, and otherwise with the defect. -/
theorem collect_iff_collected (store : Store) (dates : Dates) (record : Record)
    (recordType : String) :
    (∀ result, (Validation.collect store dates record recordType).result = result ↔
      Collected store dates record recordType result) ∧
    ((Validation.validate store dates record recordType).result = .ok () ↔
      Collected store dates record recordType (.ok [])) ∧
    (∀ list, (Validation.validate store dates record recordType).result =
        .error (.violations list) ↔
      list ≠ [] ∧ Collected store dates record recordType (.ok list)) ∧
    ∀ defect, (Validation.validate store dates record recordType).result =
        .error (.defect defect) ↔
      Collected store dates record recordType (.error defect) := by
  have same (result) : (Validation.collect store dates record recordType).result = result ↔
      Collected store dates record recordType result := by
    constructor
    · rintro rfl
      exact collected_collect
    · exact Collected.collect_eq
  refine ⟨same, ?_, fun list => ?_, fun defect => ?_⟩
  · rw [validate_result, outcome_eq_ok_iff, same]
  · rw [validate_result, outcome_eq_violations_iff, same]
  · rw [validate_result, outcome_eq_defect_iff, same]

end RecordRules
