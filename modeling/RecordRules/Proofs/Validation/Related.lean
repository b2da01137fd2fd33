/-
  Results that correspond violation by violation. Two validations have related results if their fields
  have, one after the other.

  1. `SameFindings`: the same defect twice, or violations that are related one by one.
  2. `fields_related`: the results of all fields, from those of each.
  3. `collect_related`: the results of two records.
-/
import RecordRules.Proofs.Validation.Collected

namespace RecordRules

/-- Two lists of violations, or the same defect twice. -/
inductive SameFindings (related : Violation → Violation → Prop) :
    Except Defect (List Violation) → Except Defect (List Violation) → Prop
  | defect (d : Defect) : SameFindings related (.error d) (.error d)
  | violations {list list' : List Violation} :
      List.Forall₂ related list list' → SameFindings related (.ok list) (.ok list')

section

variable {related related' : Violation → Violation → Prop}
  {found found' : Except Defect (List Violation)}

theorem SameFindings.imp (implied : ∀ v v', related v v' → related' v v')
    (same : SameFindings related found found') : SameFindings related' found found' := by
  cases same with
  | defect d => exact .defect d
  | violations each => exact .violations (each.imp implied)

theorem SameFindings.of_eq (reflexive : ∀ v, related v v) (same : found = found') :
    SameFindings related found found' := by
  subst same
  cases found with
  | error d => exact .defect d
  | ok list => exact .violations (List.forall₂_same.mpr fun v _ => reflexive v)

variable {record other : Record} {dates : Dates} {recordType : String}

/-- The checks of all fields have related results if those of each field have. -/
theorem fields_related {rules rules' : List (String × Node)}
    (each : List.Forall₂ (fun rule rule' =>
      SameFindings related (Validation.field record recordType dates rule.1 rule.2).result
        (Validation.field other recordType dates rule'.1 rule'.2).result) rules rules') :
    SameFindings related (Validation.fields record recordType dates rules).result
      (Validation.fields other recordType dates rules').result := by
  induction each with
  | nil => exact .violations .nil
  | @cons rule rule' rest rest' first _ ih =>
    rw [Validation.fields, Validation.fields]
    dsimp only
    generalize (Validation.field record recordType dates rule.1 rule.2).result = here at first
    generalize (Validation.field other recordType dates rule'.1 rule'.2).result = here' at first
    cases first with
    | defect d => exact .defect d
    | violations now =>
      dsimp only
      generalize (Validation.fields record recordType dates rest).result = more at ih
      generalize (Validation.fields other recordType dates rest').result = more' at ih
      cases ih with
      | defect d => exact .defect d
      | violations later => exact .violations (List.rel_append now later)

/-- Two records have related results if the checks of all fields that are reached have. -/
theorem collect_related {store : Store} (reflexive : ∀ v, related v v)
    (each : ∀ document rules, store.find? recordType = some document →
      Resolved store.definitions document.fields rules → ∀ rule ∈ rules,
      SameFindings related (Validation.field record recordType dates rule.1 rule.2).result
        (Validation.field other recordType dates rule.1 rule.2).result) :
    SameFindings related (Validation.collect store dates record recordType).result
      (Validation.collect store dates other recordType).result := by
  cases found : store.find? recordType with
  | none => exact .of_eq reflexive (by rw [collect_of_none found, collect_of_none found])
  | some document =>
    cases resolves : Validation.resolved store document with
    | error defect =>
      have first := resolved_eq_error_iff.mp resolves
      exact .of_eq reflexive (by rw [collect_of_unresolved found first, collect_of_unresolved found first])
    | ok rules =>
      have resolved := resolved_eq_ok_iff.mp resolves
      rw [collect_of_resolved found resolved, collect_of_resolved found resolved]
      exact fields_related (List.forall₂_same.mpr (each document rules found resolved))

end

end RecordRules
