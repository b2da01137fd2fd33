/-
  Rules in other words. Two documents whose fields resolve to nodes that declare the same, apart from
  the templates of messages, judge every record alike: they have the same defect, or find nothing
  both, or find violations of the same fields in the same order. A message differs only if the
  template of the rule that was broken does.

  1. `Reworded`: two violations for one complaint.
  2. `fields_reworded`: the checks of all fields, under rules in other words.
  3. `templates_change_wording`: what that means for the validation of a record.
-/
import RecordRules.Proofs.Check.Complaints
import RecordRules.Proofs.Resolution.Inheritance
import RecordRules.Proofs.Validation.Related

namespace RecordRules

/-- Violations for one complaint under the rules of one field in two wordings: the same violation, or
    one that is worded otherwise because the template of the complaint is another. -/
inductive Reworded (record : Record) (dates : Dates) (rules rules' : List (String × Node)) :
    Violation → Violation → Prop
  | same (v : Violation) : Reworded record dates rules rules' v v
  | template {name : String} {node node' : Node} {value : Option Value}
      {complaints : List Complaint} {c : Complaint} :
      ((name, node), (name, node')) ∈ rules.zip rules' → record.field name = .ok value →
      Check.complaints name value node dates = .ok complaints → c ∈ complaints →
      node.text? c.template ≠ node'.text? c.template →
      Reworded record dates rules rules' (c.violation name (shownValue value) node)
        (c.violation name (shownValue value) node')

/-- Two outcomes of one kind: both pass, both have the same defect, or both have violations, which
    are related one by one. -/
inductive SameOutcome (related : Violation → Violation → Prop) :
    Except Failure Unit → Except Failure Unit → Prop
  | passed : SameOutcome related (.ok ()) (.ok ())
  | defect (d : Defect) : SameOutcome related (.error (.defect d)) (.error (.defect d))
  | violations {list list' : List Violation} :
      List.Forall₂ related list list' →
      SameOutcome related (.error (.violations list)) (.error (.violations list'))

theorem SameFindings.outcome {related : Violation → Violation → Prop}
    {found found' : Except Defect (List Violation)} (same : SameFindings related found found') :
    SameOutcome related (Validation.outcome found) (Validation.outcome found') := by
  cases same with
  | defect d => exact .defect d
  | violations each =>
    cases each with
    | nil => exact .passed
    | cons here rest => exact .violations (.cons here rest)

section

variable {record : Record} {dates : Dates} {recordType : String}

/-! ## One field -/

/-- A complaint is worded alike under equal templates. -/
theorem violation_congr {c : Complaint} {node node' : Node}
    (same : node.text? c.template = node'.text? c.template) (field shown : String) :
    c.violation field shown node = c.violation field shown node' := by
  rw [Complaint.violation, Complaint.violation, Check.message, Check.message, same]

theorem field_reworded {name : String} {node node' : Node} (same : SameButWording node node') :
    SameFindings
      (fun v v' => v.field = v'.field ∧
        Reworded record dates [(name, node)] [(name, node')] v v')
      (Validation.field record recordType dates name node).result
      (Validation.field record recordType dates name node').result := by
  unfold Validation.field
  cases given : record.field name with
  | error fault => exact .violations (.cons ⟨rfl, .same _⟩ .nil)
  | ok value =>
    dsimp only
    rw [field_eq_complaints, field_eq_complaints, ← complaints_congr same]
    cases raised : Check.complaints name value node dates with
    | error d => exact .defect d
    | ok complaints =>
      refine .violations ?_
      rw [List.forall₂_map_left_iff, List.forall₂_map_right_iff, List.forall₂_same]
      intro c listed
      refine ⟨rfl, ?_⟩
      by_cases template : node.text? c.template = node'.text? c.template
      · rw [violation_congr template]
        exact .same _
      · exact .template (List.mem_singleton_self _) given raised listed template

/-! ## All fields -/

theorem Reworded.mono {rules rules' all all' : List (String × Node)}
    (within : rules.zip rules' ⊆ all.zip all') {v v' : Violation}
    (reworded : Reworded record dates rules rules' v v') :
    Reworded record dates all all' v v' := by
  cases reworded with
  | same => exact .same _
  | template listed given raised there other =>
    exact .template (within listed) given raised there other

/-- Rules in other words find the same violations, or the same defect. -/
theorem fields_reworded {rules rules' : List (String × Node)}
    (same : List.Forall₂ (fun rule rule' => rule.1 = rule'.1 ∧ SameButWording rule.2 rule'.2)
      rules rules') :
    SameFindings (fun v v' => v.field = v'.field ∧ Reworded record dates rules rules' v v')
      (Validation.fields record recordType dates rules).result
      (Validation.fields record recordType dates rules').result := by
  obtain ⟨length, alike⟩ := List.forall₂_iff_zip.mp same
  refine fields_related (List.forall₂_iff_zip.mpr ⟨length, fun {rule rule'} listed => ?_⟩)
  obtain ⟨name, node⟩ := rule
  obtain ⟨name', node'⟩ := rule'
  obtain ⟨rfl, here⟩ := alike listed
  exact (field_reworded here).imp fun _ _ ⟨field, reworded⟩ =>
    ⟨field, reworded.mono (by simpa using listed)⟩

end

/-! ## Validation -/

/-- Two documents with the same fields, whose nodes resolve to rules that differ in their templates
    only, give every record the same outcome: both pass, both have the same defect, or both have
    violations of the same fields in the same order, and messages differ only where the template of
    the broken rule does. -/
theorem templates_change_wording (store store' : Store) (recordType : String)
    (document document' : Document) (rules rules' : List (String × Node))
    (found : store.find? recordType = some document)
    (found' : store'.find? recordType = some document')
    (resolved : Resolved store.definitions document.fields rules)
    (resolved' : Resolved store'.definitions document'.fields rules')
    (same : List.Forall₂ (fun rule rule' => rule.1 = rule'.1 ∧ SameButWording rule.2 rule'.2)
      rules rules')
    (record : Record) (dates : Dates) :
    SameOutcome (fun v v' => v.field = v'.field ∧ Reworded record dates rules rules' v v')
      (Validation.validate store dates record recordType).result
      (Validation.validate store' dates record recordType).result := by
  rw [validate_result, validate_result, collect_of_resolved found resolved,
    collect_of_resolved found' resolved']
  exact (fields_reworded same).outcome

/-- Rules for notes. -/
def noteRules : Node := ⟨.ofList [("required", .bool true), ("maxLength", .nat 2)]⟩

/-- The rules for notes with wordings, of which one is no text. -/
def wordedNoteRules : Node :=
  (noteRules.insert "errorMessageRequired" .null).insert "errorMessageMaxLength"
    (.text "\x7bvalue\x7d is too long.")

/-- The fields of a memo: a note, and an amount with a constraint that its type does not look at. -/
def memoFields (rules : Node) : List (String × Node) :=
  [("note", rules), ("amount", ⟨.ofList [("minValue", .text "low")]⟩)]

/-- A store with rules for memos. -/
def memos (rules : Node) : Store where
  definitions := .empty
  documents := [("memo", ⟨memoFields rules⟩)]
  ascending := by simp

theorem templates_change_wording_memos :
    SameButWording noteRules wordedNoteRules ∧
    ∀ record dates,
      SameOutcome (fun v v' => v.field = v'.field ∧
          Reworded record dates (memoFields noteRules) (memoFields wordedNoteRules) v v')
        (Validation.validate (memos noteRules) dates record "memo").result
        (Validation.validate (memos wordedNoteRules) dates record "memo").result := by
  have same : SameButWording noteRules wordedNoteRules :=
    (sameButWording_insert (by decide) noteRules .null).trans (sameButWording_insert (by decide) _ _)
  have resolved (rules : Node) (plain : rules.reference? = none) :
      Resolved (memos rules).definitions (memoFields rules) (memoFields rules) :=
    .cons ⟨rfl, resolve_of_no_reference plain _⟩
      (.cons ⟨rfl, resolve_of_no_reference (by decide) _⟩ .nil)
  refine ⟨same, fun record dates => ?_⟩
  exact templates_change_wording (memos noteRules) (memos wordedNoteRules) "memo" _ _ _ _ rfl rfl
    (resolved noteRules (by decide)) (resolved wordedNoteRules (by decide))
    (.cons ⟨rfl, same⟩ (.cons ⟨rfl, fun _ _ => rfl⟩ .nil)) record dates

end RecordRules
