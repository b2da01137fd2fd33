/-
  Messages from templates. Every template is rendered with the name of the field, and with the value
  as messages show it, wherever they stand in it. The one exception is a value of blanks only: it
  counts as missing, and a missing value is not shown.

  1. `Shows`: where a template has a word in braces, the message has a text.
  2. `message_of_complaint`: the message of each complaint with a template.
  3. `templates_show_field_and_value`: the same for all violations of a field.
-/
import RecordRules.Proofs.Check.Complaints
import RecordRules.Proofs.Template

namespace RecordRules

open Template (BraceFree braced render)

/-- The message shows a text wherever the template has a word in braces, and what stands around it is
    rendered by itself. -/
def Shows (values : Template.Values) (template message word shown : String) : Prop :=
  ∀ before after, template = before ++ braced word ++ after →
    message = render before values ++ shown ++ render after values

theorem shows_value {values : Template.Values}
    (braceFree : ∀ key ∈ values.map Prod.fst, BraceFree key) {key value : String}
    (found : values.lookup key = some value) (template : String) :
    Shows values template (render template values) key value := by
  rintro before after rfl
  exact Template.render_around_key braceFree found

theorem shows_word {values : Template.Values}
    (braceFree : ∀ key ∈ values.map Prod.fst, BraceFree key) {word : String}
    (other : word ∉ values.map Prod.fst) (free : BraceFree word) (template : String) :
    Shows values template (render template values) word (braced word) := by
  rintro before after rfl
  exact Template.render_around_word braceFree other free

theorem braceFree_field : BraceFree "field" := by unfold BraceFree; decide

theorem braceFree_value : BraceFree "value" := by unfold BraceFree; decide

theorem braceFree_minDate : BraceFree "minDate" := by unfold BraceFree; decide

theorem braceFree_property (c : Constraint) : BraceFree c.property := by
  unfold BraceFree
  cases c <;> decide

theorem braceFree_placeholders (c : Complaint) :
    ∀ key ∈ c.placeholders.map Prod.fst, BraceFree key := by
  cases c with
  | limit l => exact List.forall_mem_singleton.mpr (braceFree_property l.constraint)
  | past today => exact List.forall_mem_singleton.mpr braceFree_minDate
  | missing | noText | noNumber | misspeltDate | noDate | weekend | holiday => exact nofun

/-- The values of a complaint about a value that is there. -/
theorem values_of_seen {c : Complaint} (seen : c ≠ .missing) (field shown : String) :
    c.values field shown = [("field", field), ("value", shown)] ++ c.placeholders := by
  cases c <;> first | rfl | exact absurd rfl seen

section

variable {field shown template : String} {rules : Node}

theorem message_of_template {c : Complaint} (declared : rules.text? c.template = some template) :
    (c.violation field shown rules).message = render template (c.values field shown) := by
  rw [Complaint.violation, Check.message, declared]

/-- A template for a value that is there shows the field and the value. -/
theorem message_of_complaint {c : Complaint} (seen : c ≠ .missing)
    (declared : rules.text? c.template = some template) :
    ∃ values, values = [("field", field), ("value", shown)] ++ c.placeholders ∧
      (c.violation field shown rules).message = render template values ∧
      Shows values template (c.violation field shown rules).message "field" field ∧
      Shows values template (c.violation field shown rules).message "value" shown := by
  have braceFree : ∀ key ∈ ([("field", field), ("value", shown)] ++ c.placeholders).map Prod.fst,
      BraceFree key :=
    List.forall_mem_cons.mpr ⟨braceFree_field,
      List.forall_mem_cons.mpr ⟨braceFree_value, braceFree_placeholders c⟩⟩
  refine ⟨_, rfl, ?_⟩
  rw [message_of_template declared, values_of_seen seen]
  exact ⟨rfl, shows_value braceFree rfl template, shows_value braceFree rfl template⟩

/-- A template for a missing value shows the field, and leaves the word for the value as it is. -/
theorem message_of_missing
    (declared : rules.text? Complaint.missing.template = some template) :
    (Complaint.missing.violation field shown rules).message = render template [("field", field)] ∧
      Shows [("field", field)] template (Complaint.missing.violation field shown rules).message
        "field" field ∧
      Shows [("field", field)] template (Complaint.missing.violation field shown rules).message
        "value" (braced "value") := by
  have braceFree : ∀ key ∈ [("field", field)].map Prod.fst, BraceFree key :=
    List.forall_mem_singleton.mpr braceFree_field
  rw [message_of_template declared]
  exact ⟨rfl, shows_value braceFree rfl template,
    shows_word braceFree (by simp) braceFree_value template⟩

end

theorem missing_not_mem_dayComplaints (rules : Node) (dates : Dates) (day : Date) :
    .missing ∉ Check.dayComplaints rules dates day := by
  unfold Check.dayComplaints
  rw [List.mem_append, not_or]
  constructor
  · split <;> simp
  · split
    · split
      · simp
      · split <;> simp
    · simp

theorem missing_not_mem_dateComplaints (rules : Node) (dates : Dates) (value : Value) :
    .missing ∉ Check.dateComplaints rules dates value := by
  unfold Check.dateComplaints
  split
  · exact missing_not_mem_dayComplaints rules dates _
  · split
    · exact missing_not_mem_dayComplaints rules dates _
    · simp
  · simp

theorem missing_not_mem_brokenLimits {field : String} {rules : Node} {constraints : List Constraint}
    {broken : Limit → Bool} {complaints : List Complaint}
    (raised : Check.brokenLimits field rules constraints broken = .ok complaints) :
    .missing ∉ complaints := by
  obtain ⟨limits, _, rfl⟩ := map_eq_ok_iff.mp raised
  simp

/-- A value that is there is not complained about as missing. -/
theorem missing_not_mem_presentComplaints {field : String} {value : Value} {rules : Node}
    {dates : Dates} {complaints : List Complaint}
    (raised : Check.presentComplaints field value rules dates = .ok complaints) :
    .missing ∉ complaints := by
  unfold Check.presentComplaints at raised
  split at raised
  · split at raised
    · exact missing_not_mem_brokenLimits raised
    · cases raised
      simp
  · split at raised
    · exact missing_not_mem_brokenLimits raised
    · cases raised
      simp
  · cases raised
    exact missing_not_mem_dateComplaints rules dates value
  · cases raised
    exact List.not_mem_nil

/-- A value is complained about as missing, and as nothing else, exactly if it is blank. -/
theorem complaints_of_blank {field : String} {value : Value} {rules : Node} {dates : Dates}
    {complaints : List Complaint}
    (raised : Check.complaints field (some value) rules dates = .ok complaints) {c : Complaint}
    (listed : c ∈ complaints) : c = .missing ↔ value.isBlank = true := by
  unfold Check.complaints at raised
  cases blank : value.isBlank with
  | false =>
    rw [present_eq_some_iff.mpr ⟨rfl, blank⟩] at raised
    have other := missing_not_mem_presentComplaints raised
    simp only [Bool.false_eq_true, iff_false]
    rintro rfl
    exact other listed
  | true =>
    have absent : Check.present (some value) = none := by simp [Check.present, blank]
    rw [absent] at raised
    cases raised
    split at listed
    · simpa using listed
    · cases listed

/-- All violations of a field are complaints in their wordings. A declared template is rendered with
    the name of the field, with the value as it is shown, and with what the complaint adds, so that
    no word for the field or for the value is left in it. For a value of blanks only the template is
    rendered with the name of the field alone, and the word for the value is left. -/
theorem templates_show_field_and_value (field : String) (value : Value) (rules : Node)
    (dates : Dates) (violations : List Violation)
    (checked : Check.field field (some value) rules dates = .ok violations) :
    ∃ complaints, Check.complaints field (some value) rules dates = .ok complaints ∧
      violations = complaints.map (Complaint.violation field value.shown rules) ∧
      ∀ c ∈ complaints, ∀ template, rules.text? c.template = some template →
        ∃ values : Template.Values,
          (c.violation field value.shown rules).message = render template values ∧
          Shows values template (c.violation field value.shown rules).message "field" field ∧
          (value.isBlank = false →
            values = [("field", field), ("value", value.shown)] ++ c.placeholders ∧
            Shows values template (c.violation field value.shown rules).message "value"
              value.shown) ∧
          (value.isBlank = true →
            values = [("field", field)] ∧
            Shows values template (c.violation field value.shown rules).message "value"
              (braced "value")) := by
  rw [field_eq_complaints] at checked
  obtain ⟨complaints, raised, rfl⟩ := map_eq_ok_iff.mp checked
  refine ⟨complaints, raised, rfl, fun c listed template declared => ?_⟩
  have blank := complaints_of_blank raised listed
  by_cases missing : c = .missing
  · subst missing
    obtain ⟨rendered, shown, left⟩ := message_of_missing declared
    have there : ¬ value.isBlank = false := by simp [blank.mp rfl]
    exact ⟨_, rendered, shown, fun seen => absurd seen there, fun _ => ⟨rfl, left⟩⟩
  · obtain ⟨values, same, rendered, shown, shown'⟩ :=
      message_of_complaint missing declared
    exact ⟨values, rendered, shown, fun _ => ⟨same, shown'⟩,
      fun absent => absurd (blank.mpr absent) missing⟩

/-- A required text whose templates show the value. -/
def noteNode : Node :=
  ⟨.ofList [("required", .bool true), ("maxLength", .nat 2),
    ("errorMessageRequired", .text "\x7bfield\x7d: '\x7bvalue\x7d'"),
    ("errorMessageMaxLength", .text "\x7bvalue\x7d > \x7bmaxLength\x7d")]⟩

/-- A value that looks like a word in braces is shown as it is. -/
theorem templates_show_field_and_value_noteNode :
    (∀ dates, Check.field "note" (some (.text "\x7bvalue\x7d")) noteNode dates =
      .ok [⟨"note", "\x7bvalue\x7d > 2"⟩]) ∧
    ∀ dates, ∃ complaints,
      Check.complaints "note" (some (.text "\x7bvalue\x7d")) noteNode dates = .ok complaints ∧
      [⟨"note", "\x7bvalue\x7d > 2"⟩] =
        complaints.map (Complaint.violation "note" "\x7bvalue\x7d" noteNode) := by
  have checked dates : Check.field "note" (some (.text "\x7bvalue\x7d")) noteNode dates =
      .ok [⟨"note", "\x7bvalue\x7d > 2"⟩] := by cbv
  refine ⟨checked, fun dates => ?_⟩
  obtain ⟨complaints, raised, same, _⟩ :=
    templates_show_field_and_value "note" (.text "\x7bvalue\x7d") noteNode dates _ (checked dates)
  exact ⟨complaints, raised, same⟩

/-- Blanks are not shown, although they are the value: the word for the value is left. -/
theorem blanks_not_shown :
    noteNode.text? "errorMessageRequired" = some "\x7bfield\x7d: '\x7bvalue\x7d'" ∧
    (∀ dates, Check.field "note" (some (.text "  ")) noteNode dates =
      .ok [⟨"note", "note: '\x7bvalue\x7d'"⟩]) ∧
    render "\x7bfield\x7d: '\x7bvalue\x7d'" [("field", "note"), ("value", "  ")] =
      "note: '  '" := by
  refine ⟨rfl, fun dates => ?_, ?_⟩
  · cbv
  · cbv

end RecordRules
