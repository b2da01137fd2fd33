/-
  Texts in the place of values. A text that is read as a number, in a field for numbers, or as a date,
  in a field for dates, is judged as this value is, however it is spelled: white space around it, an
  exponent or further zeros change nothing about what is complained of. They can be seen in messages,
  but only of those templates that show the value.

  1. `complaints_of_writes`: a text and the value that it writes have the same complaints.
  2. `violation_of_hidden_value`: a template that does not show the value words all values alike.
  3. `text_judged_as_value`: a text and the value that it writes are judged alike.
-/
import RecordRules.Proofs.Check.Dates
import RecordRules.Proofs.Check.Numbers
import RecordRules.Proofs.Check.Worded

namespace RecordRules

open Template (braced)

/-- A text writes a value of the kind that a node is for: a number with all that can be put around its
    digits, or a strict date with white space around it. -/
inductive Writes (rules : Node) : String → Value → Prop
  | number {s : String} {d : Decimal} :
      rules.HasType "number" → Decimal.ofText? s = some d → Writes rules s (.number d)
  | date {s : String} {d : Date} :
      rules.HasType "date" → Date.ofStrict? (Text.trim s) = some d → Writes rules s (.date d)

/-- The template of a property shows the value. -/
def Node.ShowsValue (n : Node) (property : String) : Prop :=
  ∃ before after, n.text? property = some (before ++ braced "value" ++ after)

/-! ## What is complained of -/

section

variable {rules : Node} {s : String} {value : Value}

/-- A text that writes a value is no more missing than the value. -/
theorem Writes.seen (writes : Writes rules s value) :
    Text.isBlankText s = false ∧ value.isBlank = false := by
  cases writes with
  | number _ read => exact ⟨IsNumber.isBlank_eq_false (.text read), rfl⟩
  | date _ reads => exact ⟨isBlankText_of_trimmed reads, rfl⟩

/-- A text and the value that it writes have the same complaints, or the same defect. -/
theorem complaints_of_writes (writes : Writes rules s value) (field : String) (dates : Dates) :
    Check.complaints field (some (.text s)) rules dates =
      Check.complaints field (some value) rules dates := by
  have text : Check.present (some (.text s)) = some (.text s) :=
    present_eq_some_iff.mpr ⟨rfl, writes.seen.1⟩
  have native : Check.present (some value) = some value :=
    present_eq_some_iff.mpr ⟨rfl, writes.seen.2⟩
  rw [Check.complaints, Check.complaints, text, native]
  cases writes with
  | number type read =>
    simp only [Check.presentComplaints, kind_eq_number_iff.mpr type, Check.number?, read]
  | date type reads =>
    simp only [Check.presentComplaints, kind_eq_date_iff.mpr type, Check.dateComplaints, reads]

end

/-! ## How it is worded -/

/-- A template that does not show the value words all values alike. -/
theorem violation_of_hidden_value {rules : Node} {c : Complaint}
    (hidden : ¬ rules.ShowsValue c.template) (field shown shown' : String) :
    c.violation field shown rules = c.violation field shown' rules := by
  unfold Complaint.violation Check.message
  cases declared : rules.text? c.template with
  | none => rfl
  | some template =>
    by_cases missing : c = .missing
    · subst missing
      rfl
    · rw [values_of_seen missing, values_of_seen missing]
      refine congrArg (Violation.mk field) (Template.render_congr rfl fun key there => ?_)
      have other : key ≠ "value" := by
        intro same
        obtain ⟨before, after, split⟩ := there
        exact hidden ⟨before, after, by rw [declared, split, same]⟩
      by_cases name : key = "field"
      · subst name
        rfl
      · rw [List.cons_append, List.cons_append, List.cons_append, List.cons_append,
          lookup_cons_of_ne name, lookup_cons_of_ne name, lookup_cons_of_ne other,
          lookup_cons_of_ne other]

/-! ## Judgements -/

/-- A text is judged as the value that it writes: there is the same defect, or the same is complained
    of in the same order. A complaint is in the same words as well if the text is how the value is
    shown, or if the template of the complaint does not show the value. If no template does, the
    results are the same. -/
theorem text_judged_as_value (field : String) (rules : Node) (dates : Dates) (s : String)
    (value : Value) (writes : Writes rules s value) :
    ((∃ defect, Check.field field (some (.text s)) rules dates = .error defect ∧
        Check.field field (some value) rules dates = .error defect) ∨
      ∃ complaints, Check.complaints field (some value) rules dates = .ok complaints ∧
        Check.field field (some (.text s)) rules dates =
          .ok (complaints.map (Complaint.violation field s rules)) ∧
        Check.field field (some value) rules dates =
          .ok (complaints.map (Complaint.violation field value.shown rules)) ∧
        ∀ c ∈ complaints, s = value.shown ∨ ¬ rules.ShowsValue c.template →
          c.violation field s rules = c.violation field value.shown rules) ∧
    ((s = value.shown ∨ ∀ property ∈ templates, ¬ rules.ShowsValue property) →
      Check.field field (some (.text s)) rules dates =
        Check.field field (some value) rules dates) := by
  have worded (c : Complaint) (alike : s = value.shown ∨ ¬ rules.ShowsValue c.template) :
      c.violation field s rules = c.violation field value.shown rules := by
    rcases alike with same | hidden
    · rw [same]
    · exact violation_of_hidden_value hidden field s value.shown
  have same := complaints_of_writes writes field dates
  have text := field_eq_complaints field (some (.text s)) rules dates
  have native := field_eq_complaints field (some value) rules dates
  rw [same] at text
  cases raised : Check.complaints field (some value) rules dates with
  | error defect =>
    rw [raised, Except.map] at text native
    exact ⟨.inl ⟨defect, text, native⟩, fun _ => text.trans native.symm⟩
  | ok complaints =>
    rw [raised, Except.map] at text native
    refine ⟨.inr ⟨complaints, rfl, text, native, fun c _ => worded c⟩, fun alike => ?_⟩
    rw [text, native]
    refine congrArg Except.ok (List.map_congr_left fun c _ => worded c ?_)
    rcases alike with same | hidden
    · exact .inl same
    · exact .inr (hidden _ c.template_mem)

/-- A number with bounds of which every number breaks one. Only one message shows it. -/
def feeNode : Node :=
  ⟨.ofList [("type", .text "number"), ("minValue", .nat 2), ("maxValue", .nat 1),
    ("errorMessageMinValue", .text "\x7bvalue\x7d < \x7bminValue\x7d"),
    ("errorMessageMaxValue", .text "> \x7bmaxValue\x7d")]⟩

/-- A number and a text of it break the same bounds, and the text is seen in the first message. A date
    and a text of it have the same messages, since nothing shows them. -/
theorem text_judged_as_value_feeNode :
    Writes feeNode " 15e-1 " (.number ⟨15, 1⟩) ∧
      (∀ dates, ∃ complaints : List Complaint,
        Check.field "fee" (some (.text " 15e-1 ")) feeNode dates =
          .ok (complaints.map (Complaint.violation "fee" " 15e-1 " feeNode)) ∧
        Check.field "fee" (some (.number ⟨15, 1⟩)) feeNode dates =
          .ok (complaints.map (Complaint.violation "fee" "1.5" feeNode)) ∧
        Check.field "fee" (some (.text " 15e-1 ")) feeNode dates =
          .ok [⟨"fee", " 15e-1  < 2"⟩, ⟨"fee", "> 1"⟩] ∧
        Check.field "fee" (some (.number ⟨15, 1⟩)) feeNode dates =
          .ok [⟨"fee", "1.5 < 2"⟩, ⟨"fee", "> 1"⟩]) ∧
      ∀ dates, Check.field "due" (some (.text " 2000-01-01 ")) dueNode dates =
        Check.field "due" (some (.date ⟨2000, 1, 1, by decide⟩)) dueNode dates := by
  have number : Writes feeNode " 15e-1 " (.number ⟨15, 1⟩) :=
    .number ⟨"number", rfl, by decide⟩ (by cbv)
  have date : Writes dueNode " 2000-01-01 " (.date ⟨2000, 1, 1, by decide⟩) :=
    .date ⟨"DATE", rfl, by decide⟩ (by cbv)
  have hidden : ∀ property ∈ templates, ¬ dueNode.ShowsValue property := by
    intro property template shows_value
    obtain ⟨before, after, declared⟩ := shows_value
    have undeclared : ∀ property ∈ templates, dueNode.text? property = none := by decide
    rw [undeclared property template] at declared
    cases declared
  have shown : (Value.number ⟨15, 1⟩).shown = "1.5" := by cbv
  refine ⟨number, fun dates => ?_, fun dates => ?_⟩
  · have text : Check.field "fee" (some (.text " 15e-1 ")) feeNode dates =
        .ok [⟨"fee", " 15e-1  < 2"⟩, ⟨"fee", "> 1"⟩] := by cbv
    have native : Check.field "fee" (some (.number ⟨15, 1⟩)) feeNode dates =
        .ok [⟨"fee", "1.5 < 2"⟩, ⟨"fee", "> 1"⟩] := by cbv
    rcases (text_judged_as_value "fee" feeNode dates _ _ number).1 with
      ⟨defect, broken, _⟩ | ⟨complaints, _, raised, raised', _⟩
    · cases text.symm.trans broken
    · exact ⟨complaints, raised, shown ▸ raised', text, native⟩
  · exact (text_judged_as_value "due" dueNode dates _ _ date).2 (.inr hidden)

end RecordRules
