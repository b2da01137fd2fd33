/-
  Fields for dates. A value that is no date is one violation. A day can break two rules, and neither
  hides the other: it can be in the past, and it can be one of the days off, that is, fall on a weekend
  or be a holiday. Of a day that is both only the weekend is reported. Which days come before which and
  on what day of the week they fall is told from the calendar, and not from the count of days.

  1. `dateComplaints_of_isDate`, `dateComplaints_of_not_isDate`: a date is checked as its day.
  2. `mem_dayComplaints_iff`: what is complained about a day.
  3. `dayComplaints_sublist`: each at most once and in order.
  4. `date_violations`: the violations of a field for dates.
-/
import RecordRules.Proofs.Check.Complaints
import RecordRules.Proofs.Date.Texts

namespace RecordRules

/-! ## Days and their rules -/

/-- Dates, and texts that spell a day between white space. -/
inductive IsDate : Value → Date → Prop
  | date (d : Date) : IsDate (.date d) d
  | text {s : String} {d : Date} : Date.Spelled (Text.trim s).toList d → IsDate (.text s) d

/-- A node forbids days before the day of the check. The case of letters does not count. -/
def Node.ForbidsPast (n : Node) : Prop :=
  ∃ token, n.find? "minDate" = some (.text token) ∧ Text.sameLetters token "today" = true

/-- A node forbids weekends and holidays. -/
def Node.ForbidsDaysOff (n : Node) : Prop :=
  n.find? "customRule" = some (.text "noWeekendOrHoliday")

/-- What a day breaks of the rules of a node. A holiday that falls on a weekend counts as a day of the
    weekend. -/
inductive DayBreaks (rules : Node) (dates : Dates) (day : Date) : Complaint → Prop
  | past : rules.ForbidsPast → day.Precedes dates.today →
      DayBreaks rules dates day (.past dates.today)
  | weekend : rules.ForbidsDaysOff → day.OnWeekend → DayBreaks rules dates day .weekend
  | holiday : rules.ForbidsDaysOff → ¬ day.OnWeekend → dates.isHoliday day = true →
      DayBreaks rules dates day .holiday

theorem forbidsPast_iff {rules : Node} : Check.forbidsPast rules = true ↔ rules.ForbidsPast := by
  unfold Check.forbidsPast Node.ForbidsPast
  simp only [Option.any_eq_true, text?_eq_some_iff]
  rfl

theorem forbidsDaysOff_iff {rules : Node} :
    rules.text? "customRule" = some Check.noWeekendOrHoliday ↔ rules.ForbidsDaysOff :=
  text?_eq_some_iff

/-! ## Complaints about days -/

section

variable {rules : Node} {dates : Dates} {day : Date}

theorem past_iff :
    (Check.forbidsPast rules && day.before dates.today) = true ↔
      rules.ForbidsPast ∧ day.Precedes dates.today := by
  rw [Bool.and_eq_true, forbidsPast_iff, Date.before_iff_precedes]

/-- The complaints about a day are about what it breaks. -/
theorem mem_dayComplaints_iff {c : Complaint} :
    c ∈ Check.dayComplaints rules dates day ↔ DayBreaks rules dates day c := by
  unfold Check.dayComplaints
  rw [List.mem_append]
  constructor
  · intro there
    rcases there with there | there
    · split at there
      · next past =>
        rw [List.mem_singleton.mp there]
        exact .past (past_iff.mp past).1 (past_iff.mp past).2
      · cases there
    · split at there
      · next forbidden =>
        have forbids := forbidsDaysOff_iff.mp forbidden
        split at there
        · next weekend =>
          rw [List.mem_singleton.mp there]
          exact .weekend forbids (Date.isWeekend_iff.mp weekend)
        · next workday =>
          split at there
          · next holiday =>
            rw [List.mem_singleton.mp there]
            exact .holiday forbids (fun weekend => workday (Date.isWeekend_iff.mpr weekend)) holiday
          · cases there
      · cases there
  · intro broken
    cases broken with
    | past forbids precedes =>
      rw [if_pos (past_iff.mpr ⟨forbids, precedes⟩)]
      exact .inl (List.mem_singleton_self _)
    | weekend forbids weekend =>
      rw [if_pos (forbidsDaysOff_iff.mpr forbids), if_pos (Date.isWeekend_iff.mpr weekend)]
      exact .inr (List.mem_singleton_self _)
    | holiday forbids workday holiday =>
      have other : ¬ day.isWeekend = true := fun weekend => workday (Date.isWeekend_iff.mp weekend)
      rw [if_pos (forbidsDaysOff_iff.mpr forbids), if_neg other, if_pos holiday]
      exact .inr (List.mem_singleton_self _)

theorem dayComplaints_sublist :
    (Check.dayComplaints rules dates day).Sublist [.past dates.today, .weekend, .holiday] := by
  have past : (if Check.forbidsPast rules && day.before dates.today then
      [Complaint.past dates.today] else []).Sublist [.past dates.today] := by
    split
    · exact .refl _
    · exact List.nil_sublist _
  refine past.append ?_
  split
  · split
    · exact List.sublist_append_left [_] [_]
    · split
      · exact List.sublist_append_right [_] [_]
      · exact List.nil_sublist _
  · exact List.nil_sublist _

theorem dateComplaints_of_isDate {value : Value} (isDate : IsDate value day) :
    Check.dateComplaints rules dates value = Check.dayComplaints rules dates day := by
  cases isDate with
  | date => rfl
  | @text s _ spelled =>
    have reads : Date.ofStrict? (Text.trim s) = some day :=
      Date.ofStrictChars?_eq_some_iff.mpr spelled
    simp only [Check.dateComplaints, reads]

theorem dateComplaints_of_misspelt {text : String} (other : ∀ d, ¬ IsDate (.text text) d) :
    Check.dateComplaints rules dates (.text text) = [.misspeltDate] := by
  have unread : Date.ofStrict? (Text.trim text) = none := by
    rw [Option.eq_none_iff_forall_ne_some]
    intro d reads
    exact other d (.text (Date.ofStrictChars?_eq_some_iff.mp reads))
  simp only [Check.dateComplaints, unread]

theorem dateComplaints_of_not_text {value : Value} (other : ∀ d, ¬ IsDate value d)
    (noText : ∀ text, value ≠ .text text) :
    Check.dateComplaints rules dates value = [.noDate] := by
  cases value with
  | date d => exact absurd (.date d) (other d)
  | text s => exact absurd rfl (noText s)
  | number | bool | other => rfl

end

/-! ## Fields -/

section

variable {rules : Node} {field shown : String}

theorem field_of_hasType_date (type : rules.HasType "date") {value : Value}
    (seen : value.isBlank = false) (field : String) (dates : Dates) :
    Check.field field (some value) rules dates =
      .ok ((Check.dateComplaints rules dates value).map
        (Complaint.violation field value.shown rules)) := by
  rw [field_of_seen seen, presentValue_eq]
  simp only [Check.presentComplaints, kind_eq_date_iff.mpr type]
  rfl

theorem message_of_no_template {c : Complaint} (undeclared : rules.text? c.template = none) :
    (c.violation field shown rules).message = c.wording field := by
  simp only [Complaint.violation, Check.message, undeclared]

/-- A day that breaks the rule against days off is told the weekend rather than the holiday. -/
theorem DayBreaks.message_of_day_off {dates : Dates} {day : Date} {c : Complaint}
    (broken : DayBreaks rules dates day c) (rule : c.template = "errorMessageCustomRule")
    (undeclared : rules.text? "errorMessageCustomRule" = none) :
    (day.OnWeekend → (c.violation field shown rules).message = "Date cannot be a weekend.") ∧
      (¬ day.OnWeekend →
        (c.violation field shown rules).message = "Date cannot be a public holiday.") := by
  rw [message_of_no_template (rule ▸ undeclared)]
  cases broken with
  | past => exact absurd rule (show "errorMessageMinDate" ≠ "errorMessageCustomRule" by decide)
  | weekend _ weekend => exact ⟨fun _ => rfl, fun workday => absurd weekend workday⟩
  | holiday _ workday _ => exact ⟨fun weekend => absurd weekend workday, fun _ => rfl⟩

end

/-- A value that is no date is one violation of the type in a field for dates. A date has a violation
    for what its day breaks: first that it is in the past, which is before the day of the check, and
    then one of the days off. If no message is declared for days off, a weekend is told as such, also
    if it is a holiday as well. -/
theorem date_violations (field : String) (rules : Node) (dates : Dates) (value : Value)
    (type : rules.HasType "date") (seen : value.isBlank = false) :
    ((∀ d, ¬ IsDate value d) →
      (∀ text, value = .text text →
        Check.field field (some value) rules dates =
          .ok [Check.Subject.violation ⟨field, text, rules⟩ "errorMessageType"
            "Invalid date format. Expected yyyy-MM-dd."]) ∧
      ((∀ text, value ≠ .text text) →
        Check.field field (some value) rules dates =
          .ok [Check.Subject.violation ⟨field, value.shown, rules⟩ "errorMessageType"
            "Invalid date type."])) ∧
    ∀ d, IsDate value d →
      ∃ complaints : List Complaint,
        (∀ c, c ∈ complaints ↔ DayBreaks rules dates d c) ∧
        complaints.Sublist [.past dates.today, .weekend, .holiday] ∧
        ¬ (.weekend ∈ complaints ∧ .holiday ∈ complaints) ∧
        Check.field field (some value) rules dates =
          .ok (complaints.map (Complaint.violation field value.shown rules)) ∧
        (rules.text? "errorMessageCustomRule" = none →
          ∀ c ∈ complaints, c.template = "errorMessageCustomRule" →
            (d.OnWeekend →
              (c.violation field value.shown rules).message = "Date cannot be a weekend.") ∧
            (¬ d.OnWeekend →
              (c.violation field value.shown rules).message =
                "Date cannot be a public holiday.")) := by
  have checked := field_of_hasType_date type seen field dates
  refine ⟨fun other => ⟨?_, ?_⟩, fun d isDate => ?_⟩
  · intro text same
    subst same
    rw [checked, dateComplaints_of_misspelt other]
    rfl
  · intro noText
    rw [checked, dateComplaints_of_not_text other noText]
    rfl
  · rw [dateComplaints_of_isDate isDate] at checked
    refine ⟨_, fun c => mem_dayComplaints_iff, dayComplaints_sublist, ?_, checked, ?_⟩
    · intro ⟨weekend, holiday⟩
      cases mem_dayComplaints_iff.mp weekend with
      | weekend _ weekend =>
        cases mem_dayComplaints_iff.mp holiday with
        | holiday _ workday _ => exact workday weekend
    · intro undeclared c there rule
      exact (mem_dayComplaints_iff.mp there).message_of_day_off rule undeclared

/-- A day on which nothing is done that was due before it, on weekends, or on holidays. -/
def dueNode : Node :=
  ⟨.ofList [("type", .text "DATE"), ("minDate", .text "Today"),
    ("customRule", .text "noWeekendOrHoliday")]⟩

/-- The first of March in the year 2000, if all days are holidays. -/
def afterLeapDay : Dates := ⟨⟨2000, 3, 1, by decide⟩, fun _ => true⟩

/-- The first day of the year 2000 is a Saturday, so that it breaks both rules, and the second one as
    a day of a weekend. The 29th of February in the year after is no day. -/
theorem date_violations_dueNode :
    dueNode.HasType "date" ∧ IsDate (.text " 2000-01-01 ") ⟨2000, 1, 1, by decide⟩ ∧
      (∃ complaints : List Complaint,
        (∀ c, c ∈ complaints ↔ DayBreaks dueNode afterLeapDay ⟨2000, 1, 1, by decide⟩ c) ∧
        Check.field "due" (some (.text " 2000-01-01 ")) dueNode afterLeapDay =
          .ok (complaints.map (Complaint.violation "due" " 2000-01-01 " dueNode))) ∧
      Check.field "due" (some (.text " 2000-01-01 ")) dueNode afterLeapDay =
        .ok [⟨"due", "Date cannot be in the past."⟩, ⟨"due", "Date cannot be a weekend."⟩] ∧
      Check.field "due" (some (.text "2001-02-29")) dueNode afterLeapDay =
        .ok [⟨"due", "Invalid date format. Expected yyyy-MM-dd."⟩] := by
  have type : dueNode.HasType "date" := ⟨"DATE", rfl, by decide⟩
  have isDate : IsDate (.text " 2000-01-01 ") ⟨2000, 1, 1, by decide⟩ :=
    .text (Date.ofStrictChars?_eq_some_iff.mp (by cbv))
  have noDate : ∀ d, ¬ IsDate (.text "2001-02-29") d := by
    intro d isDate
    cases isDate with
    | text spelled =>
      have unread : Date.ofStrictChars? (Text.trim "2001-02-29").toList = none := by cbv
      cases unread.symm.trans (Date.ofStrictChars?_eq_some_iff.mpr spelled)
  refine ⟨type, isDate, ?_, by cbv, ?_⟩
  · obtain ⟨complaints, broken, _, _, checked, _⟩ :=
      (date_violations "due" dueNode afterLeapDay _ type (by decide)).2 _ isDate
    exact ⟨complaints, broken, checked⟩
  · exact ((date_violations "due" dueNode afterLeapDay _ type (by decide)).1 noDate).1 _ rfl

end RecordRules
