/-
  Fields for texts. A value that is no text is one violation. A text is checked against all limits of
  its node, and none of them hides another: the violations are those of the limits that it breaks, the
  limits of its length first, then the pattern and the texts that are allowed.

  1. `breaksText_eq_true_iff`: when a text breaks a limit.
  2. `field_of_holdsTexts`: the check of a field for texts is that of its subject.
  3. `length_eq_some_iff`: which limits of lengths there are.
  4. `text_violations`: the violations of a field for texts, all of them and in order.
-/
import RecordRules.Proofs.Check.Fields

namespace RecordRules

/-- A text breaks a limit. Lengths are counted in characters, and nothing is trimmed. -/
inductive TextBreaks (text : String) : Limit → Prop
  | minLength {limit : Nat} : text.toList.length < limit → TextBreaks text (.minLength limit)
  | maxLength {limit : Nat} : limit < text.toList.length → TextBreaks text (.maxLength limit)
  | pattern {p : Pattern} : p.accepts text = false → TextBreaks text (.pattern p)
  | allowedValues {texts : List String} : text ∉ texts → TextBreaks text (.allowedValues texts)

theorem breaksText_eq_true_iff {text : String} {l : Limit} :
    breaksText text l = true ↔ TextBreaks text l := by
  constructor
  · intro breaks
    cases l with
    | minLength => exact .minLength (of_decide_eq_true breaks)
    | maxLength => exact .maxLength (of_decide_eq_true breaks)
    | pattern p => exact .pattern (by simpa [breaksText] using breaks)
    | allowedValues texts => exact .allowedValues (by simpa [breaksText] using breaks)
    | minValue | maxValue => cases breaks
  · rintro (short | long | other | unlisted)
    · exact decide_eq_true short
    · exact decide_eq_true long
    · simp [breaksText, other]
    · simp [breaksText, unlisted]

theorem field_of_holdsTexts {rules : Node} (type : rules.HoldsTexts) {value : Value}
    (seen : value.isBlank = false) (field : String) (dates : Dates) :
    Check.field field (some value) rules dates =
      Check.Subject.string ⟨field, value.shown, rules⟩ value := by
  rw [field_of_seen seen, Check.presentValue, kind_eq_string_iff.mpr type]

theorem string_of_usable_texts {rules : Node} (usable : ∀ c ∈ Constraint.ofTexts, rules.CanUse c)
    (field text : String) :
    ∃ limits, Found rules Constraint.ofTexts (TextBreaks text) limits ∧
      Check.Subject.string ⟨field, text, rules⟩ (.text text) =
        .ok (limits.map (Limit.violation ⟨field, text, rules⟩)) := by
  obtain ⟨limits, found, checked⟩ := checkLimits_of_usable field (breaksText text) usable
  simp only [breaksText_eq_true_iff] at found
  exact ⟨limits, found, (string_eq_checkLimits text).trans (checked text)⟩

theorem violation_field (s : Check.Subject) (l : Limit) : (l.violation s).field = s.field := by
  cases l <;> rfl

/-- A limit of lengths that is read is a number of 64 bits: an integer, or the text of one. -/
theorem length_eq_some_iff {n : Node} {field property : String} {limit : Nat} :
    n.length field property = .ok (some limit) ↔
      ∃ json, n.find? property = some json ∧ IsLength json limit := by
  rw [length_eq_declared, Node.declared]
  constructor
  · intro read
    split at read
    · cases read
    · next json declared =>
      obtain ⟨_, given, same⟩ := map_eq_ok_iff.mp read
      cases same
      exact ⟨json, declared, readLength_eq_ok_iff.mp given⟩
  · rintro ⟨json, declared, length⟩
    rw [declared]
    exact map_eq_ok_iff.mpr ⟨limit, readLength_eq_ok_iff.mpr length, rfl⟩

/-- A value that is no text is one violation in a field for texts. A text has the violations of all
    limits that it breaks, in the order of the constraints. The limits of its length are the numbers
    of 64 bits, as integers or as the texts of integers. -/
theorem text_violations (field : String) (rules : Node) (dates : Dates) (value : Value)
    (type : rules.HoldsTexts) (usable : ∀ c ∈ Constraint.ofTexts, rules.CanUse c)
    (seen : value.isBlank = false) :
    ((∀ text, value ≠ .text text) →
      Check.field field (some value) rules dates =
        .ok [Check.Subject.violation ⟨field, value.shown, rules⟩ "errorMessageType"
          "Must be a string."]) ∧
    (∀ text, value = .text text →
      ∃ limits, Found rules Constraint.ofTexts (TextBreaks text) limits ∧
        Check.field field (some value) rules dates =
          .ok (limits.map (Limit.violation ⟨field, text, rules⟩))) ∧
    (∀ violations, Check.field field (some value) rules dates = .ok violations →
      ∀ v ∈ violations, v.field = field) ∧
    ∀ property limit, rules.length field property = .ok (some limit) ↔
      ∃ json, rules.find? property = some json ∧ IsLength json limit := by
  rw [field_of_holdsTexts type seen]
  cases value with
  | text text =>
    obtain ⟨limits, found, checked⟩ := string_of_usable_texts usable field text
    refine ⟨fun other => absurd rfl (other text), ?_, ?_, fun _ _ => length_eq_some_iff⟩
    · rintro _ ⟨⟩
      exact ⟨limits, found, checked⟩
    · intro violations given v listed
      rw [Value.shown, checked] at given
      cases given
      obtain ⟨l, _, rfl⟩ := List.mem_map.mp listed
      exact violation_field _ l
  | number | date | bool | other =>
    refine ⟨fun _ => rfl, nofun, ?_, fun _ _ => length_eq_some_iff⟩
    rintro _ ⟨⟩ v listed
    rw [List.mem_singleton.mp listed]
    rfl

/-- A text with limits of all kinds: the least length is the greatest there is, and the greatest one
    is a text. -/
def codeNode : Node :=
  ⟨.ofList [("type", .text "String"), ("minLength", .nat (2 ^ 64 - 1)),
    ("maxLength", .text " +1 "), ("pattern", .text "[0-9]+"),
    ("allowedValues", .array [.text "é", .nat 12])]⟩

/-- A text of two characters breaks all of these limits. A flag breaks none, but is no text. -/
theorem text_violations_codeNode :
    codeNode.HoldsTexts ∧ (∀ c ∈ Constraint.ofTexts, codeNode.CanUse c) ∧
      (∀ dates, ∃ limits, Found codeNode Constraint.ofTexts (TextBreaks "é ") limits ∧
        Check.field "code" (some (.text "é ")) codeNode dates =
          .ok (limits.map (Limit.violation ⟨"code", "é ", codeNode⟩))) ∧
      ∀ dates, Check.field "code" (some (.bool true)) codeNode dates =
        .ok [⟨"code", "Must be a string."⟩] := by
  have type : codeNode.HoldsTexts := .inr ⟨"String", rfl, by decide⟩
  have usable : ∀ c ∈ Constraint.ofTexts, codeNode.CanUse c := by
    have passes : codeNode.check "code" = .ok () := by cbv
    exact fun c listed => check_eq_ok_iff_canUse.mp passes c (List.mem_append_left _ listed)
  refine ⟨type, usable, fun dates => ?_, fun dates => ?_⟩
  · exact (text_violations "code" codeNode dates (.text "é ") type usable (by decide)).2.1 _ rfl
  · have other : ∀ text, Value.bool true ≠ .text text := by simp
    exact (text_violations "code" codeNode dates (.bool true) type usable rfl).1 other

end RecordRules
