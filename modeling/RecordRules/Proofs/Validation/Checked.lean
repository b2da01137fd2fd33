/-
  Stores that pass their check. The check of a store resolves every field's node and reads every
  constraint of the resolved node once. A value's check reads some of these constraints and no
  others, so that no record can meet a defect which the check of the store has not met.

  1. `Node.check_eq_ok_iff`: a node passes its check exactly when each of its constraints is usable.
  2. `field_of_usable`: the check of a value against usable constraints is never a defect.
  3. `store_check_eq_ok_iff`: what a store's check has seen to.
  4. `validate_of_check`: a record of a registered type passes or has violations.
-/
import Mathlib
import RecordRules.Proofs.Store.Documents
import RecordRules.Proofs.Validation.Collected

namespace RecordRules

/-! ## Usable constraints -/

/-- Each constraint of a node can be used, or is not declared. -/
structure Node.Usable (n : Node) (field : String) : Prop where
  minLength : ∃ limit, n.length field "minLength" = .ok limit
  maxLength : ∃ limit, n.length field "maxLength" = .ok limit
  pattern : ∃ pattern, n.pattern field = .ok pattern
  allowed : ∃ texts, n.allowed field = .ok texts
  minValue : ∃ limit, n.decimal field "minValue" = .ok limit
  maxValue : ∃ limit, n.decimal field "maxValue" = .ok limit

theorem Node.check_eq_ok_iff {n : Node} {field : String} :
    n.check field = .ok () ↔ n.Usable field := by
  unfold Node.check
  simp only [bind_eq_ok_iff]
  constructor
  · rintro ⟨_, minLength, _, maxLength, _, pattern, _, allowed, _, minValue, _, maxValue, _⟩
    exact ⟨⟨_, minLength⟩, ⟨_, maxLength⟩, ⟨_, pattern⟩, ⟨_, allowed⟩, ⟨_, minValue⟩,
      ⟨_, maxValue⟩⟩
  · rintro ⟨⟨_, minLength⟩, ⟨_, maxLength⟩, ⟨_, pattern⟩, ⟨_, allowed⟩, ⟨_, minValue⟩,
      ⟨_, maxValue⟩⟩
    exact ⟨_, minLength, _, maxLength, _, pattern, _, allowed, _, minValue, _, maxValue, rfl⟩

/-! ## Checks against usable constraints -/

section

variable {s : Check.Subject}

theorem string_text {least greatest : Option Nat} {pattern : Option Pattern}
    {texts : Option (List String)} (minLength : s.rules.length s.field "minLength" = .ok least)
    (maxLength : s.rules.length s.field "maxLength" = .ok greatest)
    (hpattern : s.rules.pattern s.field = .ok pattern)
    (allowed : s.rules.allowed s.field = .ok texts) (text : String) :
    s.string (.text text) = .ok (s.minLength text least ++ s.maxLength text greatest ++
      s.pattern text pattern ++ s.allowed text texts) := by
  rw [Check.Subject.string, minLength, maxLength, hpattern, allowed]
  rfl

theorem number_some {least greatest : Option Decimal} {value : Value} {number : Decimal}
    (minValue : s.rules.decimal s.field "minValue" = .ok least)
    (maxValue : s.rules.decimal s.field "maxValue" = .ok greatest)
    (numeric : Check.number? value = some number) :
    s.number value = .ok (s.minValue number least ++ s.maxValue number greatest) := by
  unfold Check.Subject.number
  rw [numeric, minValue, maxValue]
  rfl

theorem string_of_usable (usable : s.rules.Usable s.field) (value : Value) :
    ∃ violations, s.string value = .ok violations := by
  obtain ⟨⟨_, minLength⟩, ⟨_, maxLength⟩, ⟨_, pattern⟩, ⟨_, allowed⟩, _, _⟩ := usable
  cases value with
  | text text => exact ⟨_, string_text minLength maxLength pattern allowed text⟩
  | number | date | bool | other => exact ⟨_, rfl⟩

theorem number_of_usable (usable : s.rules.Usable s.field) (value : Value) :
    ∃ violations, s.number value = .ok violations := by
  obtain ⟨_, _, _, _, ⟨_, minValue⟩, ⟨_, maxValue⟩⟩ := usable
  cases numeric : Check.number? value with
  | none =>
    unfold Check.Subject.number
    rw [numeric]
    exact ⟨_, rfl⟩
  | some number => exact ⟨_, number_some minValue maxValue numeric⟩

end

theorem field_of_usable {field : String} {rules : Node} (usable : rules.Usable field)
    (value : Option Value) (dates : Dates) :
    ∃ violations, Check.field field value rules dates = .ok violations := by
  unfold Check.field
  cases Check.present value with
  | none => exact ⟨_, rfl⟩
  | some value =>
    unfold Check.presentValue
    cases rules.kind with
    | string => exact string_of_usable (s := ⟨field, value.shown, rules⟩) usable value
    | number => exact number_of_usable (s := ⟨field, value.shown, rules⟩) usable value
    | date | unknown => exact ⟨_, rfl⟩

/-! ## The check of a store -/

/-- A field whose node resolves to one with usable constraints. -/
def Sound (definitions : Definitions) (field : String × Node) : Prop :=
  ∃ rules, field.2.resolve definitions = .ok rules ∧ rules.Usable field.1

theorem checkField_eq_ok_iff {definitions : Definitions} {field : String × Node} :
    Store.checkField definitions field = .ok () ↔ Sound definitions field := by
  unfold Store.checkField Sound
  rw [bind_eq_ok_iff]
  simp only [Node.check_eq_ok_iff]

theorem store_check_eq_ok_iff {store : Store} {count : Nat} :
    store.check = .ok count ↔
      count = store.fields.length ∧ ∀ field ∈ store.fields, Sound store.definitions field := by
  unfold Store.check
  rw [bind_eq_ok_iff]
  simp only [← checkField_eq_ok_iff, ← forM_eq_ok_iff]
  constructor
  · rintro ⟨_, accepted, same⟩
    cases same
    exact ⟨rfl, accepted⟩
  · rintro ⟨rfl, accepted⟩
    exact ⟨(), accepted, rfl⟩

theorem mem_fields_of_find? {store : Store} {key : String} {document : Document}
    (found : store.find? key = some document) {field : String × Node}
    (listed : field ∈ document.fields) : field ∈ store.fields :=
  List.mem_flatMap.mpr ⟨(key, document), store_find?_eq_some_iff.mp found, listed⟩

/-- With usable constraints no value is a defect. -/
theorem not_broken_of_usable {record : Record} {dates : Dates} {rule : String × Node}
    (usable : rule.2.Usable rule.1) (defect : Defect) : ¬ Broken record dates rule defect := by
  rintro ⟨value, _, broken⟩
  obtain ⟨violations, accepted⟩ := field_of_usable usable value dates
  rw [accepted] at broken
  cases broken

theorem usable_of_resolved {definitions : Definitions} {fields rules : List (String × Node)}
    (resolved : Resolved definitions fields rules)
    (sound : ∀ field ∈ fields, Sound definitions field) :
    ∀ rule ∈ rules, rule.2.Usable rule.1 := by
  intro rule listed
  obtain ⟨field, there, name, resolves⟩ := resolved.exists_field listed
  obtain ⟨_, resolves', here⟩ := sound field there
  rw [resolves] at resolves'
  cases resolves'
  exact name ▸ here

/-- A store that passes its check has no defect to show in validation. -/
theorem collect_of_check {store : Store} {count : Nat} (checked : store.check = .ok count)
    (dates : Dates) (record : Record) {recordType : String}
    (registered : store.contains recordType = true) :
    ∃ violations, (Validation.collect store dates record recordType).result = .ok violations := by
  obtain ⟨document, found⟩ := Option.isSome_iff_exists.mp registered
  have sound : ∀ field ∈ document.fields, Sound store.definitions field := by
    intro field listed
    exact (store_check_eq_ok_iff.mp checked).2 field (mem_fields_of_find? found listed)
  -- both passes over the document's fields go through: the nodes resolve, and no value is a defect
  obtain ⟨rules, resolved⟩ : ∃ rules, Resolved store.definitions document.fields rules := by
    refine exists_resolved fun field listed => ?_
    obtain ⟨rules, resolves, _⟩ := sound field listed
    exact ⟨rules, resolves⟩
  rw [collect_of_resolved found resolved, exists_ok_iff]
  intro defect broken
  obtain ⟨before, rule, after, rfl, _, here⟩ := fields_eq_error_iff.mp broken
  have usable : rule.2.Usable rule.1 :=
    usable_of_resolved resolved sound rule List.mem_append_cons_self
  exact not_broken_of_usable usable defect here

/-- If a store passes its check, a record of a registered type passes validation or has violations,
    whatever the record holds and refuses, and whatever the day and the holidays. A record of any
    other type fails for want of a document, checked or not. -/
theorem validate_of_check (store : Store) (dates : Dates) (record : Record) (recordType : String) :
    (∀ count, store.check = .ok count → store.contains recordType = true →
      (Validation.validate store dates record recordType).result = .ok () ∨
      ∃ v vs, (Validation.validate store dates record recordType).result =
        .error (.violations (v :: vs))) ∧
    (store.contains recordType = false →
      (Validation.validate store dates record recordType).result =
        .error (.defect (.noDocument recordType))) := by
  constructor
  · intro count checked registered
    obtain ⟨violations, collected⟩ := collect_of_check checked dates record registered
    rw [validate_result, collected]
    cases violations with
    | nil => exact .inl rfl
    | cons v vs => exact .inr ⟨v, vs, rfl⟩
  · intro other
    have missing : store.find? recordType = none := by
      simpa [Store.contains] using other
    rw [validate_result, outcome_eq_defect_iff, collect_of_none missing]

/-- Payments with an amount, which is defined for all record types, and a currency. -/
def payments : Store where
  definitions := ⟨.ofList [("amount", ⟨.ofList [("type", .text "number"), ("minValue", .nat 1)]⟩)]⟩
  documents := [("payment", ⟨[
    ("amount", ⟨.ofList [("$ref", .text "#/definitions/amount"), ("required", .bool true)]⟩),
    ("currency", ⟨.ofList [("pattern", .text "[A-Z]+")]⟩)]⟩)]
  ascending := by simp

/-- A payment whose amount cannot be read, and which knows no other field. -/
def lockedPayment : Record where
  typeName := "payment"
  field name := .error (if name = "amount" then .unreadable name "locked" else .unknown name)

theorem validate_of_check_lockedPayment :
    payments.check = .ok 2 ∧ payments.contains "payment" = true ∧
      payments.contains "refund" = false ∧
      ∀ dates,
        ((Validation.validate payments dates lockedPayment "payment").result = .ok () ∨
          ∃ v vs, (Validation.validate payments dates lockedPayment "payment").result =
            .error (.violations (v :: vs))) ∧
        (Validation.validate payments dates lockedPayment "refund").result =
          .error (.defect (.noDocument "refund")) := by
  have checked : payments.check = .ok 2 := by cbv
  have registered : payments.contains "payment" = true := by decide
  have other : payments.contains "refund" = false := by decide
  refine ⟨checked, registered, other, fun dates => ⟨?_, ?_⟩⟩
  · exact (validate_of_check payments dates lockedPayment "payment").1 2 checked registered
  · exact (validate_of_check payments dates lockedPayment "refund").2 other

end RecordRules
