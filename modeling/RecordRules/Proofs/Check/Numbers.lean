/-
  Fields for numbers. A value that is no number is one violation. A number is compared with the bounds
  of its node by value: the digits and the scale in which either is written do not count, and nothing
  is rounded. The numbers of JSON texts are read alike as values and as bounds, so that no value is
  exact where a bound is not.

  1. `breaksNumber_eq_true_iff`: when a number breaks a bound.
  2. `length_le_one_of_found`: a number breaks one of two bounds at most, if they are in order.
  3. `field_of_usable_bounds`: the check of a number, which its value decides.
  4. `Numeral.isExact_of_fits`, `Numeral.isRefused_of_beyond`: a numeral as a value and as a bound.
  5. `number_violations`: the violations of a field for numbers.
-/
import RecordRules.Proofs.Check.Fields
import RecordRules.Proofs.Decimal.Value

namespace RecordRules

/-! ## Numbers and bounds -/

/-- A number of this value breaks a bound. -/
inductive NumberBreaks (value : ℚ) : Limit → Prop
  | minValue {limit : Decimal} : value < limit.value → NumberBreaks value (.minValue limit)
  | maxValue {limit : Decimal} : limit.value < value → NumberBreaks value (.maxValue limit)

theorem breaksNumber_eq_true_iff {number : Decimal} {l : Limit} :
    breaksNumber number l = true ↔ NumberBreaks number.value l := by
  constructor
  · intro breaks
    cases l with
    | minValue limit => exact .minValue ((number.below_iff limit).mp breaks)
    | maxValue limit => exact .maxValue ((limit.below_iff number).mp breaks)
    | minLength | maxLength | pattern | allowedValues => cases breaks
  · rintro (low | high)
    · exact (Decimal.below_iff _ _).mpr low
    · exact (Decimal.below_iff _ _).mpr high

/-- The bounds of a node are in order, if it sets both. -/
def Node.BoundsInOrder (n : Node) : Prop :=
  ∀ least greatest, n.HasLimit (.minValue least) → n.HasLimit (.maxValue greatest) →
    least.value ≤ greatest.value

/-- A number cannot be below the one bound and above the other, if they are in order. -/
theorem length_le_one_of_found {rules : Node} {value : ℚ} {limits : List Limit}
    (found : Found rules Constraint.ofNumbers (NumberBreaks value) limits)
    (order : rules.BoundsInOrder) : limits.length ≤ 1 := by
  by_contra two
  -- two limits would be one of either kind
  have both : limits.map Limit.constraint = Constraint.ofNumbers := by
    refine found.ordered.eq_of_length_le ?_
    rw [List.length_map]
    exact Nat.not_le.mp two
  have broken (c : Constraint) (listed : c ∈ Constraint.ofNumbers) :
      ∃ l : Limit, l.constraint = c ∧ rules.HasLimit l ∧ NumberBreaks value l := by
    obtain ⟨l, there, rfl⟩ := List.mem_map.mp (both ▸ listed)
    exact ⟨l, rfl, ((found.complete l).mp there).2⟩
  obtain ⟨_, least, set, breaks⟩ := broken .minValue (List.mem_cons_self ..)
  obtain ⟨_, greatest, set', breaks'⟩ :=
    broken .maxValue (List.mem_cons_of_mem _ (List.mem_cons_self ..))
  rcases breaks with low | _
  · rcases breaks' with _ | high
    · cases greatest
    · exact absurd (low.trans_le (order _ _ set set')) high.not_gt
  · cases least

/-! ## Values -/

theorem ofText?_of_blank {s : String} (blank : Text.isBlankText s = true) :
    Decimal.ofText? s = none := by
  rw [Decimal.ofText?, Text.trimChars_of_blank blank]
  rfl

theorem IsNumber.isBlank_eq_false {value : Value} {d : Decimal} (numeric : IsNumber value d) :
    value.isBlank = false := by
  cases numeric with
  | number => rfl
  | @text s _ read =>
    by_contra blank
    rw [ofText?_of_blank (Bool.not_eq_false _ ▸ blank)] at read
    cases read

theorem field_of_hasType_number {rules : Node} (type : rules.HasType "number") {value : Value}
    (seen : value.isBlank = false) (field : String) (dates : Dates) :
    Check.field field (some value) rules dates =
      Check.Subject.number ⟨field, value.shown, rules⟩ value := by
  rw [field_of_seen seen, Check.presentValue, kind_eq_number_iff.mpr type]

/-- Numbers of one value break the same limits. -/
theorem breaksNumber_congr {number other : Decimal} (same : other.value = number.value) :
    breaksNumber other = breaksNumber number := by
  funext l
  rw [Bool.eq_iff_iff, breaksNumber_eq_true_iff, breaksNumber_eq_true_iff, same]

/-- What a number breaks is broken by all numbers of its value, however they are written. -/
theorem field_of_usable_bounds {rules : Node} (type : rules.HasType "number")
    (usable : ∀ c ∈ Constraint.ofNumbers, rules.CanUse c) (field : String) (dates : Dates)
    (number : Decimal) :
    ∃ limits, Found rules Constraint.ofNumbers (NumberBreaks number.value) limits ∧
      ∀ value other, IsNumber value other → other.value = number.value →
        Check.field field (some value) rules dates =
          .ok (limits.map (Limit.violation ⟨field, value.shown, rules⟩)) := by
  obtain ⟨limits, found, checked⟩ := checkLimits_of_usable field (breaksNumber number) usable
  simp only [breaksNumber_eq_true_iff] at found
  refine ⟨limits, found, fun value other numeric same => ?_⟩
  rw [field_of_hasType_number type numeric.isBlank_eq_false,
    number_eq_checkLimits (number?_eq_some_iff.mpr numeric), breaksNumber_congr same]
  exact checked value.shown

/-! ## Numerals -/

namespace Numeral

/-- A numeral is a number of its value: as a value, and as a bound under any property. -/
def IsExact (n : Numeral) : Prop :=
  ∃ d : Decimal, d.value = n.value ∧ Value.ofJson (.number n) = some (.number d) ∧
    ∀ (rules : Node) (field property : String), rules.find? property = some (.number n) →
      rules.decimal field property = .ok (some d)

/-- A numeral is no number: as a value it stays as it is, and as a bound it is a defect. -/
def IsRefused (n : Numeral) : Prop :=
  Value.ofJson (.number n) = some (.other (.number n)) ∧
    ∀ (rules : Node) (field property : String), rules.find? property = some (.number n) →
      rules.decimal field property =
        .error (.badRule field property ("not a decimal: " ++ (Json.number n).print))

variable {n : Numeral}

theorem decimalOf?_number (formed : n.WellFormed) :
    Node.decimalOf? (.number n) = if n.scale.natAbs ≤ 4096 then some n.decimal else none :=
  Numeral.ofText?_text formed.legible

/-- A numeral is a number as a value exactly if it is one as a bound. -/
theorem ofJson_number (n : Numeral) :
    Value.ofJson (.number n) =
      some (((Node.decimalOf? (.number n)).map Value.number).getD (.other (.number n))) := by
  unfold Value.ofJson Node.decimalOf?
  cases read : Decimal.ofText? n.text <;> simp [read]

theorem decimal_of_declared {rules : Node} {property : String} {json : Json}
    (declared : rules.find? property = some json) (field : String) :
    rules.decimal field property = (readDecimal field property json).map some := by
  rw [decimal_eq_declared, Node.declared, declared]

theorem isExact_of_fits (formed : n.WellFormed) (fits : n.scale.natAbs ≤ 4096) : n.IsExact := by
  have read := decimalOf?_number formed
  rw [if_pos fits] at read
  refine ⟨n.decimal, n.value_decimal, by rw [ofJson_number, read]; rfl, ?_⟩
  intro rules field property declared
  rw [decimal_of_declared declared, readDecimal, read]
  rfl

theorem isRefused_of_beyond (formed : n.WellFormed) (beyond : 4096 < n.scale.natAbs) :
    n.IsRefused := by
  have read := decimalOf?_number formed
  rw [if_neg (Nat.not_le.mpr beyond)] at read
  refine ⟨by rw [ofJson_number, read]; rfl, fun rules field property declared => ?_⟩
  rw [decimal_of_declared declared, readDecimal, read]
  rfl

end Numeral

/-! ## Fields -/

/-- A value that is no number is one violation in a field for numbers. A number has the violations of
    the bounds that it breaks, the least one first, and so has every number of its value. If the
    bounds are in order, it breaks one of them at most. A numeral is exact as a value exactly if it is
    exact as a bound: if its decimal places less its exponent are within the limit. -/
theorem number_violations :
    (∀ (field : String) (rules : Node) (dates : Dates) (value : Value),
      rules.HasType "number" → (∀ c ∈ Constraint.ofNumbers, rules.CanUse c) →
      value.isBlank = false →
      ((∀ d, ¬ IsNumber value d) →
        Check.field field (some value) rules dates =
          .ok [Check.Subject.violation ⟨field, value.shown, rules⟩ "errorMessageType"
            "Must be a valid number."]) ∧
      ∀ d, IsNumber value d →
        ∃ limits, Found rules Constraint.ofNumbers (NumberBreaks d.value) limits ∧
          (rules.BoundsInOrder → limits.length ≤ 1) ∧
          ∀ other e, IsNumber other e → e.value = d.value →
            Check.field field (some other) rules dates =
              .ok (limits.map (Limit.violation ⟨field, other.shown, rules⟩))) ∧
    ∀ n : Numeral, n.WellFormed →
      (n.scale.natAbs ≤ 4096 → n.IsExact) ∧ (4096 < n.scale.natAbs → n.IsRefused) := by
  refine ⟨fun field rules dates value type usable seen => ⟨fun other => ?_, fun d _ => ?_⟩,
    fun n formed => ⟨Numeral.isExact_of_fits formed, Numeral.isRefused_of_beyond formed⟩⟩
  · rw [field_of_hasType_number type seen, Check.Subject.number, number?_eq_none_iff.mpr other]
  · obtain ⟨limits, found, checked⟩ := field_of_usable_bounds type usable field dates d
    exact ⟨limits, found, length_le_one_of_found found, checked⟩

/-- A number between two bounds, of which one is a text and the other a numeral. -/
def rateNode : Node :=
  ⟨.ofList [("type", .text "NUMBER"), ("minValue", .text " 1.00 "),
    ("maxValue", .number ⟨false, .ofNat 250, none, some ⟨true, .ofNat 2⟩⟩)]⟩

theorem rateNode_boundsInOrder : rateNode.BoundsInOrder := by
  rintro least greatest ⟨json, declared, sets⟩ ⟨json', declared', sets'⟩
  have low : rateNode.find? "minValue" = some (.text " 1.00 ") := by cbv
  have high : rateNode.find? "maxValue" =
      some (.number ⟨false, .ofNat 250, none, some ⟨true, .ofNat 2⟩⟩) := by cbv
  cases low.symm.trans declared
  cases high.symm.trans declared'
  have readLow : Node.decimalOf? (.text " 1.00 ") = some ⟨100, 2⟩ := by cbv
  have readHigh : Node.decimalOf? (.number ⟨false, .ofNat 250, none, some ⟨true, .ofNat 2⟩⟩) =
      some ⟨250, 2⟩ := by cbv
  cases sets with
  | minValue read =>
    cases sets' with
    | maxValue read' =>
      cases readLow.symm.trans read
      cases readHigh.symm.trans read'
      norm_num [Decimal.value]

/-- A tenth breaks one bound of the rate, as a number no less than as a text with more digits. A
    numeral with an exponent of four digits is no bound and no number. -/
theorem number_violations_rateNode :
    rateNode.HasType "number" ∧ (∀ c ∈ Constraint.ofNumbers, rateNode.CanUse c) ∧
      (∀ dates, Check.field "rate" (some (.text "ten")) rateNode dates =
        .ok [⟨"rate", "Must be a valid number."⟩]) ∧
      (∀ dates, ∃ limits,
        Found rateNode Constraint.ofNumbers (NumberBreaks (Decimal.value ⟨10, 2⟩)) limits ∧
          limits.length ≤ 1 ∧
          Check.field "rate" (some (.number ⟨1, 1⟩)) rateNode dates =
            .ok (limits.map (Limit.violation ⟨"rate", "0.1", rateNode⟩))) ∧
      (Numeral.mk false [1, 2] (some [5, 0]) (some ⟨false, [3]⟩)).IsExact ∧
      (Numeral.mk false [1] none (some ⟨false, [5, 0, 0, 0]⟩)).IsRefused := by
  have type : rateNode.HasType "number" := ⟨"NUMBER", rfl, by decide⟩
  have usable : ∀ c ∈ Constraint.ofNumbers, rateNode.CanUse c := by
    have passes : rateNode.check "rate" = .ok () := by cbv
    exact fun c listed =>
      check_eq_ok_iff_canUse.mp passes c (List.mem_append_right Constraint.ofTexts listed)
  have large : (Numeral.mk false [1, 2] (some [5, 0]) (some ⟨false, [3]⟩)).WellFormed :=
    ⟨by decide, by decide, by decide, by rintro _ ⟨⟩; decide⟩
  have huge : (Numeral.mk false [1] none (some ⟨false, [5, 0, 0, 0]⟩)).WellFormed :=
    ⟨by decide, by decide, by decide, by rintro _ ⟨⟩; decide⟩
  refine ⟨type, usable, fun dates => ?_, fun dates => ?_, ?_, ?_⟩
  · have other : ∀ d, ¬ IsNumber (.text "ten") d := number?_eq_none_iff.mp (by cbv)
    exact (number_violations.1 "rate" rateNode dates (.text "ten") type usable (by decide)).1 other
  · have numeric : IsNumber (.text "1.0e-1") ⟨10, 2⟩ := .text (by cbv)
    have same : Decimal.value ⟨1, 1⟩ = Decimal.value ⟨10, 2⟩ := by norm_num [Decimal.value]
    have shown : (Value.number ⟨1, 1⟩).shown = "0.1" := by cbv
    obtain ⟨limits, found, one, checked⟩ :=
      (number_violations.1 "rate" rateNode dates (.text "1.0e-1") type usable (by decide)).2 _
        numeric
    rw [← shown]
    exact ⟨limits, found, one rateNode_boundsInOrder, checked _ _ (.number _) same⟩
  · exact (number_violations.2 _ large).1 (by decide)
  · exact (number_violations.2 _ huge).2 (by decide)

end RecordRules
