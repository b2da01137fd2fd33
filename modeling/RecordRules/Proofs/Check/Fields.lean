/-
  The check of one field. Texts and numbers are checked in the same way: the limits of the node are
  read one after the other, and every limit that the value breaks is a violation. So the check is a
  defect exactly if it comes to a constraint that cannot be used, and whether it comes to constraints
  at all depends on the type and on the value only.

  1. `checkLimits_eq_error_iff`, `checkLimits_of_usable`: what a check of limits gives.
  2. `string_eq_checkLimits`, `number_eq_checkLimits`: texts and numbers are checked in this way.
  3. `kind_eq_iff`: which nodes are of which kind.
  4. `field_defect_iff`: when the check of a field is a defect.
-/
import RecordRules.Proofs.Check.Limit

namespace RecordRules

/-! ## Broken limits -/

/-- Whether a text breaks a limit. -/
def breaksText (text : String) : Limit → Bool
  | .minLength limit => text.toList.length < limit
  | .maxLength limit => limit < text.toList.length
  | .pattern p => !p.accepts text
  | .allowedValues texts => !texts.contains text
  | .minValue _ | .maxValue _ => false

/-- Whether a number breaks a limit. -/
def breaksNumber (number : Decimal) : Limit → Bool
  | .minValue limit => number.below limit
  | .maxValue limit => limit.below number
  | .minLength _ | .maxLength _ | .pattern _ | .allowedValues _ => false

/-- The limits that a node sets and a value breaks: those of these constraints, in their order. -/
structure Found (rules : Node) (constraints : List Constraint) (broken : Limit → Prop)
    (limits : List Limit) : Prop where
  ordered : (limits.map Limit.constraint).Sublist constraints
  complete : ∀ l, l ∈ limits ↔ l.constraint ∈ constraints ∧ rules.HasLimit l ∧ broken l

/-- Reads the limits of these constraints; those that are broken are violations. -/
def Check.Subject.checkLimits (s : Subject) (constraints : List Constraint)
    (broken : Limit → Bool) : Except Defect (List Violation) :=
  (constraints.mapM (s.rules.limit s.field)).map fun limits =>
    (limits.reduceOption.filter broken).map (Limit.violation s)

section

variable {s : Check.Subject} {constraints : List Constraint} {broken : Limit → Bool}
  {defect : Defect}

theorem checkLimits_eq_error_iff :
    s.checkLimits constraints broken = .error defect ↔
      s.rules.FirstUnusable s.field constraints defect := by
  rw [Check.Subject.checkLimits, map_eq_error_iff, mapM_eq_error_iff, firstError_limit_iff]

/-- The limits that are read stand in the order of their constraints. -/
theorem sublist_of_limits {rules : Node} {field : String} {limits : List (Option Limit)}
    (read : List.Forall₂ (fun c l => rules.limit field c = .ok l) constraints limits) :
    (limits.reduceOption.map Limit.constraint).Sublist constraints := by
  induction read with
  | nil => exact .slnil
  | @cons c l _ _ here _ ih =>
    cases l with
    | none =>
      -- a constraint that is not declared sets no limit, and is passed over
      rw [List.reduceOption_cons_of_none]
      exact ih.cons c
    | some l =>
      rw [List.reduceOption_cons_of_some, List.map_cons, (limit_eq_some_iff.mp here).1]
      exact ih.cons_cons c

theorem found_of_limits {rules : Node} {field : String} {limits : List (Option Limit)}
    (read : constraints.mapM (rules.limit field) = .ok limits) :
    Found rules constraints (broken · = true) (limits.reduceOption.filter broken) where
  ordered :=
    (List.filter_sublist.map _).trans (sublist_of_limits (mapM_eq_ok_iff.mp read))
  complete l := by
    rw [List.mem_filter, List.reduceOption_mem_iff, mem_mapM_iff read]
    simp only [limit_eq_some_iff]
    constructor
    · rintro ⟨⟨_, listed, rfl, sets⟩, breaks⟩
      exact ⟨listed, sets, breaks⟩
    · rintro ⟨listed, sets, breaks⟩
      exact ⟨⟨_, listed, rfl, sets⟩, breaks⟩

/-- If the constraints can be used, the violations are those of the broken limits, however the value
    is shown. -/
theorem checkLimits_of_usable {rules : Node} (field : String) (broken : Limit → Bool)
    (usable : ∀ c ∈ constraints, rules.CanUse c) :
    ∃ limits, Found rules constraints (broken · = true) limits ∧
      ∀ shown, Check.Subject.checkLimits ⟨field, shown, rules⟩ constraints broken =
        .ok (limits.map (Limit.violation ⟨field, shown, rules⟩)) := by
  obtain ⟨limits, read⟩ : ∃ limits, constraints.mapM (rules.limit field) = .ok limits := by
    simp only [mapM_eq_ok_iff]
    exact exists_forall₂ fun c listed => exists_limit_iff.mpr (usable c listed)
  refine ⟨_, found_of_limits read, fun shown => ?_⟩
  rw [Check.Subject.checkLimits, read]
  rfl

end

/-! ## Texts and numbers -/

section

variable {s : Check.Subject}

/-- One limit that is broken is one violation. -/
theorem violations_of_limit (broken : Limit → Bool) (l : Limit) :
    ([l].filter broken).map (Limit.violation s) = if broken l then [l.violation s] else [] := by
  cases breaks : broken l <;> simp [breaks]

theorem reduceOption_cons (o : Option Limit) (os : List (Option Limit)) :
    (o :: os).reduceOption = o.toList ++ os.reduceOption := by
  cases o <;> rfl

theorem minLength_eq (text : String) (o : Option Nat) :
    s.minLength text o =
      ((o.map Limit.minLength).toList.filter (breaksText text)).map (Limit.violation s) := by
  cases o with
  | none => rfl
  | some limit => simp [violations_of_limit, Check.Subject.minLength, breaksText, Limit.violation]

theorem maxLength_eq (text : String) (o : Option Nat) :
    s.maxLength text o =
      ((o.map Limit.maxLength).toList.filter (breaksText text)).map (Limit.violation s) := by
  cases o with
  | none => rfl
  | some limit => simp [violations_of_limit, Check.Subject.maxLength, breaksText, Limit.violation]

theorem pattern_eq (text : String) (o : Option Pattern) :
    s.pattern text o =
      ((o.map Limit.pattern).toList.filter (breaksText text)).map (Limit.violation s) := by
  cases o with
  | none => rfl
  | some p =>
    cases fits : p.accepts text <;>
      simp [Check.Subject.pattern, breaksText, Limit.violation, fits]

theorem allowed_eq (text : String) (o : Option (List String)) :
    s.allowed text o =
      ((o.map Limit.allowedValues).toList.filter (breaksText text)).map (Limit.violation s) := by
  cases o with
  | none => rfl
  | some texts =>
    by_cases listed : text ∈ texts <;>
      simp [Check.Subject.allowed, breaksText, Limit.violation, listed]

theorem minValue_eq (number : Decimal) (o : Option Decimal) :
    s.minValue number o =
      ((o.map Limit.minValue).toList.filter (breaksNumber number)).map (Limit.violation s) := by
  cases o with
  | none => rfl
  | some limit =>
    cases below : number.below limit <;>
      simp [Check.Subject.minValue, breaksNumber, Limit.violation, below]

theorem maxValue_eq (number : Decimal) (o : Option Decimal) :
    s.maxValue number o =
      ((o.map Limit.maxValue).toList.filter (breaksNumber number)).map (Limit.violation s) := by
  cases o with
  | none => rfl
  | some limit =>
    cases below : limit.below number <;>
      simp [Check.Subject.maxValue, breaksNumber, Limit.violation, below]

theorem string_eq_checkLimits (text : String) :
    s.string (.text text) = s.checkLimits Constraint.ofTexts (breaksText text) := by
  rw [Check.Subject.string, Check.Subject.checkLimits, Constraint.ofTexts]
  simp only [List.mapM_cons, List.mapM_nil, Node.limit, Constraint.read, Constraint.property,
    declared_map, length_eq_declared, pattern_eq_declared, allowed_eq_declared]
  -- both read the constraints in this order, and stop at the first that cannot be used
  cases s.rules.declared "minLength" (readLength s.field "minLength") with
  | error => rfl
  | ok least =>
  cases s.rules.declared "maxLength" (readLength s.field "maxLength") with
  | error => rfl
  | ok greatest =>
  cases s.rules.declared "pattern" (readPattern s.field) with
  | error => rfl
  | ok pattern =>
  cases s.rules.declared "allowedValues" (readAllowed s.field) with
  | error => rfl
  | ok texts =>
    simp only [bind, Except.bind, pure, Except.pure, Except.map, reduceOption_cons,
      List.reduceOption_nil, List.append_nil, List.filter_append, List.map_append, minLength_eq,
      maxLength_eq, pattern_eq, allowed_eq, List.append_assoc]

theorem number_eq_checkLimits {value : Value} {number : Decimal}
    (numeric : Check.number? value = some number) :
    s.number value = s.checkLimits Constraint.ofNumbers (breaksNumber number) := by
  rw [Check.Subject.number, Check.Subject.checkLimits, Constraint.ofNumbers, numeric]
  simp only [List.mapM_cons, List.mapM_nil, Node.limit, Constraint.read, Constraint.property,
    declared_map, decimal_eq_declared]
  cases s.rules.declared "minValue" (readDecimal s.field "minValue") with
  | error => rfl
  | ok least =>
  cases s.rules.declared "maxValue" (readDecimal s.field "maxValue") with
  | error => rfl
  | ok greatest =>
    simp only [bind, Except.bind, pure, Except.pure, Except.map, reduceOption_cons,
      List.reduceOption_nil, List.append_nil, List.filter_append, List.map_append, minValue_eq,
      maxValue_eq]

end

/-! ## Types of nodes -/

/-- A node declares this type. The case of letters does not count. -/
def Node.HasType (n : Node) (type : String) : Prop :=
  ∃ s, n.find? "type" = some (.text s) ∧ Text.sameLetters s type = true

theorem text?_eq_some_iff {n : Node} {property text : String} :
    n.text? property = some text ↔ n.find? property = some (.text text) := by
  unfold Node.text?
  rw [Option.bind_eq_some_iff]
  constructor
  · intro ⟨json, declared, is⟩
    cases json with
    | text =>
      cases is
      exact declared
    | null | bool | number | array | object => cases is
  · intro declared
    exact ⟨.text text, declared, rfl⟩

/-- A node is for texts: it declares that, or no type at all. -/
def Node.HoldsTexts (n : Node) : Prop := n.find? "type" = none ∨ n.HasType "string"

/-- Numbers, and texts that are read as numbers. -/
inductive IsNumber : Value → Decimal → Prop
  | number (d : Decimal) : IsNumber (.number d) d
  | text {s : String} {d : Decimal} : Decimal.ofText? s = some d → IsNumber (.text s) d

theorem ofName_eq_iff {name : String} {k : Kind} (known : ∀ name, k ≠ .unknown name) :
    Kind.ofName name = k ↔ Text.sameLetters name k.name = true := by
  have lowered : Text.lower "string" = "string" ∧ Text.lower "number" = "number" ∧
      Text.lower "date" = "date" := by decide
  unfold Text.sameLetters Kind.ofName
  cases k with
  | string | number | date => split <;> simp_all [Kind.name]
  | unknown name => exact absurd rfl (known name)

/-- A node is of a known kind if it declares that. It is for texts also if it declares nothing. -/
theorem kind_eq_iff {n : Node} {k : Kind} (known : ∀ name, k ≠ .unknown name) :
    n.kind = k ↔ (n.find? "type" = none ∧ k = .string) ∨ n.HasType k.name := by
  unfold Node.kind Node.HasType
  split
  · next s declared => simp [declared, ofName_eq_iff known]
  · next json other declared =>
    rw [declared]
    constructor
    · exact fun same => absurd same.symm (known _)
    · rintro (⟨⟨⟩, _⟩ | ⟨s, ⟨⟩, _⟩)
      exact absurd rfl (other s)
  · next absent =>
    simp only [absent, true_and, reduceCtorEq, false_and, exists_false, or_false]
    exact eq_comm

theorem kind_eq_string_iff {n : Node} : n.kind = .string ↔ n.HoldsTexts := by
  simp [kind_eq_iff (k := .string) nofun, Node.HoldsTexts, Kind.name]

theorem kind_eq_number_iff {n : Node} : n.kind = .number ↔ n.HasType "number" := by
  simp [kind_eq_iff (k := .number) nofun, Kind.name]

theorem kind_eq_date_iff {n : Node} : n.kind = .date ↔ n.HasType "date" := by
  simp [kind_eq_iff (k := .date) nofun, Kind.name]

theorem number?_eq_some_iff {value : Value} {d : Decimal} :
    Check.number? value = some d ↔ IsNumber value d := by
  constructor
  · intro numeric
    cases value with
    | number =>
      cases numeric
      exact .number d
    | text => exact .text numeric
    | date | bool | other => cases numeric
  · rintro (_ | read)
    · rfl
    · exact read

theorem number?_eq_none_iff {value : Value} :
    Check.number? value = none ↔ ∀ d, ¬ IsNumber value d := by
  simp only [Option.eq_none_iff_forall_ne_some, ne_eq, number?_eq_some_iff]

/-! ## Fields -/

/-- What makes the check of a field a defect: a text against the constraints of texts, or a number
    against those of numbers, where one of these constraints cannot be used. The first one is the
    defect. -/
inductive ValueDefect (field : String) (rules : Node) : Option Value → Defect → Prop
  | text {text : String} {defect : Defect} :
      Text.isBlankText text = false → rules.HoldsTexts →
      rules.FirstUnusable field Constraint.ofTexts defect →
      ValueDefect field rules (some (.text text)) defect
  | number {value : Value} {number : Decimal} {defect : Defect} :
      value.isBlank = false → rules.HasType "number" → IsNumber value number →
      rules.FirstUnusable field Constraint.ofNumbers defect →
      ValueDefect field rules (some value) defect

theorem present_eq_some_iff {value : Option Value} {v : Value} :
    Check.present value = some v ↔ value = some v ∧ v.isBlank = false := by
  simp [Check.present, Option.filter_eq_some_iff]

theorem string_eq_error_iff {s : Check.Subject} {value : Value} {defect : Defect} :
    s.string value = .error defect ↔
      (∃ text, value = .text text) ∧ s.rules.FirstUnusable s.field Constraint.ofTexts defect := by
  cases value with
  | text text => rw [string_eq_checkLimits, checkLimits_eq_error_iff]; simp
  | number | date | bool | other => simp [Check.Subject.string]

theorem number_eq_error_iff {s : Check.Subject} {value : Value} {defect : Defect} :
    s.number value = .error defect ↔
      (∃ number, IsNumber value number) ∧
        s.rules.FirstUnusable s.field Constraint.ofNumbers defect := by
  simp only [← number?_eq_some_iff]
  cases numeric : Check.number? value with
  | some number => rw [number_eq_checkLimits numeric, checkLimits_eq_error_iff]; simp
  | none => simp [Check.Subject.number, numeric]

theorem presentValue_eq_error_iff {field : String} {value : Value} {rules : Node} {dates : Dates}
    {defect : Defect} (seen : value.isBlank = false) :
    Check.presentValue field value rules dates = .error defect ↔
      ValueDefect field rules (some value) defect := by
  unfold Check.presentValue
  constructor
  · intro broken
    cases kind : rules.kind with
    | string =>
      rw [kind] at broken
      obtain ⟨⟨text, rfl⟩, first⟩ := string_eq_error_iff.mp broken
      exact .text seen (kind_eq_string_iff.mp kind) first
    | number =>
      rw [kind] at broken
      obtain ⟨⟨number, numeric⟩, first⟩ := number_eq_error_iff.mp broken
      exact .number seen (kind_eq_number_iff.mp kind) numeric first
    | date | unknown =>
      rw [kind] at broken
      cases broken
  · rintro (⟨_, type, first⟩ | ⟨_, type, numeric, first⟩)
    · rw [kind_eq_string_iff.mpr type]
      exact string_eq_error_iff.mpr ⟨⟨_, rfl⟩, first⟩
    · rw [kind_eq_number_iff.mpr type]
      exact number_eq_error_iff.mpr ⟨⟨_, numeric⟩, first⟩

theorem ValueDefect.exists_present {field : String} {rules : Node} {value : Option Value}
    {defect : Defect} (broken : ValueDefect field rules value defect) :
    ∃ v, Check.present value = some v := by
  cases broken with
  | text seen => exact ⟨_, present_eq_some_iff.mpr ⟨rfl, seen⟩⟩
  | number seen => exact ⟨_, present_eq_some_iff.mpr ⟨rfl, seen⟩⟩

theorem field_of_seen {value : Value} (seen : value.isBlank = false) (field : String) (rules : Node)
    (dates : Dates) :
    Check.field field (some value) rules dates = Check.presentValue field value rules dates := by
  rw [Check.field, present_eq_some_iff.mpr ⟨rfl, seen⟩]

theorem field_eq_error_iff_valueDefect {field : String} {value : Option Value} {rules : Node}
    {dates : Dates} {defect : Defect} :
    Check.field field value rules dates = .error defect ↔
      ValueDefect field rules value defect := by
  cases there : Check.present value with
  | some v =>
    obtain ⟨rfl, seen⟩ := present_eq_some_iff.mp there
    rw [field_of_seen seen]
    exact presentValue_eq_error_iff seen
  | none =>
    rw [Check.field, there]
    constructor
    · nofun
    · intro broken
      obtain ⟨v, there'⟩ := broken.exists_present
      rw [there] at there'
      cases there'

/-- What makes the check of a field a defect makes the check of its node one. -/
theorem check_of_valueDefect {field : String} {rules : Node} {value : Option Value}
    {defect : Defect} (broken : ValueDefect field rules value defect) :
    ∃ first, rules.check field = .error first := by
  cases broken with
  | text _ _ first =>
    exact check_of_firstUnusable (List.subset_append_left _ Constraint.ofNumbers) first
  | number _ _ _ first =>
    exact check_of_firstUnusable (List.subset_append_right Constraint.ofTexts _) first

/-- The check of a field is a defect exactly for a text or a number that meets a constraint which
    cannot be used, and then the check of the node is one as well. In all other cases it gives
    violations, whatever the constraints of the node are. -/
theorem field_defect_iff (field : String) (value : Option Value) (rules : Node) (dates : Dates) :
    (∀ defect, Check.field field value rules dates = .error defect ↔
      ValueDefect field rules value defect) ∧
    (∀ defect, ValueDefect field rules value defect →
      ∃ first, rules.check field = .error first) ∧
    ((∀ defect, ¬ ValueDefect field rules value defect) →
      ∃ violations, Check.field field value rules dates = .ok violations) := by
  refine ⟨fun defect => field_eq_error_iff_valueDefect, fun defect => check_of_valueDefect,
    fun sound => ?_⟩
  rw [exists_ok_iff]
  exact fun defect broken => sound defect (field_eq_error_iff_valueDefect.mp broken)

/-- A number with a bound that is none, and with a pattern that is none either. -/
def lowNode : Node :=
  ⟨.ofList [("type", .text "Number"), ("minValue", .text "low"), ("pattern", .text "[")]⟩

/-- A number comes to the bound and not to the pattern. A text that is no number comes to neither,
    and has a violation. -/
theorem field_defect_lowNode :
    (∀ dates, Check.field "amount" (some (.text " 5 ")) lowNode dates =
      .error (.badRule "amount" "minValue" "not a decimal: \"low\"")) ∧
    (∃ first, lowNode.check "amount" = .error first) ∧
    ∀ dates, ∃ violations,
      Check.field "amount" (some (.text "five")) lowNode dates = .ok violations := by
  have broken : ValueDefect "amount" lowNode (some (.text " 5 "))
      (.badRule "amount" "minValue" "not a decimal: \"low\"") := by
    refine .number (by decide) ⟨"Number", rfl, by decide⟩ (.text (d := ⟨5, 0⟩) (by cbv)) ?_
    exact ⟨[], .minValue, [.maxValue], rfl, List.forall_mem_nil _, .text "low", rfl,
      .decimal (.inl rfl) (by cbv)⟩
  have sound (defect : Defect) : ¬ ValueDefect "amount" lowNode (some (.text "five")) defect := by
    rintro (⟨_, type, _⟩ | ⟨_, _, numeric, _⟩)
    · exact absurd (kind_eq_string_iff.mpr type) (by decide)
    · have read := number?_eq_some_iff.mpr numeric
      have none : Check.number? (.text "five") = none := by cbv
      rw [none] at read
      cases read
  refine ⟨fun dates => ?_, ?_, fun dates => ?_⟩
  · exact ((field_defect_iff "amount" (some (.text " 5 ")) lowNode dates).1 _).mpr broken
  · exact (field_defect_iff "amount" (some (.text " 5 ")) lowNode ⟨default, fun _ => false⟩).2.1 _
      broken
  · exact (field_defect_iff "amount" (some (.text "five")) lowNode dates).2.2 sound

end RecordRules
