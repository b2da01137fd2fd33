/-
  Limits: what the constraints of a node ask for. A constraint that is declared has a value which can
  be used, and then it sets a limit, or one that cannot, and then it is a defect. Which values these
  are is said here for all constraints at once, so that a list of constraints can be read as a list of
  limits.

  1. `lengthOf?_eq_some_iff`: which values are lengths.
  2. `read_eq_ok_iff`, `read_eq_error_iff`: what is read of the value of a constraint.
  3. `limit_eq_none_iff`, `limit_eq_some_iff`, `limit_eq_error_iff`: what is read of a constraint.
  4. `length_eq_declared`, `decimal_eq_declared`, `pattern_eq_declared`, `allowed_eq_declared`: the
     readers of the single constraints read them in this way.
  5. `check_eq_ok_iff_canUse`: when a node passes its check.
-/
import RecordRules.Proofs.Digits
import RecordRules.Proofs.Store.Findings

namespace RecordRules

/-! ## Limits -/

/-- A constraint with a value that can be used. -/
inductive Limit
  | minLength (limit : Nat)
  | maxLength (limit : Nat)
  | pattern (p : Pattern)
  | allowedValues (texts : List String)
  | minValue (limit : Decimal)
  | maxValue (limit : Decimal)

/-- The constraint that sets a limit. -/
def Limit.constraint : Limit → Constraint
  | minLength _ => .minLength
  | maxLength _ => .maxLength
  | pattern _ => .pattern
  | allowedValues _ => .allowedValues
  | minValue _ => .minValue
  | maxValue _ => .maxValue

/-- The violation of a limit. -/
def Limit.violation (s : Check.Subject) : Limit → Violation
  | minLength limit =>
    s.violation "errorMessageMinLength" ("Min length is " ++ toString limit)
      [("minLength", toString limit)]
  | maxLength limit =>
    s.violation "errorMessageMaxLength" ("Max length is " ++ toString limit)
      [("maxLength", toString limit)]
  | pattern p => s.violation "errorMessagePattern" "Invalid format." [("pattern", p.text)]
  | allowedValues texts =>
    s.violation "errorMessageAllowedValues" ("Invalid value. Allowed: " ++ ", ".intercalate texts)
      [("allowedValues", ", ".intercalate texts)]
  | minValue limit =>
    s.violation "errorMessageMinValue" ("Min value is " ++ limit.text) [("minValue", limit.text)]
  | maxValue limit =>
    s.violation "errorMessageMaxValue" ("Max value is " ++ limit.text) [("maxValue", limit.text)]

namespace Constraint

/-- The property that declares a constraint. -/
def property : Constraint → String
  | minLength => "minLength"
  | maxLength => "maxLength"
  | pattern => "pattern"
  | allowedValues => "allowedValues"
  | minValue => "minValue"
  | maxValue => "maxValue"

/-- The constraints of texts. -/
def ofTexts : List Constraint := [minLength, maxLength, pattern, allowedValues]

/-- The constraints of numbers. -/
def ofNumbers : List Constraint := [minValue, maxValue]

end Constraint

/-- A length that fits 64 bits, as an integer or as the text of one. -/
inductive IsLength : Json → Nat → Prop
  | integer {ds : Digits} :
      ds.value < 2 ^ 64 → IsLength (.number ⟨false, ds, none, none⟩) ds.value
  | text {s : String} {plus : List Char} {ds : Digits} :
      plus = [] ∨ plus = ['+'] → ds ≠ [] → Text.trimChars s.toList = plus ++ ds.chars →
      ds.value < 2 ^ 64 → IsLength (.text s) ds.value

/-- The limit that the value of a constraint sets. -/
inductive Sets : Json → Limit → Prop
  | minLength {json : Json} {limit : Nat} : IsLength json limit → Sets json (.minLength limit)
  | maxLength {json : Json} {limit : Nat} : IsLength json limit → Sets json (.maxLength limit)
  | pattern {text : String} {p : Pattern} :
      Pattern.compile text = .ok p → Sets (.text text) (.pattern p)
  | allowedValues (items : List Json) :
      Sets (.array items) (.allowedValues (items.map Json.asText))
  | minValue {json : Json} {limit : Decimal} :
      Node.decimalOf? json = some limit → Sets json (.minValue limit)
  | maxValue {json : Json} {limit : Decimal} :
      Node.decimalOf? json = some limit → Sets json (.maxValue limit)

/-- What is wrong with the value of a constraint that sets no limit. -/
inductive Faulty (field : String) : Constraint → Json → Defect → Prop
  | length {c : Constraint} {json : Json} :
      c = .minLength ∨ c = .maxLength → (∀ limit, ¬ IsLength json limit) →
      Faulty field c json (.badRule field c.property ("not a length: " ++ json.print))
  | pattern {text : String} {d : Pattern.Defect} :
      Pattern.compile text = .error d →
      Faulty field .pattern (.text text) (.badPattern field text d.message)
  | noText {json : Json} :
      json.text? = none →
      Faulty field .pattern json
        (.badRule field "pattern" ("expected a string, got " ++ json.typeName))
  | noArray {json : Json} :
      (∀ items, json ≠ .array items) →
      Faulty field .allowedValues json
        (.badRule field "allowedValues" ("expected an array, got " ++ json.typeName))
  | decimal {c : Constraint} {json : Json} :
      c = .minValue ∨ c = .maxValue → Node.decimalOf? json = none →
      Faulty field c json (.badRule field c.property ("not a decimal: " ++ json.print))

namespace Node

/-- A node sets a limit. -/
def HasLimit (n : Node) (l : Limit) : Prop :=
  ∃ json, n.find? l.constraint.property = some json ∧ Sets json l

/-- A constraint of a node is not declared, or it can be used. -/
def CanUse (n : Node) (c : Constraint) : Prop :=
  ∀ json, n.find? c.property = some json → ∃ l : Limit, l.constraint = c ∧ Sets json l

/-- A constraint of a node is declared, but cannot be used. -/
def CannotUse (n : Node) (field : String) (c : Constraint) (defect : Defect) : Prop :=
  ∃ json, n.find? c.property = some json ∧ Faulty field c json defect

/-- The first of these constraints that cannot be used has this defect. -/
def FirstUnusable (n : Node) (field : String) (constraints : List Constraint)
    (defect : Defect) : Prop :=
  ∃ before c after, constraints = before ++ c :: after ∧ (∀ earlier ∈ before, n.CanUse earlier) ∧
    n.CannotUse field c defect

end Node

/-! ## Lengths -/

theorem lengthOfChars?_eq_some_iff {cs : List Char} {n : Nat} :
    Node.lengthOfChars? cs = some n ↔
      ∃ plus ds, (plus = [] ∨ plus = ['+']) ∧ ds ≠ [] ∧ cs = plus ++ Digits.chars ds ∧
        Digits.value ds = n := by
  constructor
  · intro read
    unfold Node.lengthOfChars? at read
    split at read
    · obtain ⟨ds, nonempty, rfl, value⟩ := Digits.natOf?_eq_some_iff.mp read
      exact ⟨['+'], ds, .inr rfl, nonempty, rfl, value⟩
    · obtain ⟨ds, nonempty, rfl, value⟩ := Digits.natOf?_eq_some_iff.mp read
      exact ⟨[], ds, .inl rfl, nonempty, rfl, value⟩
  · rintro ⟨plus, ds, sign, nonempty, rfl, value⟩
    have read : Digits.natOf? (Digits.chars ds) = some n :=
      Digits.natOf?_eq_some_iff.mpr ⟨ds, nonempty, rfl, value⟩
    rcases sign with rfl | rfl
    · obtain ⟨d, ds, rfl⟩ := List.exists_cons_of_ne_nil nonempty
      unfold Node.lengthOfChars?
      split
      · next same => exact absurd (List.cons.inj same).1 d.char_ne_sign.2
      · exact read
    · exact read

theorem nat?_eq_some_iff {n : Numeral} {value : Nat} :
    n.nat? = some value ↔ ∃ ds, n = ⟨false, ds, none, none⟩ ∧ Digits.value ds = value := by
  obtain ⟨negative, whole, fraction, exponent⟩ := n
  rcases negative with _ | _ <;> rcases fraction with _ | _ <;> rcases exponent with _ | _ <;>
    simp [Numeral.nat?]

theorem lengthOf?_eq_some_iff {json : Json} {limit : Nat} :
    Node.lengthOf? json = some limit ↔ IsLength json limit := by
  have bits : Node.lengthLimit = 2 ^ 64 := rfl
  unfold Node.lengthOf?
  rw [Option.filter_eq_some_iff, decide_eq_true_iff, bits]
  constructor
  · rintro ⟨read, fits⟩
    split at read
    · obtain ⟨ds, rfl, rfl⟩ := nat?_eq_some_iff.mp read
      exact .integer fits
    · obtain ⟨plus, ds, sign, nonempty, written, rfl⟩ := lengthOfChars?_eq_some_iff.mp read
      exact .text sign nonempty written fits
    · cases read
  · rintro (fits | ⟨sign, nonempty, written, fits⟩)
    · exact ⟨nat?_eq_some_iff.mpr ⟨_, rfl, rfl⟩, fits⟩
    · exact ⟨lengthOfChars?_eq_some_iff.mpr ⟨_, _, sign, nonempty, written, rfl⟩, fits⟩

theorem lengthOf?_eq_none_iff {json : Json} :
    Node.lengthOf? json = none ↔ ∀ limit, ¬ IsLength json limit := by
  simp only [Option.eq_none_iff_forall_ne_some, ne_eq, lengthOf?_eq_some_iff]

/-! ## Reading a limit -/

/-- The length that a value gives, or the defect that it gives none. -/
def readLength (field property : String) (json : Json) : Except Defect Nat :=
  match Node.lengthOf? json with
  | some limit => .ok limit
  | none => .error (.badRule field property ("not a length: " ++ json.print))

/-- The number that a value gives, or the defect that it gives none. -/
def readDecimal (field property : String) (json : Json) : Except Defect Decimal :=
  match Node.decimalOf? json with
  | some limit => .ok limit
  | none => .error (.badRule field property ("not a decimal: " ++ json.print))

/-- The pattern that a value gives, or the defect that it gives none. -/
def readPattern (field : String) : Json → Except Defect Pattern
  | .text text => (Pattern.compile text).mapError fun d => .badPattern field text d.message
  | json => .error (.badRule field "pattern" ("expected a string, got " ++ json.typeName))

/-- The texts that a value allows, or the defect that it is no list. -/
def readAllowed (field : String) : Json → Except Defect (List String)
  | .array items => .ok (items.map Json.asText)
  | json => .error (.badRule field "allowedValues" ("expected an array, got " ++ json.typeName))

/-- The limit that the value of a constraint sets, or the defect that it sets none. -/
def Constraint.read (field : String) (json : Json) : Constraint → Except Defect Limit
  | minLength => (readLength field "minLength" json).map .minLength
  | maxLength => (readLength field "maxLength" json).map .maxLength
  | pattern => (readPattern field json).map .pattern
  | allowedValues => (readAllowed field json).map .allowedValues
  | minValue => (readDecimal field "minValue" json).map .minValue
  | maxValue => (readDecimal field "maxValue" json).map .maxValue

/-- Reads a property of a node, if it is declared. -/
def Node.declared {α : Type} (n : Node) (property : String) (read : Json → Except Defect α) :
    Except Defect (Option α) :=
  match n.find? property with
  | none => .ok none
  | some json => (read json).map some

/-- Reads a constraint of a node, if it is declared. -/
def Node.limit (n : Node) (field : String) (c : Constraint) : Except Defect (Option Limit) :=
  n.declared c.property fun json => c.read field json

section

variable {field property : String} {json : Json} {l : Limit} {c : Constraint} {defect : Defect}

theorem readLength_eq_ok_iff {limit : Nat} :
    readLength field property json = .ok limit ↔ IsLength json limit := by
  rw [← lengthOf?_eq_some_iff, readLength]
  cases Node.lengthOf? json <;> simp

theorem readLength_eq_error_iff :
    readLength field property json = .error defect ↔
      (∀ limit, ¬ IsLength json limit) ∧
        defect = .badRule field property ("not a length: " ++ json.print) := by
  rw [← lengthOf?_eq_none_iff, readLength]
  cases Node.lengthOf? json <;> simp [eq_comm]

theorem readDecimal_eq_ok_iff {limit : Decimal} :
    readDecimal field property json = .ok limit ↔ Node.decimalOf? json = some limit := by
  rw [readDecimal]
  cases Node.decimalOf? json <;> simp

theorem readDecimal_eq_error_iff :
    readDecimal field property json = .error defect ↔
      Node.decimalOf? json = none ∧
        defect = .badRule field property ("not a decimal: " ++ json.print) := by
  rw [readDecimal]
  cases Node.decimalOf? json <;> simp [eq_comm]

theorem readPattern_eq_ok_iff {p : Pattern} :
    readPattern field json = .ok p ↔ ∃ text, json = .text text ∧ Pattern.compile text = .ok p := by
  cases json with
  | text text => simp [readPattern, mapError_eq_ok_iff]
  | null | bool | number | array | object => simp [readPattern]

theorem readAllowed_eq_ok_iff {texts : List String} :
    readAllowed field json = .ok texts ↔
      ∃ items, json = .array items ∧ items.map Json.asText = texts := by
  cases json <;> simp [readAllowed]

/-- What is read of the value of a constraint is the limit that it sets. -/
theorem read_eq_ok_iff : c.read field json = .ok l ↔ l.constraint = c ∧ Sets json l := by
  constructor
  · intro read
    cases c with
    | minLength =>
      obtain ⟨limit, given, rfl⟩ := map_eq_ok_iff.mp read
      exact ⟨rfl, .minLength (readLength_eq_ok_iff.mp given)⟩
    | maxLength =>
      obtain ⟨limit, given, rfl⟩ := map_eq_ok_iff.mp read
      exact ⟨rfl, .maxLength (readLength_eq_ok_iff.mp given)⟩
    | pattern =>
      obtain ⟨p, given, rfl⟩ := map_eq_ok_iff.mp read
      obtain ⟨text, rfl, compiles⟩ := readPattern_eq_ok_iff.mp given
      exact ⟨rfl, .pattern compiles⟩
    | allowedValues =>
      obtain ⟨texts, given, rfl⟩ := map_eq_ok_iff.mp read
      obtain ⟨items, rfl, rfl⟩ := readAllowed_eq_ok_iff.mp given
      exact ⟨rfl, .allowedValues items⟩
    | minValue =>
      obtain ⟨limit, given, rfl⟩ := map_eq_ok_iff.mp read
      exact ⟨rfl, .minValue (readDecimal_eq_ok_iff.mp given)⟩
    | maxValue =>
      obtain ⟨limit, given, rfl⟩ := map_eq_ok_iff.mp read
      exact ⟨rfl, .maxValue (readDecimal_eq_ok_iff.mp given)⟩
  · rintro ⟨rfl, sets⟩
    cases sets with
    | minLength given | maxLength given =>
      exact map_eq_ok_iff.mpr ⟨_, readLength_eq_ok_iff.mpr given, rfl⟩
    | pattern compiles =>
      exact map_eq_ok_iff.mpr ⟨_, readPattern_eq_ok_iff.mpr ⟨_, rfl, compiles⟩, rfl⟩
    | allowedValues => rfl
    | minValue given | maxValue given =>
      exact map_eq_ok_iff.mpr ⟨_, readDecimal_eq_ok_iff.mpr given, rfl⟩

/-- What is wrong with the value of a constraint is what is read of it. -/
theorem read_eq_error_iff : c.read field json = .error defect ↔ Faulty field c json defect := by
  constructor
  · intro refused
    cases c with
    | minLength =>
      obtain ⟨none, rfl⟩ := readLength_eq_error_iff.mp (map_eq_error_iff.mp refused)
      exact .length (.inl rfl) none
    | maxLength =>
      obtain ⟨none, rfl⟩ := readLength_eq_error_iff.mp (map_eq_error_iff.mp refused)
      exact .length (.inr rfl) none
    | pattern =>
      replace refused := map_eq_error_iff.mp refused
      cases json with
      | text text =>
        obtain ⟨d, fails, rfl⟩ := mapError_eq_error_iff.mp refused
        exact .pattern fails
      | null | bool | number | array | object =>
        cases refused
        exact .noText rfl
    | allowedValues =>
      replace refused := map_eq_error_iff.mp refused
      cases json with
      | array => cases refused
      | null | bool | number | text | object =>
        cases refused
        exact .noArray nofun
    | minValue =>
      obtain ⟨none, rfl⟩ := readDecimal_eq_error_iff.mp (map_eq_error_iff.mp refused)
      exact .decimal (.inl rfl) none
    | maxValue =>
      obtain ⟨none, rfl⟩ := readDecimal_eq_error_iff.mp (map_eq_error_iff.mp refused)
      exact .decimal (.inr rfl) none
  · intro faulty
    cases faulty with
    | length which none =>
      rcases which with rfl | rfl
      · exact map_eq_error_iff.mpr (readLength_eq_error_iff.mpr ⟨none, rfl⟩)
      · exact map_eq_error_iff.mpr (readLength_eq_error_iff.mpr ⟨none, rfl⟩)
    | pattern fails =>
      exact map_eq_error_iff.mpr (mapError_eq_error_iff.mpr ⟨_, fails, rfl⟩)
    | noText other =>
      cases json with
      | text => cases other
      | null | bool | number | array | object => rfl
    | noArray other =>
      cases json with
      | array items => exact absurd rfl (other items)
      | null | bool | number | text | object => rfl
    | decimal which none =>
      rcases which with rfl | rfl
      · exact map_eq_error_iff.mpr (readDecimal_eq_error_iff.mpr ⟨none, rfl⟩)
      · exact map_eq_error_iff.mpr (readDecimal_eq_error_iff.mpr ⟨none, rfl⟩)

variable {n : Node}

theorem limit_eq_none_iff : n.limit field c = .ok none ↔ n.find? c.property = none := by
  unfold Node.limit Node.declared
  cases n.find? c.property with
  | none => simp
  | some json => simp [map_eq_ok_iff]

theorem limit_eq_some_iff : n.limit field c = .ok (some l) ↔ l.constraint = c ∧ n.HasLimit l := by
  unfold Node.limit Node.declared Node.HasLimit
  constructor
  · intro read
    split at read
    · cases read
    · next json declared =>
      obtain ⟨l, given, same⟩ := map_eq_ok_iff.mp read
      cases same
      obtain ⟨rfl, sets⟩ := read_eq_ok_iff.mp given
      exact ⟨rfl, json, declared, sets⟩
  · rintro ⟨rfl, json, declared, sets⟩
    rw [declared]
    exact map_eq_ok_iff.mpr ⟨l, read_eq_ok_iff.mpr ⟨rfl, sets⟩, rfl⟩

theorem limit_eq_error_iff : n.limit field c = .error defect ↔ n.CannotUse field c defect := by
  unfold Node.limit Node.declared Node.CannotUse
  constructor
  · intro refused
    split at refused
    · cases refused
    · next json declared =>
      exact ⟨json, declared, read_eq_error_iff.mp (map_eq_error_iff.mp refused)⟩
  · rintro ⟨json, declared, faulty⟩
    rw [declared]
    exact map_eq_error_iff.mpr (read_eq_error_iff.mpr faulty)

/-- A constraint is read exactly if it is not declared or can be used. -/
theorem exists_limit_iff : (∃ l, n.limit field c = .ok l) ↔ n.CanUse c := by
  constructor
  · rintro ⟨_ | l, read⟩ json declared
    · rw [limit_eq_none_iff.mp read] at declared
      cases declared
    · obtain ⟨rfl, other, declared', sets⟩ := limit_eq_some_iff.mp read
      rw [declared'] at declared
      cases declared
      exact ⟨l, rfl, sets⟩
  · intro usable
    cases declared : n.find? c.property with
    | none => exact ⟨none, limit_eq_none_iff.mpr declared⟩
    | some json =>
      obtain ⟨l, rfl, sets⟩ := usable json declared
      exact ⟨some l, limit_eq_some_iff.mpr ⟨rfl, json, declared, sets⟩⟩

theorem firstError_limit_iff {constraints : List Constraint} :
    FirstError (n.limit field) constraints defect ↔
      n.FirstUnusable field constraints defect := by
  simp only [FirstError, Node.FirstUnusable, exists_limit_iff, limit_eq_error_iff]

/-! ## Constraints as the checks read them -/

theorem declared_map {α β : Type} (read : Json → Except Defect α) (f : α → β) :
    (n.declared property fun json => (read json).map f) =
      (n.declared property read).map (Option.map f) := by
  unfold Node.declared
  cases n.find? property with
  | none => rfl
  | some json => cases given : read json <;> simp [given, Except.map]

theorem length_eq_declared :
    n.length field property = n.declared property (readLength field property) := by
  unfold Node.length Node.declared
  cases n.find? property with
  | none => rfl
  | some json => cases given : Node.lengthOf? json <;> simp [given, readLength, Except.map]

theorem decimal_eq_declared :
    n.decimal field property = n.declared property (readDecimal field property) := by
  unfold Node.decimal Node.declared
  cases n.find? property with
  | none => rfl
  | some json => cases given : Node.decimalOf? json <;> simp [given, readDecimal, Except.map]

theorem pattern_eq_declared : n.pattern field = n.declared "pattern" (readPattern field) := by
  unfold Node.pattern Node.declared
  cases n.find? "pattern" with
  | none => rfl
  | some json =>
    cases json with
    | text text =>
      cases given : Pattern.compile text <;> simp [given, readPattern, Except.map, Except.mapError]
    | null | bool | number | array | object => rfl

theorem allowed_eq_declared :
    n.allowed field = n.declared "allowedValues" (readAllowed field) := by
  unfold Node.allowed Node.declared
  cases n.find? "allowedValues" with
  | none => rfl
  | some json => cases json <;> rfl

end

/-! ## The check of a node -/

section

variable {n : Node} {field : String} {c : Constraint} {defect : Defect}

theorem use_eq_limit : n.use field c = (n.limit field c).map fun _ => () := by
  have forgotten {α β : Type} (x : Except Defect (Option α)) (f : α → β) :
      ((x.map (Option.map f)).map fun _ => ()) = x.map fun _ => () := by
    cases x <;> rfl
  cases c <;>
    simp only [Node.use, Node.limit, Constraint.read, Constraint.property, declared_map,
      length_eq_declared, pattern_eq_declared, allowed_eq_declared, decimal_eq_declared, forgotten]

theorem use_eq_ok_iff : n.use field c = .ok () ↔ n.CanUse c := by
  rw [use_eq_limit, map_eq_ok_iff]
  simp only [and_true]
  exact exists_limit_iff

/-- A node passes its check exactly if all of its constraints can be used. -/
theorem check_eq_ok_iff_canUse : n.check field = .ok () ↔ ∀ c ∈ Constraint.all, n.CanUse c := by
  rw [Node.check_eq_forM, forM_eq_ok_iff]
  simp only [use_eq_ok_iff]

/-- A node with a constraint that cannot be used fails its check. -/
theorem check_of_firstUnusable {constraints : List Constraint}
    (within : constraints ⊆ Constraint.all)
    (first : n.FirstUnusable field constraints defect) :
    ∃ first, n.check field = .error first := by
  obtain ⟨before, c, after, rfl, _, unusable⟩ := first
  cases checked : n.check field with
  | error first => exact ⟨first, rfl⟩
  | ok =>
    rw [Node.check_eq_forM, forM_eq_ok_iff] at checked
    have accepted := checked c (within List.mem_append_cons_self)
    rw [use_eq_limit, limit_eq_error_iff.mpr unusable] at accepted
    cases accepted

end

end RecordRules
