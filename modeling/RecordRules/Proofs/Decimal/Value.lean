/-
  What numbers are worth. Two numbers are compared at the greater of their scales, where nothing is
  rounded, so that they are compared by value. A number that is written and read again compares equal
  to itself. A numeral is worth its digits and decimal places times its power of ten; it is read as a
  number of this value, unless its scale is beyond the limit.

  1. `compare_eq`: numbers are compared by value.
  2. `text_stable`: the text of a number that was read is read again, and is not changed by this.
  3. `Numeral.numeric_chars`: a numeral is written as a number.
  4. `Numeral.value_decimal`: this number has the numeral's value.
  5. `Numeral.ofText?_text`: what is read of a numeral.
-/
import Mathlib.Order.Compare
import Mathlib.Tactic.FieldSimp
import RecordRules.Proofs.Decimal.Written
import RecordRules.Proofs.Json.Tokens

namespace RecordRules

namespace Decimal

theorem ten_zpow_pos (scale : Int) : (0 : ℚ) < 10 ^ scale := zpow_pos (by norm_num) scale

/-- At a scale that is at least its own, the digits of a number are its value in units of this
    scale. -/
theorem digitsAt_eq (d : Decimal) {scale : Int} (fine : d.scale ≤ scale) :
    (d.digitsAt scale : ℚ) = d.value * 10 ^ scale := by
  have power : (10 : ℚ) ^ (scale - d.scale).toNat = 10 ^ (-d.scale) * 10 ^ scale := by
    rw [← zpow_natCast, Int.toNat_of_nonneg (by omega), ← zpow_add₀ (by norm_num)]
    congr 1
    omega
  have digits : (d.digitsAt scale : ℚ) = d.digits * 10 ^ (scale - d.scale).toNat := by
    simp [digitsAt]
  rw [digits, power, value, mul_assoc]

/-- Numbers are compared by value. -/
theorem compare_eq (a b : Decimal) : a.compare b = Ord.compare a.value b.value := by
  have left := digitsAt_eq a (le_max_left a.scale b.scale)
  have right := digitsAt_eq b (le_max_right a.scale b.scale)
  have units : StrictMono fun value : ℚ => value * 10 ^ max a.scale b.scale :=
    fun _ _ => (mul_lt_mul_iff_left₀ (ten_zpow_pos _)).mpr
  calc
    a.compare b = cmp (a.digitsAt (max a.scale b.scale)) (b.digitsAt (max a.scale b.scale)) :=
      (cmp_eq_compare _ _).symm
    _ = cmp (a.value * 10 ^ max a.scale b.scale) (b.value * 10 ^ max a.scale b.scale) := by
      rw [← left, ← right]
      exact (Int.cast_strictMono.cmp_map_eq _ _).symm
    _ = cmp a.value b.value := units.cmp_map_eq _ _
    _ = Ord.compare a.value b.value := cmp_eq_compare _ _

theorem below_iff (a b : Decimal) : a.below b = true ↔ a.value < b.value := by
  rw [below, compare_eq, beq_iff_eq, compare_lt_iff_lt]

/-- The text of a number that was read is read as an equal number, whose scale is within the limit
    again and whose text is the same. -/
theorem text_stable {s : String} {d : Decimal} (read : ofText? s = some d) :
    ∃ e, ofText? d.text = some e ∧ e.value = d.value ∧ e.compare d = .eq ∧
      e.scale.natAbs ≤ scaleLimit ∧ e.text = d.text := by
  have fits := natAbs_scale_le read
  refine ⟨d.written, d.ofText?_text fits, d.value_written, ?_,
    d.natAbs_scale_written_le.trans fits, ?_⟩
  · rw [compare_eq, compare_eq_iff_eq]
    exact d.value_written
  · rw [text, chars_written, text]

/-- A number with zeros before the point is read again with these zeros as digits. -/
theorem text_stable_thousands :
    ofText? "-12.5e3" = some ⟨-125, -2⟩ ∧ ofText? "-12500" = some ⟨-12500, 0⟩ ∧
      (mk (-12500) 0).value = (mk (-125) (-2)).value ∧
      (mk (-12500) 0).compare ⟨-125, -2⟩ = .eq ∧ (mk (-12500) 0).text = "-12500" := by
  have read : ofText? "-12.5e3" = some ⟨-125, -2⟩ := by decide
  have read' : ofText? "-12500" = some ⟨-12500, 0⟩ := by decide
  have shown : (mk (-125) (-2)).text = "-12500" := by decide +kernel
  obtain ⟨e, again, value, equal, _, text⟩ := text_stable read
  rw [shown, read'] at again
  cases again
  exact ⟨read, read', value, equal, text.trans shown⟩

end Decimal

/-! ## Numerals -/

/-- The number that an exponent writes. -/
def Exponent.value (e : Exponent) : Int := if e.negative then -e.digits.value else e.digits.value

namespace Numeral

/-- The power of ten. -/
def power (n : Numeral) : Int := (n.exponent.map Exponent.value).getD 0

/-- What a numeral is worth. -/
def value (n : Numeral) : ℚ :=
  (if n.negative then -1 else 1) *
    (n.whole.value + n.decimals.value / 10 ^ n.decimals.length) * 10 ^ n.power

/-- The decimal places of a numeral less its power of ten. -/
def scale (n : Numeral) : Int := n.decimals.length - n.power

/-- The number that a numeral writes. -/
def decimal (n : Numeral) : Decimal :=
  ⟨(if n.negative then -1 else 1) * n.mantissaDigits.value, n.scale⟩

variable {n : Numeral}

theorem value_decimal (n : Numeral) : n.decimal.value = n.value := by
  have shift : (10 : ℚ) ^ (-n.scale) = 10 ^ n.power / 10 ^ n.decimals.length := by
    rw [scale, neg_sub, zpow_sub₀ (by norm_num), zpow_natCast]
  rw [Decimal.value, decimal, value, shift, mantissaDigits, Digits.value_append]
  have nonzero : (10 : ℚ) ^ n.decimals.length ≠ 0 := pow_ne_zero _ (by norm_num)
  push_cast
  field_simp

/-- A numeral has digits, and digits in its exponent if there is one. -/
structure Legible (n : Numeral) : Prop where
  mantissa : n.mantissaDigits ≠ []
  exponent : ∀ e, n.exponent = some e → e.digits ≠ []

theorem WellFormed.legible (formed : n.WellFormed) : n.Legible :=
  ⟨List.append_ne_nil_of_left_ne_nil formed.whole _, formed.exponent⟩

theorem mantissa (legible : n.Legible) :
    Decimal.Mantissa (n.whole.chars ++ fractionPart n.fraction) n.mantissaDigits
      n.decimals.length := by
  have digits := legible.mantissa
  unfold mantissaDigits decimals at digits ⊢
  cases given : n.fraction with
  | none =>
    rw [given, Option.getD_none, List.append_nil] at digits
    rw [Option.getD_none, fractionPart, List.append_nil, List.append_nil]
    exact .whole digits
  | some ds =>
    rw [given, Option.getD_some] at digits
    exact .point digits

theorem tenPower (legible : n.Legible) : Decimal.TenPower (exponentPart n.exponent) n.power := by
  unfold power
  cases given : n.exponent with
  | none => exact .absent
  | some e =>
    have nonempty : e.digits ≠ [] := legible.exponent e given
    have mark : Decimal.isExponentMark 'e' = true := rfl
    obtain ⟨negative, ds⟩ := e
    cases negative with
    | false =>
      have power := Decimal.TenPower.marked mark .plus nonempty
      rwa [Int.one_mul] at power
    | true =>
      have power := Decimal.TenPower.marked mark .minus nonempty
      rwa [Int.neg_one_mul] at power

/-- A numeral is written as a number. -/
theorem numeric_chars (legible : n.Legible) : Decimal.Numeric n.chars n.decimal := by
  have magnitude := Decimal.Magnitude.of (mantissa legible) (tenPower legible)
  rw [chars_eq, ← List.append_assoc n.whole.chars]
  unfold decimal
  cases n.negative with
  | false => exact .of .absent magnitude
  | true => exact .of .minus magnitude

/-- What is read of a numeral: the number that it writes, if the scale is within the limit. -/
theorem ofText?_text (legible : n.Legible) :
    Decimal.ofText? n.text =
      if n.scale.natAbs ≤ Decimal.scaleLimit then some n.decimal else none := by
  have numeric := numeric_chars legible
  rw [Decimal.ofText?, text, String.toList_ofList, Text.trimChars_eq_self numeric.unblank,
    numeric.ofChars?_eq]
  rfl

end Numeral

end RecordRules
