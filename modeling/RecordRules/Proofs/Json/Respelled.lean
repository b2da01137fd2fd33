/-
  Numbers as they come back from being taken as JSON values once more. A number that comes back with a
  power of ten has the value that it had, unless it ended with an odd digit and comes back with an even
  one. It has another scale only if it is a whole number beyond 128 bits. Any other number is read as
  before.

  1. `Numeral.value_scientific`: with the point after its first digit, a number has the same value.
  2. `Numeral.ofText?_respelled`: a number that is not written with the digits of its double, or neither
     is great nor ends with an odd digit beside an even one, is read as before.
  3. `Numeral.exists_of_ofText?_respelled`: a number and the one that comes back have the same value.
  4. `Json.lookup_respelledMembers`: the members of an object come back one by one.
-/
import RecordRules.Json.Respelled
import RecordRules.Proofs.Decimal.Value

namespace RecordRules

namespace Numeral

/-! ## Numbers with a power of ten -/

theorem legible_withPower (negative : Bool) (d : Digit) (ds : Digits) (power : Int) :
    (withPower negative d ds power).Legible where
  mantissa := List.cons_ne_nil d _
  exponent := by
    intro e given
    cases given
    exact Digits.filled_ne_nil _ _

theorem decimals_withPower (negative : Bool) (d : Digit) (ds : Digits) (power : Int) :
    (withPower negative d ds power).decimals = ds := by
  unfold withPower decimals
  cases ds <;> rfl

theorem power_withPower (negative : Bool) (d : Digit) (ds : Digits) (power : Int) :
    (withPower negative d ds power).power = power := by
  simp only [Numeral.power, withPower, Option.map_some, Option.getD_some, Exponent.value,
    Digits.value_filled, decide_eq_true_eq]
  split <;> omega

theorem decimal_withPower (negative : Bool) (d : Digit) (ds : Digits) (power : Int) :
    (withPower negative d ds power).decimal =
      ⟨(if negative then -1 else 1) * Digits.value (d :: ds), ds.length - power⟩ := by
  rw [decimal, scale, mantissaDigits, decimals_withPower, power_withPower]
  rfl

variable {n : Numeral}

/-- The number of a plain numeral. -/
theorem decimal_of_plain (plain : n.exponent = none) :
    n.decimal = ⟨(if n.negative then -1 else 1) * n.mantissaDigits.value, n.decimals.length⟩ := by
  rw [decimal, scale, power, plain, Option.map_none, Option.getD_none, Int.sub_zero]

/-- With the point after its first digit, a number loses the zeros at its end. -/
theorem decimal_scientific (plain : n.exponent = none) :
    ∃ count : Nat, n.decimal =
        ⟨n.scientific.decimal.digits * 10 ^ count, n.scientific.decimal.scale + count⟩ ∧
      (n.mantissaDigits.zerosAtEnd = 0 → count = 0) := by
  unfold scientific
  split
  · exact ⟨0, by simp, fun _ => rfl⟩
  · next d ds digits =>
    have nonzero : n.mantissaDigits.significant ≠ [] := by simp [digits]
    have value := Digits.value_significant nonzero
    have total := Digits.length_significant nonzero
    rw [digits] at value total
    rw [mantissaDigits, List.length_append, List.length_cons, ← mantissaDigits] at total
    refine ⟨n.mantissaDigits.zerosAtEnd, ?_, id⟩
    rw [decimal_of_plain plain, decimal_withPower, value, leadingPower, Decimal.mk.injEq]
    push_cast
    constructor
    · ring
    · omega

/-- With the point after its first digit, a number has the same value. -/
theorem value_scientific (plain : n.exponent = none) :
    n.scientific.decimal.value = n.decimal.value := by
  obtain ⟨count, same, _⟩ := decimal_scientific plain
  have shift : (10 : ℚ) ^ count * 10 ^ (-(n.scientific.decimal.scale + count)) =
      10 ^ (-n.scientific.decimal.scale) := by
    rw [← zpow_natCast, ← zpow_add₀ (by norm_num)]
    congr 1
    ring
  rw [same, Decimal.value, Decimal.value, ← shift]
  push_cast
  ring

theorem legible_scientific (legible : n.Legible) : n.scientific.Legible := by
  unfold scientific
  split
  · exact legible
  · exact legible_withPower ..

/-! ## Numbers as they come back -/

theorem plain_of_isGreat (great : n.isGreat = true) : n.exponent = none ∧ n.fraction = none := by
  simp only [isGreat, Bool.and_eq_true, Option.isNone_iff_eq_none] at great
  exact great.1

theorem plain_of_isFraction (fraction : n.isFraction = true) :
    n.exponent = none ∧ n.mantissaDigits.zerosAtEnd = 0 := by
  simp only [isFraction, Bool.and_eq_true, Option.isNone_iff_eq_none, decide_eq_true_eq] at fraction
  exact ⟨fraction.1.1, fraction.2⟩

theorem legible_of_isGreat (great : n.isGreat = true) : n.Legible := by
  constructor
  · intro none
    obtain ⟨whole, _⟩ := List.append_eq_nil_iff.mp none
    rw [isGreat, whole] at great
    cases sign : n.negative <;> simp [sign, Digits.value] at great
  · intro e given
    cases (plain_of_isGreat great).1.symm.trans given

theorem legible_of_isSmall (plain : n.exponent = none) (small : n.isSmall = true) : n.Legible := by
  constructor
  · intro none
    rw [isSmall, leadingPower, none] at small
    simp [Digits.zeros] at small
    omega
  · intro e given
    cases plain.symm.trans given

/-- A number without zeros at its end is read as before with the point after its first digit. -/
theorem ofText?_scientific (legible : n.Legible) (plain : n.exponent = none)
    (bare : n.mantissaDigits.zerosAtEnd = 0) :
    Decimal.ofText? n.scientific.text = Decimal.ofText? n.text := by
  obtain ⟨count, same, none⟩ := decimal_scientific plain
  rw [none bare, pow_zero, mul_one, Nat.cast_zero, add_zero] at same
  have scale : n.scale = n.scientific.scale := congrArg Decimal.scale same
  rw [ofText?_text legible, ofText?_text (legible_scientific legible), same, scale]

/-- A number is read as it comes back, unless it is written with the digits of its double and is great
    or ends with an odd digit beside an even one. -/
theorem ofText?_respelled (great : n.isDouble = true → n.isGreat = false)
    (raised : n.isDouble = true → n.isRaised = false) :
    Decimal.ofText? n.respelled.text = Decimal.ofText? n.text := by
  unfold respelled
  split
  · next zero =>
    rw [zero]
    decide +kernel
  · split
    · next far =>
      rw [Bool.and_eq_true] at far
      exact absurd (great far.2) (ne_false_of_eq_true far.1)
    · split
      · next double =>
        rw [Bool.and_eq_true] at double
        obtain ⟨fraction, double⟩ := double
        obtain ⟨plain, bare⟩ := plain_of_isFraction fraction
        simp only [raised double, Bool.false_eq_true, ↓reduceIte]
        split
        · next small => exact ofText?_scientific (legible_of_isSmall plain small) plain bare
        · rfl
      · rfl

theorem respelled_of_isGreat (great : n.isGreat = true) (double : n.isDouble = true) :
    n.respelled = n.scientific := by
  have other : n ≠ { ofNat 0 with negative := true } := by
    rintro rfl
    exact absurd great (by decide +kernel)
  rw [respelled, if_neg other, great, double]
  rfl

/-- If a number can be read as it comes back, it can be read as it is, with the same value, unless it
    ends with an odd digit beside an even one. -/
theorem exists_of_ofText?_respelled (raised : n.isDouble = true → n.isRaised = false) {d : Decimal}
    (read : Decimal.ofText? n.respelled.text = some d) :
    ∃ d', Decimal.ofText? n.text = some d' ∧ d'.value = d.value := by
  by_cases far : n.isDouble = true → n.isGreat = false
  · exact ⟨d, (ofText?_respelled far raised).symm.trans read, rfl⟩
  · obtain ⟨double, great⟩ := Classical.not_imp.mp far
    rw [Bool.not_eq_false] at great
    have legible := legible_of_isGreat great
    obtain ⟨plain, whole⟩ := plain_of_isGreat great
    have scale : n.scale = 0 := by
      rw [Numeral.scale, decimals, power, plain, whole]
      rfl
    rw [respelled_of_isGreat great double, ofText?_text (legible_scientific legible)] at read
    obtain ⟨_, same⟩ := Option.ite_none_right_eq_some.mp read
    cases same
    refine ⟨n.decimal, ?_, (value_scientific plain).symm⟩
    rw [ofText?_text legible, scale]
    rfl

end Numeral

/-! ## Objects -/

theorem Json.lookup_respelledMembers (members : List (String × Json)) (name : String) :
    (Json.respelledMembers members).lookup name = (members.lookup name).map Json.respelled := by
  induction members with
  | nil => rfl
  | cons member members ih =>
    obtain ⟨key, json⟩ := member
    rw [Json.respelledMembers, List.lookup_cons, List.lookup_cons, ih]
    cases name == key <;> rfl

end RecordRules
