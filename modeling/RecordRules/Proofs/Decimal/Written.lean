/-
  Numbers as texts. A number is written with a point, with zeros after it, or with an exponent, as
  its digits and its scale have it. Whichever it is, the text is read as a number of the same value,
  which is written as the same text.

  1. `Spelled.ofChars?_eq`: characters of a certain form are read as a number.
  2. `spelled_chars`: a number is written in this form.
  3. `ofText?_text`: what is read of the text of a number.
  4. `value_written`, `chars_written`: it has the same value and the same text.
-/
import Mathlib.Data.Rat.Cast.Order
import Mathlib.Algebra.Field.Rat
import Mathlib.Algebra.GroupWithZero.Basic
import RecordRules.Proofs.Decimal.Numeric

namespace RecordRules

namespace Decimal

/-- The value of a number. -/
def value (d : Decimal) : ℚ := d.digits * 10 ^ (-d.scale)

/-- The number that is read from a number's text. Zero loses its decimal places, and up to fifteen
    zeros before the point become digits. -/
def written (d : Decimal) : Decimal :=
  if d.digits = 0 then ⟨0, 0⟩
  else if -15 ≤ d.scale ∧ d.scale < 0 then ⟨d.digits * 10 ^ (-d.scale).toNat, 0⟩
  else d

/-- Characters that write digits, with a point before the last so many of them or without one. -/
inductive Pointed : List Char → Digits → Nat → Prop
  | plain {ds : Digits} : ds ≠ [] → Pointed ds.chars ds 0
  | point {ds es : Digits} : ds ≠ [] → Pointed (ds.chars ++ '.' :: es.chars) (ds ++ es) es.length

/-- Characters that write a power of ten. -/
inductive Power : List Char → Int → Prop
  | none : Power [] 0
  | plus {ds : Digits} : ds ≠ [] → Power ('e' :: '+' :: ds.chars) ds.value
  | minus {ds : Digits} : ds ≠ [] → Power ('E' :: '-' :: ds.chars) (-ds.value)

/-- Characters that write digits at a scale, without a sign. -/
inductive Unsigned : List Char → Nat → Int → Prop
  | of {base power : List Char} {ds : Digits} {places : Nat} {e : Int} :
      Pointed base ds places → Power power e → Unsigned (base ++ power) ds.value (places - e)

/-- Characters that write a number. -/
inductive Spelled : List Char → Decimal → Prop
  | positive {cs : List Char} {n : Nat} {scale : Int} :
      Unsigned cs n scale → Spelled cs ⟨n, scale⟩
  | negative {cs : List Char} {n : Nat} {scale : Int} :
      Unsigned cs n scale → Spelled ('-' :: cs) ⟨-n, scale⟩

/-! ## Reading -/

section

variable {cs : List Char} {ds : Digits} {places n : Nat} {scale e : Int}

theorem Pointed.mantissa (pointed : Pointed cs ds places) : Mantissa cs ds places := by
  cases pointed with
  | plain nonempty => exact .whole nonempty
  | point nonempty => exact .point (List.append_ne_nil_of_left_ne_nil nonempty _)

theorem Power.tenPower (power : Power cs e) : TenPower cs e := by
  cases power with
  | none => exact .absent
  | @plus ds nonempty =>
    have read := TenPower.marked (rfl : isExponentMark 'e' = true) .plus nonempty
    rwa [Int.one_mul] at read
  | @minus ds nonempty =>
    have read := TenPower.marked (rfl : isExponentMark 'E' = true) .minus nonempty
    rwa [Int.neg_one_mul] at read

theorem Unsigned.magnitude (written : Unsigned cs n scale) : Magnitude cs n scale := by
  obtain ⟨pointed, power⟩ := written
  exact .of pointed.mantissa power.tenPower

end

theorem Spelled.numeric {cs : List Char} {d : Decimal} (spelled : Spelled cs d) : Numeric cs d := by
  cases spelled with
  | positive written =>
    have read := Numeric.of .absent written.magnitude
    rwa [Int.one_mul] at read
  | negative written =>
    have read := Numeric.of .minus written.magnitude
    rwa [Int.neg_one_mul] at read

/-- What is spelled as a number is read as this number, if its scale is within the limit. -/
theorem Spelled.ofChars?_eq {cs : List Char} {d : Decimal} (spelled : Spelled cs d)
    (fits : d.scale.natAbs ≤ scaleLimit) : ofChars? cs = some d :=
  ofChars?_eq_some_iff.mpr ⟨.inl spelled.numeric, fits⟩

/-! ## Writing -/

theorem Unsigned.of_eq {base power : List Char} {ds : Digits} {places n : Nat} {e scale : Int}
    (pointed : Pointed base ds places) (exponent : Power power e) (digits : ds.value = n)
    (same : (places : Int) - e = scale) : Unsigned (base ++ power) n scale := by
  subst digits same
  exact .of pointed exponent

theorem pointed_withLeadingPoint {ds : Digits} (nonempty : ds ≠ []) :
    Pointed (withLeadingPoint ds.chars) ds (ds.length - 1) := by
  match ds with
  | [] => exact absurd rfl nonempty
  | [d] => exact .plain nonempty
  | d :: e :: ds =>
    have split : Pointed (Digits.chars [d] ++ '.' :: Digits.chars (e :: ds)) ([d] ++ e :: ds)
      (e :: ds).length := .point (List.cons_ne_nil d [])
    exact split

theorem pointed_withPoint (n places : Nat) :
    ∃ ds, ds.value = n ∧ Pointed (withPoint (Digits.ofNat n).chars places) ds places := by
  by_cases none : places = 0
  · subst none
    exact ⟨_, Digits.value_ofNat n, .plain (Digits.ofNat_ne_nil n)⟩
  · -- filled to one digit more than the places, so that a digit stands before the point
    let ds := Digits.filled (places + 1) n
    have long : places + 1 ≤ ds.length := Digits.le_length_filled (places + 1) n
    have before : ds.take (ds.length - places) ≠ [] := by
      rw [ne_eq, ← List.length_eq_zero_iff, List.length_take]
      omega
    have after : (ds.drop (ds.length - places)).length = places := by
      rw [List.length_drop]
      omega
    have chars : withPoint (Digits.ofNat n).chars places =
        Digits.chars (ds.take (ds.length - places)) ++
          '.' :: Digits.chars (ds.drop (ds.length - places)) := by
      have filled : List.replicate (places + 1 - (Digits.ofNat n).chars.length) '0' ++
          (Digits.ofNat n).chars = ds.chars := Digits.padded_eq_chars (places + 1) n
      rw [withPoint, if_neg none]
      simp only [filled]
      simp only [Digits.chars, List.length_map, List.map_take, List.map_drop]
    have pointed : Pointed (Digits.chars (ds.take (ds.length - places)) ++
        '.' :: Digits.chars (ds.drop (ds.length - places))) _ _ := .point before
    rw [List.take_append_drop, after, ← chars] at pointed
    exact ⟨ds, Digits.value_filled (places + 1) n, pointed⟩

theorem unsigned_of_other {n : Nat} {scale : Int} (other : ¬ (-15 ≤ scale ∧ scale < 0)) :
    Unsigned (unsignedChars (Digits.ofNat n).chars scale) n scale := by
  have nonempty := Digits.ofNat_ne_nil n
  have positive : 0 < (Digits.ofNat n).length := List.length_pos_iff.mpr nonempty
  unfold unsignedChars
  rw [Digits.length_chars]
  dsimp only
  split
  · next small =>
    rw [List.append_assoc]
    refine .of_eq (pointed_withLeadingPoint nonempty) (.minus (Digits.ofNat_ne_nil _))
      (Digits.value_ofNat n) ?_
    rw [Digits.value_ofNat]
    omega
  split
  · next great =>
    rw [List.append_assoc]
    refine .of_eq (.plain nonempty) (.plus (Digits.ofNat_ne_nil _)) (Digits.value_ofNat n) ?_
    rw [Digits.value_ofNat]
    omega
  split
  · next negative => omega
  · obtain ⟨ds, digits, pointed⟩ := pointed_withPoint n scale.toNat
    have whole : Unsigned (withPoint (Digits.ofNat n).chars scale.toNat ++ []) n scale :=
      .of_eq pointed .none digits (by omega)
    rwa [List.append_nil] at whole

/-- Few zeros before the point are written out. -/
theorem unsignedChars_of_zeros {n : Nat} {scale : Int} (zeros : -15 ≤ scale ∧ scale < 0) :
    unsignedChars (Digits.ofNat n).chars scale =
      Digits.chars (Digits.ofNat n ++ List.replicate (-scale).toNat 0) := by
  rw [Digits.chars_append, Digits.chars_replicate_zero, unsignedChars, if_neg (by omega),
    if_neg (by omega), if_pos zeros.2]

theorem unsignedChars_zero (cs : List Char) : unsignedChars cs 0 = cs := by
  rw [unsignedChars, if_neg (by omega), if_neg (by decide), if_neg (by decide)]
  rfl

theorem unsigned_of_zeros {n : Nat} {scale : Int} (zeros : -15 ≤ scale ∧ scale < 0) :
    Unsigned (unsignedChars (Digits.ofNat n).chars scale) (n * 10 ^ (-scale).toNat) 0 := by
  have value : Digits.value (Digits.ofNat n ++ List.replicate (-scale).toNat 0) =
      n * 10 ^ (-scale).toNat := by
    rw [Digits.value_append, Digits.value_ofNat, Digits.value_replicate_zero,
      List.length_replicate, Nat.add_zero]
  have nonempty : Digits.ofNat n ++ List.replicate (-scale).toNat 0 ≠ [] :=
    List.append_ne_nil_of_left_ne_nil (Digits.ofNat_ne_nil n) _
  have whole : Unsigned (Digits.chars (Digits.ofNat n ++ List.replicate (-scale).toNat 0) ++ [])
      (n * 10 ^ (-scale).toNat) 0 := .of_eq (.plain nonempty) .none value rfl
  rwa [List.append_nil, ← unsignedChars_of_zeros zeros] at whole

section

variable (d : Decimal)

theorem written_digits_neg_iff : d.written.digits < 0 ↔ d.digits < 0 := by
  unfold written
  split
  · next zero => simp [zero]
  split
  · have power : (0 : Int) < 10 ^ (-d.scale).toNat := Int.pow_pos (by decide)
    rw [mul_neg_iff, and_iff_left power]
    exact or_iff_right fun both => power.not_gt both.2
  · rfl

/-- A number is spelled as what is read of it. -/
theorem spelled_chars : Spelled d.chars d.written := by
  have unsigned : Unsigned
      (unsignedChars (Digits.ofNat d.digits.natAbs).chars (if d.digits = 0 then 0 else d.scale))
      d.written.digits.natAbs d.written.scale := by
    unfold written
    split
    · next zero =>
      rw [zero]
      exact unsigned_of_other (by decide)
    split
    · next zeros =>
      rw [Int.natAbs_mul, Int.natAbs_pow]
      exact unsigned_of_zeros zeros
    · next other => exact unsigned_of_other other
  -- what is read has the sign of the number, so it is spelled with the same one
  unfold chars
  split
  · next negative =>
    have sign := d.written_digits_neg_iff.mpr negative
    have same : d.written = ⟨-(d.written.digits.natAbs : Int), d.written.scale⟩ := by
      rw [← Int.eq_neg_natAbs_of_nonpos (Int.le_of_lt sign)]
    rw [same]
    exact .negative unsigned
  · next positive =>
    have sign := mt d.written_digits_neg_iff.mp positive
    have same : d.written = ⟨(d.written.digits.natAbs : Int), d.written.scale⟩ := by
      rw [Int.natAbs_of_nonneg (Int.not_lt.mp sign)]
    rw [same]
    exact .positive unsigned

/-! ## Text, value and scale -/

theorem natAbs_scale_written_le : d.written.scale.natAbs ≤ d.scale.natAbs := by
  unfold written
  split
  · exact Nat.zero_le _
  split
  · exact Nat.zero_le _
  · exact Nat.le_refl _

/-- What is read of the text of a number. -/
theorem ofText?_text (fits : d.scale.natAbs ≤ scaleLimit) : ofText? d.text = some d.written := by
  have spelled := d.spelled_chars
  rw [ofText?, text, String.toList_ofList, Text.trimChars_eq_self spelled.numeric.unblank]
  exact spelled.ofChars?_eq (d.natAbs_scale_written_le.trans fits)

/-- What is read of the text has the same value. -/
theorem value_written : d.written.value = d.value := by
  unfold written
  split
  · next zero => simp [value, zero]
  split
  · next zeros =>
    have power : (10 : ℚ) ^ (-d.scale) = 10 ^ (-d.scale).toNat := by
      rw [← zpow_natCast, Int.toNat_of_nonneg (by omega)]
    simp [value, power]
  · rfl

/-- What is read of the text is written as the same text. -/
theorem chars_written : d.written.chars = d.chars := by
  have sign := d.written_digits_neg_iff
  unfold written at sign ⊢
  split at sign
  · next zero => simp [chars, zero]
  split at sign
  · next nonzero zeros =>
    rw [if_neg nonzero, if_pos zeros]
    have positive : 0 < d.digits.natAbs := Int.natAbs_pos.mpr nonzero
    have digits : (d.digits * 10 ^ (-d.scale).toNat).natAbs =
        d.digits.natAbs * 10 ^ (-d.scale).toNat := by
      rw [Int.natAbs_mul, Int.natAbs_pow]
      rfl
    simp only [chars, sign, digits, ite_self, unsignedChars_zero, Digits.ofNat_mul_pow positive,
      if_neg nonzero, unsignedChars_of_zeros zeros]
  · next nonzero other => rw [if_neg nonzero, if_neg other]

end

/-- The scale of a number that is read is within the limit. -/
theorem natAbs_scale_le {s : String} {d : Decimal} (read : ofText? s = some d) :
    d.scale.natAbs ≤ scaleLimit :=
  (ofChars?_eq_some_iff.mp read).2

end Decimal

end RecordRules
