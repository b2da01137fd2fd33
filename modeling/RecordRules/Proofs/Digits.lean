/-
  What digits write. Characters are read as digits exactly if they are written by them, and a number
  that is filled up with leading zeros gives back the digits that it was read from.

  1. `natOf?_eq_some_iff`: which characters write a number.
  2. `span_chars_append`: digits are read up to the first character that is none.
  3. `padded_value`: filling up to the width of some digits gives these digits.
  4. `value_ofNat`, `value_filled`: a number that is written in digits is what they write, also with
     leading zeros.
  5. `ofNat_mul_pow`: the digits of a number with zeros after it.
  6. `zeros_append_significant`: digits are the significant ones between zeros.
  7. `chars_lt_iff`, `chars_eq_iff`: digits of one length are in the order of what they write.
-/
import Mathlib.Algebra.GroupWithZero.Nat
import Mathlib.Data.List.Basic
import Mathlib.Data.List.Induction
import Mathlib.Data.List.TakeWhile
import Mathlib.Tactic.Ring
import RecordRules.Decimal.Read

namespace RecordRules

namespace Digit

@[simp] theorem ofChar?_char (d : Digit) : ofChar? d.char = some d := by
  revert d
  decide

theorem ofChar?_eq_some_iff {c : Char} {d : Digit} : ofChar? c = some d ↔ c = d.char := by
  constructor
  · intro h
    unfold ofChar? at h
    split at h
    · next range =>
      cases h
      have same : 48 + (c.toNat - 48) = c.toNat := by omega
      rw [char, same, Char.ofNat_toNat]
    · cases h
  · rintro rfl
    exact ofChar?_char d

theorem isZero_iff {d : Digit} : d.isZero = true ↔ d = 0 := by
  rw [isZero, beq_iff_eq, Fin.ext_iff]
  rfl

theorem isBlank_char (d : Digit) : Text.isBlank d.char = false := by
  revert d
  decide

theorem char_ne_sign (d : Digit) : d.char ≠ '-' ∧ d.char ≠ '+' := by
  revert d
  decide

theorem char_ne_mark (d : Digit) : Decimal.isExponentMark d.char = false ∧ d.char ≠ '.' := by
  revert d
  decide

theorem char_lt_iff {d e : Digit} : d.char < e.char ↔ d < e := by
  revert d e
  decide

theorem char_inj {d e : Digit} : d.char = e.char ↔ d = e := by
  revert d e
  decide

end Digit

namespace Digits

@[simp] theorem chars_nil : chars [] = [] := rfl

@[simp] theorem chars_cons (d : Digit) (ds : Digits) : chars (d :: ds) = d.char :: chars ds := rfl

theorem chars_append (ds es : Digits) : chars (ds ++ es) = chars ds ++ chars es :=
  List.map_append

theorem length_chars (ds : Digits) : (chars ds).length = ds.length := List.length_map ..

/-- What holds for every digit holds for the characters of digits. -/
theorem forall_mem_chars {p : Char → Prop} (digit : ∀ d : Digit, p d.char) (ds : Digits) :
    ∀ c ∈ chars ds, p c :=
  List.forall_mem_map.mpr fun d _ => digit d

/-! ## Reading -/

theorem ofChars?_eq_some_iff {cs : List Char} {ds : Digits} :
    ofChars? cs = some ds ↔ cs = chars ds := by
  induction cs generalizing ds with
  | nil => cases ds <;> simp [ofChars?]
  | cons c cs ih =>
    simp only [ofChars?, Option.bind_eq_bind, Option.bind_eq_some_iff, Digit.ofChar?_eq_some_iff,
      ih]
    constructor
    · rintro ⟨d, rfl, es, rfl, same⟩
      cases same
      rfl
    · intro same
      cases ds with
      | nil => cases same
      | cons d es =>
        obtain ⟨rfl, rfl⟩ := List.cons.inj same
        exact ⟨d, rfl, es, rfl, rfl⟩

theorem natOf?_eq_some_iff {cs : List Char} {n : Nat} :
    natOf? cs = some n ↔ ∃ ds, ds ≠ [] ∧ cs = chars ds ∧ value ds = n := by
  constructor
  · intro h
    unfold natOf? at h
    split at h
    · next d ds digits =>
      cases h
      exact ⟨d :: ds, List.cons_ne_nil d ds, ofChars?_eq_some_iff.mp digits, rfl⟩
    · cases h
  · rintro ⟨ds, nonempty, same, rfl⟩
    rw [natOf?, ofChars?_eq_some_iff.mpr same]
    cases ds with
    | nil => exact absurd rfl nonempty
    | cons d ds => rfl

theorem natOf?_chars {ds : Digits} (nonempty : ds ≠ []) : natOf? (chars ds) = some (value ds) :=
  natOf?_eq_some_iff.mpr ⟨ds, nonempty, rfl, rfl⟩

theorem natOf?_eq_none_of_mem {cs : List Char} {c : Char} (there : c ∈ cs)
    (other : Digit.ofChar? c = none) : natOf? cs = none := by
  rw [Option.eq_none_iff_forall_ne_some]
  intro n reads
  obtain ⟨ds, _, rfl, _⟩ := natOf?_eq_some_iff.mp reads
  obtain ⟨d, _, rfl⟩ := List.mem_map.mp there
  rw [Digit.ofChar?_char] at other
  cases other

/-- Digits are read up to the first character that is none. -/
theorem span_chars_append (ds : Digits) {rest : List Char}
    (stop : ∀ c ∈ rest.head?, Digit.ofChar? c = none) : span (chars ds ++ rest) = (ds, rest) := by
  induction ds with
  | nil =>
    cases rest with
    | nil => rfl
    | cons c rest => simp [span, stop c rfl]
  | cons d ds ih => simp [span, ih]

/-! ## Writing -/

theorem value_append_singleton (ds : Digits) (d : Digit) :
    value (ds ++ [d]) = 10 * value ds + d.val := by
  simp [value]

theorem value_lt (ds : Digits) : value ds < 10 ^ ds.length := by
  induction ds using List.reverseRecOn with
  | nil => simp [value]
  | append_singleton ds d ih =>
    rw [value_append_singleton, List.length_append, List.length_singleton, Nat.pow_succ]
    omega

theorem before_append (n : Nat) (known more : Digits) :
    before n (known ++ more) = before n known ++ more := by
  induction n, known using before.induct with
  | case1 n known small =>
    rw [before, dif_pos small, before, dif_pos small, List.cons_append]
  | case2 n known large ih =>
    conv_rhs => rw [before, dif_neg large]
    rw [before, dif_neg large, ← ih]
    rfl

theorem ofNat_of_lt {n : Nat} (small : n < 10) : ofNat n = [⟨n, small⟩] := by
  rw [ofNat, before, dif_pos small]

/-- A further digit is written after the others. -/
theorem ofNat_snoc {n : Nat} (positive : 0 < n) (d : Digit) :
    ofNat (10 * n + d) = ofNat n ++ [d] := by
  have large : ¬ 10 * n + d < 10 := by omega
  have quotient : (10 * n + d) / 10 = n := by omega
  have remainder : (10 * n + d) % 10 = d := by omega
  rw [ofNat, before, dif_neg large]
  simp only [quotient, remainder]
  exact before_append n [] [d]

theorem padded_snoc {width : Nat} (positive : 0 < width) (n : Nat) (d : Digit) :
    padded (width + 1) (10 * n + d) = padded width n ++ [d.char] := by
  rcases Nat.eq_zero_or_pos n with rfl | large
  · have zeros : List.replicate width '0' = List.replicate (width - 1) '0' ++ ['0'] := by
      obtain ⟨w, rfl⟩ := Nat.exists_eq_add_one_of_ne_zero (Nat.ne_of_gt positive)
      exact List.replicate_succ'
    have last : 10 * 0 + d.val = d.val := by omega
    rw [last, padded, padded, ofNat_of_lt d.isLt, ofNat_of_lt (by decide)]
    simp only [chars_cons, chars_nil, List.length_singleton, Nat.add_sub_cancel]
    rw [zeros]
    rfl
  · rw [padded, padded, ofNat_snoc large, chars_append]
    simp only [chars_cons, chars_nil, List.length_append, List.length_singleton,
      Nat.add_sub_add_right, List.append_assoc]

/-- Filling up to the width of digits gives these digits. -/
theorem padded_value {ds : Digits} (nonempty : ds ≠ []) :
    padded ds.length (value ds) = chars ds := by
  induction ds using List.reverseRecOn with
  | nil => exact absurd rfl nonempty
  | append_singleton ds d ih =>
    cases ds with
    | nil =>
      have single : value [d] = d.val := by simp [value]
      rw [List.nil_append, single, padded, ofNat_of_lt d.isLt]
      rfl
    | cons e es =>
      have positive : 0 < (e :: es).length := Nat.succ_pos es.length
      rw [value_append_singleton, List.length_append, List.length_singleton,
        padded_snoc positive, ih (List.cons_ne_nil e es), chars_append]
      rfl

/-! ## Numbers in digits -/

/-- A number has one digit, or a last one and others before it. -/
theorem lt_or_eq_snoc (n : Nat) :
    n < 10 ∨ ∃ (m : Nat) (d : Digit), 0 < m ∧ m < n ∧ n = 10 * m + d := by
  by_cases small : n < 10
  · exact .inl small
  · exact .inr ⟨n / 10, ⟨n % 10, by omega⟩, by omega, by omega, (Nat.div_add_mod n 10).symm⟩

/-- What is written in digits is what they write. -/
theorem value_ofNat (n : Nat) : value (ofNat n) = n := by
  induction n using Nat.strong_induction_on with
  | _ n ih =>
    rcases lt_or_eq_snoc n with small | ⟨m, d, positive, less, rfl⟩
    · rw [ofNat_of_lt small]
      simp [value]
    · rw [ofNat_snoc positive, value_append_singleton, ih m less]

theorem ofNat_ne_nil (n : Nat) : ofNat n ≠ [] := by
  rcases lt_or_eq_snoc n with small | ⟨m, d, positive, _, rfl⟩
  · rw [ofNat_of_lt small]
    exact List.cons_ne_nil _ _
  · rw [ofNat_snoc positive]
    exact List.append_ne_nil_of_right_ne_nil _ (List.cons_ne_nil d [])

/-- No digits of a number start with zero, but for zero itself. -/
theorem ofNat_eq_of_head_zero {n : Nat} (zero : (ofNat n).head? = some 0) : ofNat n = [0] := by
  induction n using Nat.strong_induction_on with
  | _ n ih =>
    rcases lt_or_eq_snoc n with small | ⟨m, d, positive, less, rfl⟩
    · rw [ofNat_of_lt small] at zero ⊢
      rw [Option.some.inj zero]
    · rw [ofNat_snoc positive, List.head?_append_of_ne_nil _ (ofNat_ne_nil m)] at zero
      have none : m = 0 := by
        rw [← value_ofNat m, ih m less zero]
        rfl
      omega

theorem length_ofNat_le {width n : Nat} (positive : 0 < width) (small : n < 10 ^ width) :
    (ofNat n).length ≤ width := by
  induction width, positive using Nat.le_induction generalizing n with
  | base => rw [ofNat_of_lt small, List.length_singleton]
  | succ width positive ih =>
    rcases lt_or_eq_snoc n with single | ⟨m, d, some, _, rfl⟩
    · rw [ofNat_of_lt single, List.length_singleton]
      omega
    · rw [Nat.pow_succ] at small
      have fits : (ofNat m).length ≤ width := ih (by omega)
      rw [ofNat_snoc some, List.length_append, List.length_singleton]
      omega

theorem value_append (ds es : Digits) :
    value (ds ++ es) = value ds * 10 ^ es.length + value es := by
  induction es using List.reverseRecOn with
  | nil => simp [value]
  | append_singleton es e ih =>
    rw [← List.append_assoc, value_append_singleton, ih, value_append_singleton,
      List.length_append, List.length_singleton, Nat.pow_succ]
    ring

theorem value_replicate_zero (count : Nat) : value (List.replicate count 0) = 0 := by
  induction count with
  | zero => rfl
  | succ count ih => rw [List.replicate_succ', value_append_singleton, ih, Fin.val_zero]

theorem chars_replicate_zero (count : Nat) :
    chars (List.replicate count 0) = List.replicate count '0' := List.map_replicate

/-- Zeros after a number are digits of it. -/
theorem ofNat_mul_pow {n : Nat} (positive : 0 < n) (count : Nat) :
    ofNat (n * 10 ^ count) = ofNat n ++ List.replicate count 0 := by
  induction count with
  | zero => rw [Nat.pow_zero, Nat.mul_one, List.replicate_zero, List.append_nil]
  | succ count ih =>
    have last : n * 10 ^ (count + 1) = 10 * (n * 10 ^ count) + (0 : Digit).val := by
      rw [Nat.pow_succ, Fin.val_zero]
      ring
    rw [last, ofNat_snoc (Nat.mul_pos positive (Nat.pow_pos (by decide))), ih,
      List.replicate_succ', List.append_assoc]

theorem filled_eq_append (width n : Nat) :
    filled width n = List.replicate (width - (ofNat n).length) 0 ++ ofNat n := rfl

theorem padded_eq_chars (width n : Nat) : padded width n = chars (filled width n) := by
  rw [filled_eq_append, chars_append, chars_replicate_zero, padded, length_chars]

theorem value_filled (width n : Nat) : value (filled width n) = n := by
  rw [filled_eq_append, value_append, value_replicate_zero, value_ofNat, Nat.zero_mul,
    Nat.zero_add]

theorem filled_ne_nil (width n : Nat) : filled width n ≠ [] :=
  List.append_ne_nil_of_right_ne_nil _ (ofNat_ne_nil n)

theorem le_length_filled (width n : Nat) : width ≤ (filled width n).length := by
  rw [filled, List.length_append, List.length_replicate]
  omega

theorem length_filled {width n : Nat} (positive : 0 < width) (small : n < 10 ^ width) :
    (filled width n).length = width := by
  have fits : (ofNat n).length ≤ width := length_ofNat_le positive small
  rw [filled, List.length_append, List.length_replicate]
  omega

/-! ## Zeros at either end -/

/-- The zeros at the front of digits, and the other digits. -/
theorem zeros_append_dropWhile (ds : Digits) :
    List.replicate ds.zeros 0 ++ ds.dropWhile Digit.isZero = ds := by
  have front : ds.takeWhile Digit.isZero = List.replicate ds.zeros 0 :=
    List.eq_replicate_of_mem fun d there => Digit.isZero_iff.mp (List.mem_takeWhile_imp there)
  rw [← front, List.takeWhile_append_dropWhile]

/-- The zeros at the end of digits are those after the zeros at the front, if there are others between
    them. -/
theorem zerosAtEnd_dropWhile {ds : Digits} (nonzero : ds.significant ≠ []) :
    zerosAtEnd (ds.dropWhile Digit.isZero) = ds.zerosAtEnd := by
  have ends : ((ds.dropWhile Digit.isZero).reverse.takeWhile Digit.isZero).length ≠
      (ds.dropWhile Digit.isZero).reverse.length := by
    intro all
    have drops := congrArg List.length
      (List.takeWhile_append_dropWhile (p := Digit.isZero)
        (l := (ds.dropWhile Digit.isZero).reverse))
    rw [List.length_append, all, Nat.add_eq_left, List.length_eq_zero_iff] at drops
    exact nonzero (by rw [significant, drops, List.reverse_nil])
  conv_rhs => rw [← zeros_append_dropWhile ds, zerosAtEnd, zeros, List.reverse_append,
    List.takeWhile_append, if_neg ends]
  rfl

/-- Digits that are not all zeros are the significant ones between zeros. -/
theorem zeros_append_significant {ds : Digits} (nonzero : ds.significant ≠ []) :
    List.replicate ds.zeros 0 ++ (ds.significant ++ List.replicate ds.zerosAtEnd 0) = ds := by
  have back := congrArg List.reverse (zeros_append_dropWhile (ds.dropWhile Digit.isZero).reverse)
  rw [List.reverse_append, List.reverse_reverse, List.reverse_replicate] at back
  conv_rhs => rw [← zeros_append_dropWhile ds, ← back]
  rw [← zerosAtEnd_dropWhile nonzero]
  rfl

theorem value_significant {ds : Digits} (nonzero : ds.significant ≠ []) :
    value ds = value ds.significant * 10 ^ ds.zerosAtEnd := by
  conv_lhs => rw [← zeros_append_significant nonzero]
  rw [value_append, value_append, value_replicate_zero, value_replicate_zero, List.length_replicate]
  ring

theorem length_significant {ds : Digits} (nonzero : ds.significant ≠ []) :
    ds.length = ds.zeros + ds.significant.length + ds.zerosAtEnd := by
  conv_lhs => rw [← zeros_append_significant nonzero]
  simp only [List.length_append, List.length_replicate]
  ring

/-! ## Order -/

theorem value_cons (d : Digit) (ds : Digits) :
    value (d :: ds) = d.val * 10 ^ ds.length + value ds := by
  simpa [value] using value_append [d] ds

/-- Digits of one length are in the order of the numbers that they write: the first in which they
    differ decides, since the digits after it write less than one of its place. -/
theorem chars_lt_iff {ds es : Digits} (same : ds.length = es.length) :
    chars ds < chars es ↔ value ds < value es := by
  induction ds generalizing es with
  | nil =>
    obtain rfl := List.eq_nil_of_length_eq_zero same.symm
    simp
  | cons d ds ih =>
    cases es with
    | nil => cases same
    | cons e es =>
      have same' : ds.length = es.length := Nat.succ.inj same
      have small : value ds < 10 ^ es.length := same' ▸ value_lt ds
      have small' : value es < 10 ^ es.length := value_lt es
      rw [chars_cons, chars_cons, List.cons_lt_cons_iff, Digit.char_lt_iff, Digit.char_inj,
        ih same', value_cons, value_cons, same']
      rcases Nat.lt_trichotomy d e with less | equal | greater
      · have step : (d.val + 1) * 10 ^ es.length ≤ e.val * 10 ^ es.length :=
          Nat.mul_le_mul_right _ less
        rw [Nat.succ_mul] at step
        exact iff_of_true (.inl less) (by omega)
      · simp [Fin.ext equal]
      · have step : (e.val + 1) * 10 ^ es.length ≤ d.val * 10 ^ es.length :=
          Nat.mul_le_mul_right _ greater
        have other : ¬ d = e := fun equal => Nat.ne_of_gt greater (congrArg Fin.val equal)
        rw [Nat.succ_mul] at step
        exact iff_of_false (not_or.mpr ⟨Nat.not_lt_of_gt greater, fun ⟨equal, _⟩ => other equal⟩)
          (by omega)

/-- Digits of one length are known from the number that they write. -/
theorem chars_eq_iff {ds es : Digits} (same : ds.length = es.length) :
    chars ds = chars es ↔ value ds = value es := by
  constructor
  · intro equal
    have read : ofChars? (chars ds) = some es := ofChars?_eq_some_iff.mpr equal
    rw [ofChars?_eq_some_iff.mpr rfl] at read
    rw [Option.some.inj read]
  · intro equal
    cases ds with
    | nil => rw [List.eq_nil_of_length_eq_zero same.symm]
    | cons d ds =>
      have nonempty : es ≠ [] := List.ne_nil_of_length_pos (same ▸ Nat.succ_pos ds.length)
      rw [← padded_value (List.cons_ne_nil d ds), equal, same, padded_value nonempty]

end Digits

end RecordRules
