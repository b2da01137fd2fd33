/-
  Days in ten characters. A strict text is what its day is written as, so that it says no more than
  the day does; the looser way of reading days takes it for the same day, and it is no number.

  1. `spelled_of_strict`: what a strict text consists of.
  2. `Spelled.chars_eq`: the day is written as this text.
  3. `Spelled.ofLooseChars_eq`: read loosely, the text gives the same day.
  4. `Spelled.not_decimal`: the text writes no number.
-/
import RecordRules.Date.Strict
import RecordRules.Proofs.Date.Loose

namespace RecordRules

namespace Date

/-- Characters that write a day: four digits, two and two, with hyphens between them. -/
def Spelled (cs : List Char) (day : Date) : Prop :=
  ∃ ys ms ds : Digits, (ys.length = 4 ∧ ms.length = 2 ∧ ds.length = 2) ∧
    cs = ys.chars ++ '-' :: (ms.chars ++ '-' :: ds.chars) ∧
    day.year = ys.value ∧ day.month = ms.value ∧ day.day = ds.value

theorem spelled_of_strict {cs : List Char} {d : Date} (reads : ofStrictChars? cs = some d) :
    Spelled cs d := by
  unfold ofStrictChars? at reads
  split at reads
  · next y₁ y₂ y₃ y₄ m₁ m₂ d₁ d₂ =>
    simp only [Option.bind_eq_bind, Option.bind_eq_some_iff, Digits.natOf?_eq_some_iff,
      of?_eq_some_iff] at reads
    obtain ⟨_, ⟨ys, _, years, rfl⟩, _, ⟨ms, _, months, rfl⟩, _, ⟨ds, _, days, rfl⟩, same⟩ := reads
    have length {cs : List Char} {es : Digits} (written : cs = es.chars) : es.length = cs.length :=
      (Digits.length_chars es).symm.trans (congrArg List.length written.symm)
    refine ⟨ys, ms, ds, ⟨length years, length months, length days⟩, ?_, same⟩
    rw [← years, ← months, ← days]
    rfl
  · cases reads

/-! ## The ways to read a spelled day -/

namespace Spelled

variable {cs : List Char} {day : Date}

theorem chars_eq (spelled : Spelled cs day) : day.chars = cs := by
  obtain ⟨ys, ms, ds, ⟨four, two, two'⟩, rfl, year, month, dayOfMonth⟩ := spelled
  have bound : ys.value < 10 ^ 4 := four ▸ ys.value_lt
  have years : yearChars day.year = ys.chars := by
    have short : 0 ≤ day.year ∧ day.year ≤ 9999 := by omega
    rw [yearChars, if_pos short, year, Int.toNat_natCast, ← four,
      Digits.padded_value (List.ne_nil_of_length_eq_add_one four)]
  have months : Digits.padded 2 day.month = ms.chars := by
    rw [month, ← two, Digits.padded_value (List.ne_nil_of_length_eq_add_one two)]
  have days : Digits.padded 2 day.day = ds.chars := by
    rw [dayOfMonth, ← two', Digits.padded_value (List.ne_nil_of_length_eq_add_one two')]
  rw [Date.chars, years, months, days]

/-- Read loosely, a spelled day is the same. -/
theorem ofLooseChars_eq (spelled : Spelled cs day) : ofLooseChars cs = .ok day := by
  rw [← spelled.chars_eq]
  obtain ⟨ys, _, _, ⟨four, _, _⟩, _, year, _, _⟩ := spelled
  have bound : ys.value < 10 ^ 4 := four ▸ ys.value_lt
  refine ofLooseChars_chars ?_
  unfold InCalendar firstYear lastYear
  omega

/-- What holds for digits and the hyphen holds for all characters. -/
theorem forall_char (spelled : Spelled cs day) {p : Char → Prop} (digit : ∀ d : Digit, p d.char)
    (hyphen : p '-') : ∀ c ∈ cs, p c := by
  obtain ⟨ys, ms, ds, _, rfl, _⟩ := spelled
  intro c there
  simp only [List.mem_append, List.mem_cons, Digits.chars, List.mem_map] at there
  rcases there with ⟨d, _, rfl⟩ | rfl | ⟨d, _, rfl⟩ | rfl | ⟨d, _, rfl⟩
  · exact digit d
  · exact hyphen
  · exact digit d
  · exact hyphen
  · exact digit d

theorem plain (spelled : Spelled cs day) : ∀ c ∈ cs, Text.isBlank c = false :=
  spelled.forall_char Digit.isBlank_char (by decide)

theorem hyphen_mem (spelled : Spelled cs day) : '-' ∈ cs := by
  obtain ⟨ys, ms, ds, _, rfl, _⟩ := spelled
  exact List.mem_append_cons_self

theorem exists_cons (spelled : Spelled cs day) :
    ∃ (d : Digit) (rest : List Char), cs = d.char :: rest := by
  obtain ⟨ys, ms, ds, ⟨four, _, _⟩, rfl, _⟩ := spelled
  obtain ⟨y, more, rfl⟩ := List.exists_cons_of_ne_nil (List.ne_nil_of_length_eq_add_one four)
  exact ⟨y, _, rfl⟩

/-- The hyphens between the digits keep a spelled day from being a number. -/
theorem not_decimal (spelled : Spelled cs day) : Decimal.ofChars? cs = none := by
  have noMark : ∀ c ∈ cs, Decimal.isExponentMark c = false :=
    spelled.forall_char (fun d => d.char_ne_mark.1) (by decide)
  have noPoint : ∀ c ∈ cs, c ≠ '.' :=
    spelled.forall_char (fun d => d.char_ne_mark.2) (by decide)
  have noNumber : Digits.natOf? cs = none := Digits.natOf?_eq_none_of_mem spelled.hyphen_mem rfl
  obtain ⟨d, rest, rfl⟩ := spelled.exists_cons
  rw [Decimal.ofChars?, Decimal.dropPlus_eq_self d.char_ne_sign.2,
    Decimal.splitExponent_of_plain noMark]
  simp only [Option.bind_eq_bind, Option.bind_some, Decimal.dropPoint_of_plain noPoint,
    Decimal.integer?_of_unsigned d.char_ne_sign, noNumber]
  rfl

end Spelled

end Date

/-- A day is written as the strict text that gives it. -/
theorem text_of_strict {s : String} {d : Date} (strict : Date.ofStrict? s = some d) :
    d.text = s := by
  rw [Date.text, (Date.spelled_of_strict strict).chars_eq, String.ofList_toList]

/-- A text that is a day between white space is not blank. -/
theorem isBlankText_of_trimmed {s : String} {d : Date}
    (strict : Date.ofStrict? (Text.trim s) = some d) : Text.isBlankText s = false := by
  by_contra blank
  rw [Text.trim, Text.trimChars_of_blank (Bool.not_eq_false _ ▸ blank)] at strict
  cases strict

end RecordRules
