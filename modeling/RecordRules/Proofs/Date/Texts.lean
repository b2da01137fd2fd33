/-
  Strict texts and their days, one to one. A text is read strictly exactly if it is a day of the years
  from zero to 9999, written as four digits, two and two with hyphens between them; so a day has one
  text, which is how it is shown. The characters of all these texts stand at the same places, and so
  texts are in the order of their days: what differs first, year, month or day, decides in both.

  1. `ofStrictChars?_eq_some_iff`: what is read strictly.
  2. `exists_strict_iff`: which digits are read.
  3. `spelled_chars`: every day of these years is spelled as it is written.
  4. `Spelled.lt_iff`: texts are in the order of their days.
  5. `strict_texts_one_to_one`: texts and days, one to one and in order.
-/
import RecordRules.Proofs.Date.Calendar
import RecordRules.Proofs.Date.Strict
import RecordRules.Record.Value

namespace RecordRules

/-! ## Reading -/

namespace Date

/-- Characters of digits, four, two and two, with hyphens between them. -/
def hyphenated (ys ms ds : Digits) : List Char := ys.chars ++ '-' :: (ms.chars ++ '-' :: ds.chars)

theorem ofStrictChars?_hyphenated {ys ms ds : Digits} (four : ys.length = 4) (two : ms.length = 2)
    (two' : ds.length = 2) :
    ofStrictChars? (hyphenated ys ms ds) = of? ys.value ms.value ds.value := by
  match ys, ms, ds with
  | [y₁, y₂, y₃, y₄], [m₁, m₂], [d₁, d₂] =>
    have years : Digits.natOf? (Digits.chars [y₁, y₂, y₃, y₄]) = _ := Digits.natOf?_chars nofun
    have months : Digits.natOf? (Digits.chars [m₁, m₂]) = _ := Digits.natOf?_chars nofun
    have days : Digits.natOf? (Digits.chars [d₁, d₂]) = _ := Digits.natOf?_chars nofun
    simp only [hyphenated, Digits.chars_cons, Digits.chars_nil, List.cons_append, List.nil_append,
      ofStrictChars?] at years months days ⊢
    rw [years, months, days]
    rfl

/-- Characters are read strictly as the day that they spell. -/
theorem ofStrictChars?_eq_some_iff {cs : List Char} {d : Date} :
    ofStrictChars? cs = some d ↔ Spelled cs d := by
  refine ⟨spelled_of_strict, fun spelled => ?_⟩
  obtain ⟨ys, ms, ds, ⟨four, two, two'⟩, rfl, same⟩ := spelled
  exact (ofStrictChars?_hyphenated four two two').trans (of?_eq_some_iff.mpr same)

/-- The digits that are read are those of a month that there is, and of a day of this month. -/
theorem exists_strict_iff {cs : List Char} :
    (∃ d, ofStrictChars? cs = some d) ↔
      ∃ ys ms ds : Digits, (ys.length = 4 ∧ ms.length = 2 ∧ ds.length = 2) ∧
        cs = hyphenated ys ms ds ∧ (1 ≤ ms.value ∧ ms.value ≤ 12) ∧
        1 ≤ ds.value ∧ ds.value ≤ daysInMonth ys.value ms.value := by
  constructor
  · intro ⟨d, strict⟩
    obtain ⟨ys, ms, ds, lengths, same, year, month, day⟩ := spelled_of_strict strict
    have exists_day := valid_iff.mp d.valid
    rw [year, month, day] at exists_day
    exact ⟨ys, ms, ds, lengths, same, exists_day⟩
  · intro ⟨ys, ms, ds, ⟨four, two, two'⟩, same, exists_day⟩
    rw [same, ofStrictChars?_hyphenated four two two']
    exact ⟨⟨ys.value, ms.value, ds.value, valid_iff.mpr exists_day⟩,
      of?_eq_some_iff.mpr ⟨rfl, rfl, rfl⟩⟩

/-! ## Writing -/

theorem Spelled.year_range {cs : List Char} {d : Date} (spelled : Spelled cs d) :
    0 ≤ d.year ∧ d.year ≤ 9999 := by
  obtain ⟨ys, _, _, ⟨four, _, _⟩, _, year, _⟩ := spelled
  have bound : ys.value < 10 ^ 4 := four ▸ ys.value_lt
  omega

/-- A day whose year has four digits is written as it is spelled. -/
theorem spelled_chars {d : Date} (years : 0 ≤ d.year ∧ d.year ≤ 9999) : Spelled d.chars d := by
  have range := d.month_day_range
  have year : ((d.year.toNat : Nat) : Int) = d.year := Int.toNat_of_nonneg years.1
  refine ⟨Digits.filled 4 d.year.toNat, Digits.filled 2 d.month, Digits.filled 2 d.day,
    ⟨?_, ?_, ?_⟩, ?_, ?_⟩
  · exact Digits.length_filled (by decide) (by omega)
  · exact Digits.length_filled (by decide) (by omega)
  · exact Digits.length_filled (by decide) (by omega)
  · rw [chars, yearChars, if_pos years]
    simp only [Digits.padded_eq_chars]
  · rw [Digits.value_filled, Digits.value_filled, Digits.value_filled, year]
    exact ⟨rfl, rfl, rfl⟩

/-! ## The order of texts -/

/-- Where texts of one length differ, they decide whatever comes after them. -/
theorem append_lt_append_iff {as bs cs ds : List Char} (same : as.length = bs.length) :
    as ++ cs < bs ++ ds ↔ as < bs ∨ as = bs ∧ cs < ds := by
  induction as generalizing bs with
  | nil =>
    obtain rfl := List.eq_nil_of_length_eq_zero same.symm
    simp
  | cons a as ih =>
    cases bs with
    | nil => cases same
    | cons b bs =>
      rw [List.cons_append, List.cons_append, List.cons_lt_cons_iff, List.cons_lt_cons_iff,
        ih (Nat.succ.inj same), List.cons_eq_cons]
      constructor
      · intro smaller
        rcases smaller with first | ⟨equal, rest | ⟨equal', after⟩⟩
        · exact .inl (.inl first)
        · exact .inl (.inr ⟨equal, rest⟩)
        · exact .inr ⟨⟨equal, equal'⟩, after⟩
      · intro smaller
        rcases smaller with (first | ⟨equal, rest⟩) | ⟨⟨equal, equal'⟩, after⟩
        · exact .inl first
        · exact .inr ⟨equal, .inl rest⟩
        · exact .inr ⟨equal, .inr ⟨equal', after⟩⟩

/-- Digits of one length decide as the numbers that they write do. -/
theorem chars_append_lt_iff {ds es : Digits} (same : ds.length = es.length) (cs cs' : List Char) :
    ds.chars ++ '-' :: cs < es.chars ++ '-' :: cs' ↔
      ds.value < es.value ∨ ds.value = es.value ∧ cs < cs' := by
  have lengths : ds.chars.length = es.chars.length := by
    rw [Digits.length_chars, Digits.length_chars, same]
  rw [append_lt_append_iff lengths, Digits.chars_lt_iff same, Digits.chars_eq_iff same,
    List.cons_lt_cons_iff]
  -- the hyphens are at the same place, so what follows them decides
  simp

/-- Texts are in the order of their days. -/
theorem Spelled.lt_iff {cs cs' : List Char} {d e : Date} (spelled : Spelled cs d)
    (spelled' : Spelled cs' e) : cs < cs' ↔ d.before e = true := by
  obtain ⟨ys, ms, ds, ⟨four, two, two'⟩, rfl, year, month, day⟩ := spelled
  obtain ⟨ys', ms', ds', ⟨four', two'', two'''⟩, rfl, year', month', day'⟩ := spelled'
  rw [chars_append_lt_iff (four.trans four'.symm), chars_append_lt_iff (two.trans two''.symm),
    Digits.chars_lt_iff (two'.trans two'''.symm), before_iff, year, year', month, month', day, day',
    Int.ofNat_lt, Int.ofNat_inj]

end Date

/-! ## Texts and days -/

/-- A text is read strictly as a day exactly if the day's year is from zero to 9999 and the text
    spells it; the texts that are read are those of digits that make up a day of the calendar. Shown,
    the day is this text again, so that different texts give different days. Every day of these years
    is read, and the order of texts is the order in which days are compared and come one after
    another. -/
theorem strict_texts_one_to_one :
    (∀ (t : String) (d : Date),
      Date.ofStrict? t = some d ↔ (0 ≤ d.year ∧ d.year ≤ 9999) ∧ Date.Spelled t.toList d) ∧
    (∀ t : String, (∃ d, Date.ofStrict? t = some d) ↔
      ∃ ys ms ds : Digits, (ys.length = 4 ∧ ms.length = 2 ∧ ds.length = 2) ∧
        t.toList = Date.hyphenated ys ms ds ∧ (1 ≤ ms.value ∧ ms.value ≤ 12) ∧
        1 ≤ ds.value ∧ ds.value ≤ daysInMonth ys.value ms.value) ∧
    (∀ (t : String) (d : Date), Date.ofStrict? t = some d → (Value.date d).shown = t) ∧
    (∀ (t t' : String) (d d' : Date), Date.ofStrict? t = some d → Date.ofStrict? t' = some d' →
      (t = t' ↔ d = d') ∧ (t < t' ↔ d.before d' = true) ∧ (t < t' ↔ d.Precedes d')) ∧
    ∀ d : Date, 0 ≤ d.year → d.year ≤ 9999 → Date.ofStrict? (Value.date d).shown = some d := by
  refine ⟨fun t d => ?_, fun t => Date.exists_strict_iff, fun t d strict => text_of_strict strict,
    fun t t' d d' strict strict' => ?_, fun d least greatest => ?_⟩
  · rw [Date.ofStrict?, Date.ofStrictChars?_eq_some_iff]
    exact ⟨fun spelled => ⟨spelled.year_range, spelled⟩, And.right⟩
  · have order : t < t' ↔ d.before d' = true := by
      rw [String.lt_iff]
      exact (Date.spelled_of_strict strict).lt_iff (Date.spelled_of_strict strict')
    refine ⟨⟨?_, ?_⟩, order, order.trans Date.before_iff_precedes⟩
    · intro same
      rw [same] at strict
      exact Option.some.inj (strict.symm.trans strict')
    · intro same
      rw [← text_of_strict strict, ← text_of_strict strict', same]
  · rw [Date.ofStrict?, Value.shown, Date.text, String.toList_ofList,
      Date.ofStrictChars?_eq_some_iff]
    exact Date.spelled_chars ⟨least, greatest⟩

/-- The year zero has a 29th of February, and so the text of this day is read. The year 1900, many
    days later, has none. -/
theorem strict_texts_one_to_one_leapDay :
    Date.ofStrict? "0000-02-29" = some ⟨0, 2, 29, by decide⟩ ∧
      (Value.date ⟨0, 2, 29, by decide⟩).shown = "0000-02-29" ∧
      (Date.mk 0 2 29 (by decide)).Precedes ⟨1900, 2, 28, by decide⟩ ∧
      Date.ofStrict? "1900-02-29" = none := by
  have leapDay : Date.ofStrict? "0000-02-29" = some ⟨0, 2, 29, by decide⟩ := by cbv
  have later : Date.ofStrict? "1900-02-28" = some ⟨1900, 2, 28, by decide⟩ := by cbv
  obtain ⟨_, _, shown, order, _⟩ := strict_texts_one_to_one
  exact ⟨leapDay, shown _ _ leapDay, (order _ _ _ _ leapDay later).2.2.mp (by decide), by cbv⟩

end RecordRules
