/-
  Days in loose writing. A day of the calendar's years is written in a way that is read loosely as
  the same day, whether its year has a sign or not, and no other days are read.

  1. `number?_chars`: digits are read up to a width.
  2. `year?_yearChars`, `part?_chars`: years, months and days are read back.
  3. `ofLooseChars_chars`: a day of the calendar's years is read back.
  4. `inCalendar_of_ofLooseChars`: every day that is read is of these years.
-/
import RecordRules.Date.Loose
import RecordRules.Proofs.Digits
import RecordRules.Proofs.FirstError

namespace RecordRules.Date

/-- The day is of the years of the calendar. -/
def InCalendar (d : Date) : Prop := firstYear ≤ d.year ∧ d.year ≤ lastYear

theorem of?_eq_some_iff {year : Int} {month day : Nat} {d : Date} :
    of? year month day = some d ↔ d.year = year ∧ d.month = month ∧ d.day = day := by
  constructor
  · intro found
    unfold of? at found
    split at found
    · cases found
      exact ⟨rfl, rfl, rfl⟩
    · cases found
  · rintro ⟨rfl, rfl, rfl⟩
    rw [of?, dif_pos d.valid]

theorem daysInMonth_le (year : Int) (month : Nat) : daysInMonth year month ≤ 31 := by
  unfold daysInMonth
  split
  · split <;> omega
  · split <;> omega

/-- The numbers of a month and of a day. -/
theorem month_day_range (d : Date) : (1 ≤ d.month ∧ d.month ≤ 12) ∧ 1 ≤ d.day ∧ d.day ≤ 31 := by
  have valid := d.valid
  simp only [isDay, Bool.and_eq_true, decide_eq_true_eq] at valid
  have bound := daysInMonth_le d.year d.month
  omega

/-! ## Digits and hyphens -/

section

variable {ds : Digits} {rest : List Char}

theorem trimLeft_chars (nonempty : ds ≠ []) (rest : List Char) :
    Text.trimLeft (ds.chars ++ rest) = ds.chars ++ rest := by
  cases ds with
  | nil => exact absurd rfl nonempty
  | cons d ds => exact Text.trimLeft_cons d.isBlank_char _

theorem number?_chars {width : Option Nat} (nonempty : ds ≠ [])
    (fits : ∀ w ∈ width, ds.length ≤ w) (stop : ∀ c ∈ rest.head?, Digit.ofChar? c = none) :
    number? width (ds.chars ++ rest) = .ok (ds.value, rest) := by
  obtain ⟨d, ds, rfl⟩ := List.exists_cons_of_ne_nil nonempty
  have left : (Digits.chars (d :: ds) ++ rest).drop (d :: ds).length = rest := by
    rw [← Digits.length_chars, List.drop_left]
  unfold number?
  simp only [Digits.span_chars_append (d :: ds) stop]
  cases width with
  | none => simp only [left]
  | some w => simp only [List.take_of_length_le (fits w rfl), left]

/-- A year of the calendar fits 32 bits. -/
theorem year_fits {year : Int} (inCalendar : firstYear ≤ year ∧ year ≤ lastYear) :
    (if -0x80000000 ≤ year ∧ year < 0x80000000 then pure (year, rest)
      else throw Flaw.outOfRange : Except Flaw (Int × List Char)) = .ok (year, rest) := by
  unfold firstYear lastYear at inCalendar
  exact if_pos (by omega)

theorem year?_of_digits (nonempty : ds ≠ []) (four : ds.length ≤ 4)
    (inCalendar : firstYear ≤ (ds.value : Int) ∧ (ds.value : Int) ≤ lastYear)
    (stop : ∀ c ∈ rest.head?, Digit.ofChar? c = none) :
    year? (ds.chars ++ rest) = .ok ((ds.value : Int), rest) := by
  have read : (number? (some 4) (ds.chars ++ rest)).map (fun read => ((read.1 : Int), read.2)) =
      .ok ((ds.value : Int), rest) := by
    rw [number?_chars nonempty (by simpa using four) stop]
    rfl
  unfold year?
  rw [trimLeft_chars nonempty]
  -- a digit is no sign
  split
  · next signed =>
    obtain ⟨y, more, rfl⟩ := List.exists_cons_of_ne_nil nonempty
    exact absurd (List.cons.inj signed).1 y.char_ne_sign.1
  · next signed =>
    obtain ⟨y, more, rfl⟩ := List.exists_cons_of_ne_nil nonempty
    exact absurd (List.cons.inj signed).1 y.char_ne_sign.2
  · exact bind_eq_ok_iff.mpr ⟨_, read, year_fits inCalendar⟩

theorem year?_of_minus (nonempty : ds ≠ [])
    (inCalendar : firstYear ≤ -(ds.value : Int) ∧ -(ds.value : Int) ≤ lastYear)
    (stop : ∀ c ∈ rest.head?, Digit.ofChar? c = none) :
    year? ('-' :: (ds.chars ++ rest)) = .ok (-(ds.value : Int), rest) := by
  have read : (number? none (ds.chars ++ rest)).map (fun read => (-(read.1 : Int), read.2)) =
      .ok (-(ds.value : Int), rest) := by
    rw [number?_chars nonempty (by simp) stop]
    rfl
  rw [year?, Text.trimLeft_cons (by decide)]
  exact bind_eq_ok_iff.mpr ⟨_, read, year_fits inCalendar⟩

theorem year?_of_plus (nonempty : ds ≠ [])
    (inCalendar : firstYear ≤ (ds.value : Int) ∧ (ds.value : Int) ≤ lastYear)
    (stop : ∀ c ∈ rest.head?, Digit.ofChar? c = none) :
    year? ('+' :: (ds.chars ++ rest)) = .ok ((ds.value : Int), rest) := by
  have read : (number? none (ds.chars ++ rest)).map (fun read => ((read.1 : Int), read.2)) =
      .ok ((ds.value : Int), rest) := by
    rw [number?_chars nonempty (by simp) stop]
    rfl
  rw [year?, Text.trimLeft_cons (by decide)]
  exact bind_eq_ok_iff.mpr ⟨_, read, year_fits inCalendar⟩

/-- A year is read back, with or without a sign. -/
theorem year?_yearChars {year : Int} (inCalendar : firstYear ≤ year ∧ year ≤ lastYear)
    (stop : ∀ c ∈ rest.head?, Digit.ofChar? c = none) :
    year? (yearChars year ++ rest) = .ok (year, rest) := by
  have nonempty (n : Nat) : Digits.filled 4 n ≠ [] := Digits.filled_ne_nil 4 n
  unfold yearChars
  split
  · next short =>
    obtain ⟨n, rfl⟩ := Int.eq_ofNat_of_zero_le short.1
    have four : (Digits.filled 4 n).length = 4 := Digits.length_filled (by decide) (by omega)
    have read := year?_of_digits (nonempty n) (Nat.le_of_eq four)
      (by rwa [Digits.value_filled]) stop
    rwa [Digits.value_filled, ← Digits.padded_eq_chars] at read
  · next long =>
    rw [Digits.padded_eq_chars, List.cons_append]
    split
    · next negative =>
      have same : -((Digits.filled 4 year.natAbs).value : Int) = year := by
        rw [Digits.value_filled]
        omega
      have read := year?_of_minus (nonempty year.natAbs) (by rwa [same]) stop
      rwa [same] at read
    · next positive =>
      have same : ((Digits.filled 4 year.natAbs).value : Int) = year := by
        rw [Digits.value_filled]
        omega
      have read := year?_of_plus (nonempty year.natAbs) (by rwa [same]) stop
      rwa [same] at read

/-- A month or a day is read back. -/
theorem part?_padded {greatest n : Nat} (small : n < 100) (range : 1 ≤ n ∧ n ≤ greatest)
    (stop : ∀ c ∈ rest.head?, Digit.ofChar? c = none) :
    part? greatest (Digits.padded 2 n ++ rest) = .ok (n, rest) := by
  have nonempty : Digits.filled 2 n ≠ [] := Digits.filled_ne_nil 2 n
  have two : (Digits.filled 2 n).length = 2 := Digits.length_filled (by decide) small
  rw [part?, Digits.padded_eq_chars, trimLeft_chars nonempty,
    number?_chars nonempty (by simp [two]) stop, Digits.value_filled]
  simp only [bind, Except.bind]
  rw [if_pos range]
  rfl

theorem hyphen?_cons (rest : List Char) : hyphen? ('-' :: rest) = .ok rest := by
  rw [hyphen?, Text.trimLeft_cons (by decide)]
  rfl

end

/-! ## Days -/

/-- A day of the calendar's years is read back. -/
theorem ofLooseChars_chars {d : Date} (inCalendar : d.InCalendar) :
    ofLooseChars d.chars = .ok d := by
  obtain ⟨monthRange, dayRange⟩ := d.month_day_range
  have hyphen : ∀ rest, ∀ c ∈ ('-' :: rest).head?, Digit.ofChar? c = none := by
    intro rest c there
    cases there
    decide
  have year := year?_yearChars inCalendar
    (hyphen (Digits.padded 2 d.month ++ '-' :: Digits.padded 2 d.day))
  have month := part?_padded (by omega) monthRange (hyphen (Digits.padded 2 d.day))
  have day : part? 31 (Digits.padded 2 d.day) = .ok (d.day, []) := by
    have alone : part? 31 (Digits.padded 2 d.day ++ []) = .ok (d.day, []) :=
      part?_padded (by omega) dayRange nofun
    rwa [List.append_nil] at alone
  have inRange : ¬ (d.year < firstYear ∨ lastYear < d.year) := by
    unfold InCalendar at inCalendar
    omega
  have found : of? d.year d.month d.day = some d := of?_eq_some_iff.mpr ⟨rfl, rfl, rfl⟩
  unfold ofLooseChars chars
  simp only [year, bind, Except.bind, hyphen?_cons, month, day]
  rw [if_neg (by decide), if_neg inRange, found]
  rfl

theorem ofLoose_text {d : Date} (inCalendar : d.InCalendar) : ofLoose d.text = .ok d := by
  rw [ofLoose, text, String.toList_ofList, mapError_eq_ok_iff]
  exact ofLooseChars_chars inCalendar

/-- Every day that is read is of the calendar's years. -/
theorem inCalendar_of_ofLooseChars {cs : List Char} {d : Date} (read : ofLooseChars cs = .ok d) :
    d.InCalendar := by
  unfold ofLooseChars at read
  obtain ⟨⟨year, _⟩, _, read⟩ := bind_eq_ok_iff.mp read
  obtain ⟨_, _, read⟩ := bind_eq_ok_iff.mp read
  obtain ⟨⟨month, _⟩, _, read⟩ := bind_eq_ok_iff.mp read
  obtain ⟨_, _, read⟩ := bind_eq_ok_iff.mp read
  obtain ⟨⟨day, _⟩, _, read⟩ := bind_eq_ok_iff.mp read
  dsimp only at read
  split at read
  · cases read
  split at read
  · cases read
  · next inRange =>
    split at read
    · next found =>
      cases read
      obtain ⟨rfl, _, _⟩ := of?_eq_some_iff.mp found
      rw [not_or, Int.not_lt, Int.not_lt] at inRange
      exact inRange
    · cases read

theorem inCalendar_of_ofLoose {s : String} {d : Date} (read : ofLoose s = .ok d) : d.InCalendar :=
  inCalendar_of_ofLooseChars (mapError_eq_ok_iff.mp read)

end RecordRules.Date
