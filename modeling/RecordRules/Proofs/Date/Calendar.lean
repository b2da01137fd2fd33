/-
  The days of the calendar in a row. After every day comes a next one: the next of its month, or the
  first of the next month, or the first of the next year. The first day of the first year is a Monday,
  and the days of the week go round with the days. Both the order of days, which compares their
  numbers, and the day of the week, which is computed from a count of days, agree with this row, over
  all months, leap years and centuries, and before the first year as well.

  1. `number_next`: the count of days goes up by one from a day to the next.
  2. `before_iff_number_lt`: days are in the order of their count.
  3. `before_iff_precedes`: a day is before another if the other comes some days after it.
  4. `weekday_eq_iff`: on which day of the week a day falls.
-/
import RecordRules.Date
import RecordRules.Proofs.Date.Loose

namespace RecordRules

/-- The days of the week. -/
inductive Weekday
  | monday
  | tuesday
  | wednesday
  | thursday
  | friday
  | saturday
  | sunday
deriving DecidableEq

namespace Weekday

/-- The day of the week after a day of the week. -/
def next : Weekday → Weekday
  | monday => tuesday
  | tuesday => wednesday
  | wednesday => thursday
  | thursday => friday
  | friday => saturday
  | saturday => sunday
  | sunday => monday

/-- The place of a day in the week, from zero on. -/
def index : Weekday → Nat
  | monday => 0
  | tuesday => 1
  | wednesday => 2
  | thursday => 3
  | friday => 4
  | saturday => 5
  | sunday => 6

theorem index_next (w : Weekday) : w.next.index = (w.index + 1) % 7 := by
  cases w <;> rfl

theorem index_lt (w : Weekday) : w.index < 7 := by
  cases w <;> decide

theorem index_inj {v w : Weekday} : v.index = w.index ↔ v = w := by
  constructor
  · intro same
    cases v <;> cases w <;> first | rfl | cases same
  · rintro rfl
    rfl

theorem exists_next (w : Weekday) : ∃ v : Weekday, v.next = w := by
  cases w
  exacts [⟨sunday, rfl⟩, ⟨monday, rfl⟩, ⟨tuesday, rfl⟩, ⟨wednesday, rfl⟩, ⟨thursday, rfl⟩,
    ⟨friday, rfl⟩, ⟨saturday, rfl⟩]

end Weekday

/-! ## Months and years -/

theorem one_le_daysInMonth (year : Int) (month : Nat) : 1 ≤ daysInMonth year month := by
  unfold daysInMonth
  split
  · split <;> decide
  · split <;> decide

/-- The number of days of a year. -/
def daysInYear (year : Int) : Nat := if isLeapYear year then 366 else 365

namespace Date

theorem daysBeforeMonth_succ (year : Int) {month : Nat} (positive : 1 ≤ month) :
    daysBeforeMonth year (month + 1) = daysBeforeMonth year month + daysInMonth year month := by
  obtain ⟨m, rfl⟩ := Nat.exists_eq_add_of_le' positive
  simp only [daysBeforeMonth, Nat.add_sub_cancel, List.range_succ, List.foldl_append,
    List.foldl_cons, List.foldl_nil]

/-- A month is over before a later one begins. -/
theorem daysBeforeMonth_le (year : Int) {month later : Nat} (positive : 1 ≤ month)
    (less : month < later) :
    daysBeforeMonth year month + daysInMonth year month ≤ daysBeforeMonth year later := by
  induction later, less using Nat.le_induction with
  | base => rw [daysBeforeMonth_succ year positive]
  | succ later less ih =>
    rw [daysBeforeMonth_succ year (positive.trans (Nat.le_of_lt less))]
    omega

theorem daysBeforeMonth_thirteen (year : Int) : daysBeforeMonth year 13 = daysInYear year := by
  cases leap : isLeapYear year <;>
    simp [daysBeforeMonth, List.range_succ, daysInMonth, daysInYear, leap]

/-- Days between the first day of the first year and the first day of a year, negative before it. -/
def daysBeforeYear (year : Int) : Int :=
  365 * (year - 1) + (year - 1) / 4 - (year - 1) / 100 + (year - 1) / 400

theorem number_eq (d : Date) :
    d.number = daysBeforeYear d.year + (daysBeforeMonth d.year d.month + d.day - 1 : Nat) := rfl

theorem daysBeforeYear_succ (year : Int) :
    daysBeforeYear (year + 1) = daysBeforeYear year + daysInYear year := by
  unfold daysBeforeYear daysInYear isLeapYear
  simp only [Bool.and_eq_true, Bool.or_eq_true, beq_iff_eq, bne_iff_ne]
  split <;> omega

/-- A year is over before a later one begins. -/
theorem daysBeforeYear_le {year later : Int} (less : year < later) :
    daysBeforeYear year + daysInYear year ≤ daysBeforeYear later := by
  rw [← daysBeforeYear_succ]
  unfold daysBeforeYear
  omega

/-! ## The next day -/

theorem valid_iff {year : Int} {month day : Nat} :
    isDay year month day = true ↔
      (1 ≤ month ∧ month ≤ 12) ∧ 1 ≤ day ∧ day ≤ daysInMonth year month := by
  simp [isDay, and_assoc]

theorem day_range (d : Date) : 1 ≤ d.day ∧ d.day ≤ daysInMonth d.year d.month :=
  (valid_iff.mp d.valid).2

/-- The day after a day: the next of its month, or the first of the next month, or the first of the
    next year. -/
def next (d : Date) : Date :=
  if more : d.day < daysInMonth d.year d.month then
    ⟨d.year, d.month, d.day + 1, valid_iff.mpr ⟨d.month_day_range.1, Nat.le_add_left .., more⟩⟩
  else if more : d.month < 12 then
    ⟨d.year, d.month + 1, 1,
      valid_iff.mpr ⟨⟨Nat.le_add_left .., more⟩, Nat.le_refl 1, one_le_daysInMonth ..⟩⟩
  else ⟨d.year + 1, 1, 1, rfl⟩

/-- The count of days goes up by one from a day to the next. -/
theorem number_next (d : Date) : d.next.number = d.number + 1 := by
  have days := d.day_range
  have months := d.month_day_range.1
  have step := daysBeforeMonth_succ d.year months.1
  unfold next
  split
  · next more =>
    rw [number_eq, number_eq]
    dsimp only
    omega
  · next last =>
    have day : d.day = daysInMonth d.year d.month := Nat.le_antisymm days.2 (Nat.not_lt.mp last)
    split
    · rw [number_eq, number_eq]
      dsimp only
      omega
    · next last =>
      have december : d.month = 12 := Nat.le_antisymm months.2 (Nat.not_lt.mp last)
      have first : daysBeforeMonth (d.year + 1) 1 = 0 := rfl
      rw [december] at step day
      rw [daysBeforeMonth_thirteen] at step
      rw [number_eq, number_eq]
      dsimp only
      rw [daysBeforeYear_succ, december, first]
      omega

/-! ## The order of days -/

theorem before_iff {d e : Date} :
    d.before e = true ↔ d.year < e.year ∨
      d.year = e.year ∧ (d.month < e.month ∨ d.month = e.month ∧ d.day < e.day) := by
  simp [before]

theorem number_lt_of_before {d e : Date} (earlier : d.before e = true) : d.number < e.number := by
  have days := d.day_range
  have days' := e.day_range
  rw [number_eq, number_eq]
  -- the rest of the year of `d`, or of its month, lies between the two days
  rcases before_iff.mp earlier with year | ⟨year, month | ⟨month, day⟩⟩
  · have elapsed := daysBeforeYear_le year
    have within := daysBeforeMonth_le d.year d.month_day_range.1.1
      (Nat.lt_succ_of_le d.month_day_range.1.2)
    rw [daysBeforeMonth_thirteen] at within
    omega
  · have elapsed := daysBeforeMonth_le d.year d.month_day_range.1.1 month
    rw [← year]
    omega
  · rw [← year, ← month]
    omega

theorem before_or_eq_or_before (d e : Date) :
    d.before e = true ∨ d = e ∨ e.before d = true := by
  obtain ⟨year, month, day, valid⟩ := d
  obtain ⟨year', month', day', valid'⟩ := e
  simp only [before_iff, mk.injEq]
  omega

/-- Days are in the order of their count. -/
theorem before_iff_number_lt {d e : Date} : d.before e = true ↔ d.number < e.number := by
  refine ⟨number_lt_of_before, fun less => ?_⟩
  rcases before_or_eq_or_before d e with earlier | rfl | later
  · exact earlier
  · exact absurd less (lt_irrefl _)
  · exact absurd less (number_lt_of_before later).not_gt

theorem number_inj {d e : Date} : d.number = e.number ↔ d = e := by
  refine ⟨fun same => ?_, congrArg number⟩
  rcases before_or_eq_or_before d e with earlier | equal | later
  · exact absurd same (number_lt_of_before earlier).ne
  · exact equal
  · exact absurd same (number_lt_of_before later).ne'

/-- `d.Precedes e`: the day `e` comes some days after the day `d`. -/
inductive Precedes (d : Date) : Date → Prop
  | next : Precedes d d.next
  | later {e : Date} : Precedes d e → Precedes d e.next

theorem exists_precedes (d : Date) (n : Nat) : ∃ e, Precedes d e ∧ e.number = d.number + n + 1 := by
  induction n with
  | zero => exact ⟨d.next, .next, by rw [number_next, Nat.cast_zero, add_zero]⟩
  | succ n ih =>
    obtain ⟨e, precedes, count⟩ := ih
    exact ⟨e.next, .later precedes, by rw [number_next, count, Nat.cast_succ, add_assoc d.number]⟩

/-- A day is before another if the other comes some days after it. -/
theorem before_iff_precedes {d e : Date} : d.before e = true ↔ d.Precedes e := by
  rw [before_iff_number_lt]
  constructor
  · intro less
    obtain ⟨e', precedes, count⟩ := exists_precedes d (e.number - d.number - 1).toNat
    -- the day that comes as many days later as the count says has the count of `e`
    have same : e'.number = e.number := by omega
    rwa [number_inj.mp same] at precedes
  · intro precedes
    induction precedes with
    | next => rw [number_next]; omega
    | later _ ih => rw [number_next]; omega

/-! ## Days of the week -/

/-- `d.FallsOn w`: the day `d` falls on the day of the week `w`. The first day of the first year is a
    Monday, and from day to day the day of the week is the next one, forwards and backwards. -/
inductive FallsOn : Date → Weekday → Prop
  | first : FallsOn first .monday
  | next {d : Date} {w : Weekday} : FallsOn d w → FallsOn d.next w.next
  | previous {d : Date} {w : Weekday} : FallsOn d.next w.next → FallsOn d w

theorem weekday_next (d : Date) : d.next.weekday = (d.weekday + 1) % 7 := by
  rw [weekday, weekday, number_next]
  omega

theorem weekday_lt (d : Date) : d.weekday < 7 := by
  rw [weekday]
  omega

theorem weekday_of_fallsOn {d : Date} {w : Weekday} (falls : d.FallsOn w) :
    d.weekday = w.index := by
  induction falls with
  | first => decide
  | next _ ih => rw [weekday_next, ih, Weekday.index_next]
  | @previous d w _ ih =>
    have bound := d.weekday_lt
    have bound' := w.index_lt
    rw [weekday_next, Weekday.index_next] at ih
    omega

/-- Every day falls on a day of the week: it comes after the first day, or the first day after it. -/
theorem exists_fallsOn (d : Date) : ∃ w, d.FallsOn w := by
  have after {e : Date} (precedes : Date.first.Precedes e) : ∃ w, e.FallsOn w := by
    induction precedes with
    | next => exact ⟨_, .next .first⟩
    | later _ ih =>
      obtain ⟨w, falls⟩ := ih
      exact ⟨_, .next falls⟩
  -- from the first day backwards, the day of the week before is known from the one after it
  have back {d e : Date} (precedes : d.Precedes e) : (∃ w, e.FallsOn w) → ∃ w, d.FallsOn w := by
    have step {d : Date} : (∃ w, d.next.FallsOn w) → ∃ w, d.FallsOn w := by
      rintro ⟨w, falls⟩
      obtain ⟨v, rfl⟩ := w.exists_next
      exact ⟨v, .previous falls⟩
    induction precedes with
    | next => exact step
    | later _ ih => exact fun falls => ih (step falls)
  rcases before_or_eq_or_before d .first with earlier | rfl | later
  · exact back (before_iff_precedes.mp earlier) ⟨_, .first⟩
  · exact ⟨_, .first⟩
  · exact after (before_iff_precedes.mp later)

/-- The day of the week that is computed is the one on which a day falls. -/
theorem weekday_eq_iff {d : Date} {w : Weekday} : d.weekday = w.index ↔ d.FallsOn w := by
  refine ⟨fun same => ?_, weekday_of_fallsOn⟩
  obtain ⟨v, falls⟩ := d.exists_fallsOn
  rwa [← Weekday.index_inj.mp ((weekday_of_fallsOn falls).symm.trans same)]

/-- A day falls on a Saturday or a Sunday. -/
def OnWeekend (d : Date) : Prop := d.FallsOn .saturday ∨ d.FallsOn .sunday

theorem isWeekend_iff {d : Date} : d.isWeekend = true ↔ d.OnWeekend := by
  rw [isWeekend, Bool.or_eq_true, beq_iff_eq, beq_iff_eq]
  exact or_congr (weekday_eq_iff (w := .saturday)) (weekday_eq_iff (w := .sunday))

end Date

end RecordRules
