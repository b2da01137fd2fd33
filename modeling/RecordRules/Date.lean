/-
  Days of the Gregorian calendar, also before its introduction and in years before the first.
-/
import RecordRules.Digits

namespace RecordRules

/-- Whether a year has a 29th of February. -/
def isLeapYear (year : Int) : Bool := year % 4 == 0 && (year % 100 != 0 || year % 400 == 0)

/-- The number of days of a month. -/
def daysInMonth (year : Int) (month : Nat) : Nat :=
  if month = 2 then (if isLeapYear year then 29 else 28)
  else if month = 4 ∨ month = 6 ∨ month = 9 ∨ month = 11 then 30
  else 31

/-- Whether a year has a month and the month a day of these numbers. -/
def isDay (year : Int) (month day : Nat) : Bool :=
  1 ≤ month && month ≤ 12 && 1 ≤ day && day ≤ daysInMonth year month

/-- A day. -/
structure Date where
  year : Int
  month : Nat
  day : Nat
  valid : isDay year month day = true
deriving DecidableEq

namespace Date

/-- The day of these numbers, if there is one. -/
def of? (year : Int) (month day : Nat) : Option Date :=
  if h : isDay year month day = true then some ⟨year, month, day, h⟩ else none

/-- The first day of the first year. -/
def first : Date := ⟨1, 1, 1, by decide⟩

instance : Inhabited Date := ⟨first⟩

/-- Whether a day comes before another: by year, then by month, then by day. -/
def before (d e : Date) : Bool :=
  d.year < e.year ||
    (d.year == e.year && (d.month < e.month || (d.month == e.month && d.day < e.day)))

/-- Days of a year before a month. -/
def daysBeforeMonth (year : Int) (month : Nat) : Nat :=
  (List.range (month - 1)).foldl (fun days m => days + daysInMonth year (m + 1)) 0

/-- Days between the first day of the first year and a day, negative before it. -/
def number (d : Date) : Int :=
  let years := d.year - 1
  365 * years + years / 4 - years / 100 + years / 400 +
    (daysBeforeMonth d.year d.month + d.day - 1 : Nat)

/-- The day of the week, from zero for Monday on. -/
def weekday (d : Date) : Nat := (d.number % 7).toNat

/-- Whether a day is a Saturday or a Sunday. -/
def isWeekend (d : Date) : Bool := d.weekday == 5 || d.weekday == 6

/-- The characters of a year: four digits, or a sign and at least four digits. -/
def yearChars (year : Int) : List Char :=
  if 0 ≤ year ∧ year ≤ 9999 then Digits.padded 4 year.toNat
  else (if year < 0 then '-' else '+') :: Digits.padded 4 year.natAbs

/-- The characters of a day: year, month and day with hyphens between them. -/
def chars (d : Date) : List Char :=
  yearChars d.year ++ '-' :: (Digits.padded 2 d.month ++ '-' :: Digits.padded 2 d.day)

/-- The text of a day. -/
def text (d : Date) : String := String.ofList d.chars

instance : Repr Date := ⟨fun d _ => d.text⟩

example : (Date.mk 2024 2 29 (by decide)).weekday = 3 := by decide
example : (Date.mk 0 12 31 (by decide)).weekday = 6 := by decide

end Date

end RecordRules
