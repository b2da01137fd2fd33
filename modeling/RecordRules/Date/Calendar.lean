/-
  Calendars of public holidays: finite sets of days.
-/
import RecordRules.Date

namespace RecordRules

/-- A set of holidays. -/
structure Calendar where
  days : List Date
  distinct : days.Nodup

namespace Calendar

/-- A calendar with one more day. -/
def insert (c : Calendar) (d : Date) : Calendar :=
  if h : d ∈ c.days then c
  else ⟨c.days ++ [d], by
    rw [List.nodup_append]
    refine ⟨c.distinct, by simp, ?_⟩
    rintro a ha b hb rfl
    simp only [List.mem_singleton] at hb
    exact h (hb ▸ ha)⟩

/-- The calendar of some days, each of which counts once. -/
def ofDays (days : List Date) : Calendar := days.foldl insert ⟨[], by simp⟩

/-- Whether a day is a holiday. -/
def isHoliday (c : Calendar) (d : Date) : Bool := c.days.contains d

/-- How many holidays there are. -/
def size (c : Calendar) : Nat := c.days.length

/-- The federal holidays of the United States in 2025, as observed. Other years have none. -/
def builtIn : Calendar :=
  ofDays ([(1, 1), (1, 20), (2, 17), (5, 26), (6, 19), (7, 4), (9, 1), (10, 13), (11, 11), (11, 27),
    (12, 25)].filterMap fun (month, day) => Date.of? 2025 month day)

example : builtIn.size = 11 := by decide

end Calendar

end RecordRules
