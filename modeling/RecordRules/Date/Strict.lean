/-
  Days in ten characters: four digits, two and two, with hyphens between them.
-/
import RecordRules.Date

namespace RecordRules.Date

/-- The day that ten characters write. -/
def ofStrictChars? : List Char → Option Date
  | [y₁, y₂, y₃, y₄, '-', m₁, m₂, '-', d₁, d₂] => do
    let year ← Digits.natOf? [y₁, y₂, y₃, y₄]
    let month ← Digits.natOf? [m₁, m₂]
    let day ← Digits.natOf? [d₁, d₂]
    of? year month day
  | _ => none

/-- The day that a text writes strictly. -/
def ofStrict? (s : String) : Option Date := ofStrictChars? s.toList

example : ofStrictChars? ['2', '0', '2', '5', '-', '0', '2', '-', '2', '9'] = none := by decide

end RecordRules.Date
