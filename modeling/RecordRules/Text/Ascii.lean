/-
  Text compared without the case of ASCII letters.
-/

namespace RecordRules.Text

/-- A text with its ASCII capitals lowered. -/
def lower (s : String) : String := String.ofList (s.toList.map Char.toLower)

/-- Whether two texts differ at most in the case of ASCII letters. -/
def sameLetters (s t : String) : Bool := lower s == lower t

example : sameLetters "tODay" "today" = true := by decide
example : sameLetters "É" "é" = false := by decide

end RecordRules.Text
