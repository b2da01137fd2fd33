/-
  White space as Unicode has it, and text without it at the ends.
-/

namespace RecordRules.Text

/-- White space characters. -/
def isBlank (c : Char) : Bool :=
  let n := c.toNat
  (9 ≤ n && n ≤ 13) || n == 0x20 || n == 0x85 || n == 0xA0 || n == 0x1680 ||
    (0x2000 ≤ n && n ≤ 0x200A) || n == 0x2028 || n == 0x2029 || n == 0x202F || n == 0x205F ||
    n == 0x3000

/-- Characters without the white space before them. -/
def trimLeft (cs : List Char) : List Char := cs.dropWhile isBlank

/-- Characters without the white space around them. -/
def trimChars (cs : List Char) : List Char := (trimLeft (trimLeft cs).reverse).reverse

/-- A text without the white space around it. -/
def trim (s : String) : String := String.ofList (trimChars s.toList)

/-- Whether a text has white space only. -/
def isBlankText (s : String) : Bool := s.toList.all isBlank

theorem trimLeft_cons {c : Char} (plain : isBlank c = false) (cs : List Char) :
    trimLeft (c :: cs) = c :: cs := by
  rw [trimLeft, List.dropWhile_cons, plain]
  rfl

/-- Without white space nothing is trimmed. -/
theorem trimChars_eq_self {cs : List Char} (plain : ∀ c ∈ cs, isBlank c = false) :
    trimChars cs = cs := by
  have trimLeft_eq_self {cs : List Char} (plain : ∀ c ∈ cs, isBlank c = false) :
      trimLeft cs = cs := by
    cases cs with
    | nil => rfl
    | cons c cs => exact trimLeft_cons (plain c (List.mem_cons_self ..)) cs
  have reversed : ∀ c ∈ cs.reverse, isBlank c = false := fun c there =>
    plain c (List.mem_reverse.mp there)
  rw [trimChars, trimLeft_eq_self plain, trimLeft_eq_self reversed, List.reverse_reverse]

theorem trimLeft_of_blank {cs : List Char} (blank : cs.all isBlank = true) : trimLeft cs = [] := by
  induction cs with
  | nil => rfl
  | cons c cs ih =>
    rw [List.all_cons, Bool.and_eq_true] at blank
    rw [trimLeft, List.dropWhile_cons, if_pos blank.1]
    exact ih blank.2

/-- Of white space nothing is left. -/
theorem trimChars_of_blank {s : String} (blank : isBlankText s = true) :
    trimChars s.toList = [] := by
  rw [trimChars, trimLeft_of_blank blank]
  rfl

end RecordRules.Text
