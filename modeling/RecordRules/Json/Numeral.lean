/-
  Numbers as JSON texts write them, with every digit kept.
-/
import RecordRules.Digits

namespace RecordRules

/-- The sign and the digits of a power of ten. -/
structure Exponent where
  negative : Bool
  digits : Digits
deriving DecidableEq, Repr

/-- The spelling of a number: `-12.50e+3` has the whole part `12`, the fraction `50` and the
    exponent `+3`. -/
structure Numeral where
  negative : Bool
  whole : Digits
  fraction : Option Digits := none
  exponent : Option Exponent := none
deriving DecidableEq, Repr

namespace Numeral

/-- The characters of an exponent: a small `e`, a sign and the digits. -/
def exponentChars (e : Exponent) : List Char :=
  'e' :: (if e.negative then '-' else '+') :: e.digits.chars

/-- The characters of a number. -/
def chars (n : Numeral) : List Char :=
  (if n.negative then ['-'] else []) ++ n.whole.chars ++
    (match n.fraction with
      | some ds => '.' :: ds.chars
      | none => []) ++
    (match n.exponent with
      | some e => exponentChars e
      | none => [])

/-- The text of a number. -/
def text (n : Numeral) : String := String.ofList n.chars

/-- The digits after the point. -/
def decimals (n : Numeral) : Digits := n.fraction.getD []

/-- The digits before and after the point. -/
def mantissaDigits (n : Numeral) : Digits := n.whole ++ n.decimals

/-- The numeral of a natural number. -/
def ofNat (n : Nat) : Numeral := ⟨false, Digits.ofNat n, none, none⟩

/-- The natural number that is written without sign, fraction and exponent. -/
def nat? (n : Numeral) : Option Nat :=
  if n.negative || n.fraction.isSome || n.exponent.isSome then none else some n.whole.value

end Numeral

example : (Numeral.mk true [1, 2] (some [5, 0]) (some ⟨false, [3]⟩)).chars =
    ['-', '1', '2', '.', '5', '0', 'e', '+', '3'] := by decide

end RecordRules
