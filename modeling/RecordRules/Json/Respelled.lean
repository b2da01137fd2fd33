/-
  Numbers of JSON values that are taken as JSON values once more. A number that fits no machine word
  passes through a double on the way, if it is written with the digits of this double, and it comes back
  as the double is written: very great and very small numbers with a power of ten. If two numbers with
  the same digits but for the last one are as near to the double, the number came with the greater one
  and comes back with the even one. All other numbers come back as they are, but for a zero with a sign.
-/
import RecordRules.Json.Value

namespace RecordRules

/-! ## Doubles -/

namespace Double

/- Positive numbers are given in equal parts, of which the smallest double has `least`. -/

/-- The power of two that the smallest double is. -/
def leastPower : Nat := 1074

/-- The double nearest to a number, and of two the one with an even significand. -/
def nearest (least n : Nat) : Nat :=
  let step := least * Nat.pow 2 ((n / least).log2 - 52)
  let significand := n / step
  let rest := n % step
  if step < 2 * rest ∨ step = 2 * rest ∧ significand % 2 = 1 then (significand + 1) * step
  else significand * step

/-- Whether the double nearest to a number is finite. -/
def isFinite (least n : Nat) : Bool := (nearest least n / least).log2 < 1024 + leastPower

/-- How far two numbers are apart. -/
def distance (m n : Nat) : Nat := (m - n) + (n - m)

/-- Whether a number is written with the digits of its double, where the last of them counts `unit`: no
    number with fewer digits has the same double, and none with as many is nearer to it. Of two that
    are as near, the greater one is written. -/
def isWritten (least n unit : Nat) : Bool :=
  let double := nearest least n
  let shorter := n / (10 * unit) * (10 * unit)
  nearest least shorter != double && nearest least (shorter + 10 * unit) != double &&
    (nearest least (n - unit) != double || distance double n ≤ distance double (n - unit)) &&
    (nearest least (n + unit) != double || distance double n < distance double (n + unit))

/-- Whether a number and the next one below it have the same double and are as near to it. -/
def isTied (least n unit : Nat) : Bool :=
  let double := nearest least n
  nearest least (n - unit) == double && distance double (n - unit) == distance double n

end Double

/-! ## Numbers -/

namespace Numeral

/-- The power of ten of the first digit that is not zero. -/
def leadingPower (n : Numeral) : Int := (n.whole.length : Int) - 1 - n.mantissaDigits.zeros

/-- Whether a number is whole, written without a power of ten, and beyond 128 bits. -/
def isGreat (n : Numeral) : Bool :=
  n.exponent.isNone && n.fraction.isNone &&
    (if n.negative then 0x80000000000000000000000000000000 < n.whole.value
      else 0x100000000000000000000000000000000 ≤ n.whole.value)

/-- Whether a number is written with a fraction, without a power of ten and without needless zeros. -/
def isFraction (n : Numeral) : Bool :=
  n.exponent.isNone && n.fraction.isSome && n.mantissaDigits.zerosAtEnd = 0

/-- Whether a fraction has at least five zeros after the point. -/
def isSmall (n : Numeral) : Bool := n.leadingPower < -5

/-- The parts of a number: a unit of its last digit has as many as there are smallest doubles in one. -/
def parts (n : Numeral) : Nat := n.mantissaDigits.value * Nat.pow 2 Double.leastPower

/-- The parts of the smallest double. -/
def least (n : Numeral) : Nat := Nat.pow 10 n.decimals.length

/-- The parts of a unit of the last digit that is not zero. -/
def unit (n : Numeral) : Nat :=
  Nat.pow 10 n.mantissaDigits.zerosAtEnd * Nat.pow 2 Double.leastPower

/-- Whether a number has a finite double and is written with its digits. -/
def isDouble (n : Numeral) : Bool :=
  Double.isFinite n.least n.parts && Double.isWritten n.least n.parts n.unit

/-- Whether a fraction ends with an odd digit and is as near to its double as the even one below. -/
def isRaised (n : Numeral) : Bool :=
  n.isFraction && n.mantissaDigits.value % 2 = 1 && Double.isTied n.least n.parts n.unit

/-- A number with its last digit after the point lowered by one. -/
def lowered (n : Numeral) : Numeral := { n with fraction := n.fraction.map Digits.lowered }

/-- The number of some digits with the point after the first of them, times a power of ten that is
    written with at least two digits. -/
def withPower (negative : Bool) (d : Digit) (ds : Digits) (power : Int) : Numeral where
  negative := negative
  whole := [d]
  fraction := if ds.isEmpty then none else some ds
  exponent := some ⟨power < 0, Digits.filled 2 power.natAbs⟩

/-- A number with the point after its first digit: `1500` is `1.5e+03`. -/
def scientific (n : Numeral) : Numeral :=
  match n.mantissaDigits.significant with
  | [] => n
  | d :: ds => withPower n.negative d ds n.leadingPower

/-- A number as it comes back. -/
def respelled (n : Numeral) : Numeral :=
  if n = { ofNat 0 with negative := true } then ofNat 0
  else if n.isGreat && n.isDouble then n.scientific
  else if n.isFraction && n.isDouble then
    let even := if n.isRaised then n.lowered else n
    if n.isSmall then even.scientific else even
  else n

example : (ofNat (123 * 10 ^ 40)).respelled = ⟨false, [1], some [2, 3], some ⟨false, [4, 2]⟩⟩ := by
  decide +kernel
example : (ofNat (10 ^ 40 + 1)).respelled = ofNat (10 ^ 40 + 1) := by decide +kernel
example : (mk true [0] (some [0, 0, 0, 0, 0, 5]) none).respelled =
    ⟨true, [5], none, some ⟨true, [0, 6]⟩⟩ := by
  decide +kernel
example : (mk false (Digits.ofNat 100000000000000) (some [1, 3]) none).respelled =
    ⟨false, Digits.ofNat 100000000000000, some [1, 2], none⟩ := by
  decide +kernel

end Numeral

/-! ## Values -/

namespace Json

mutual

/-- A value with its numbers as they come back. -/
def respelled : Json → Json
  | number n => number n.respelled
  | array items => array (respelledItems items)
  | object members => object (respelledMembers members)
  | json => json

/-- Items with their numbers as they come back. -/
def respelledItems : List Json → List Json
  | [] => []
  | item :: items => item.respelled :: respelledItems items

/-- Members with their numbers as they come back. -/
def respelledMembers : List (String × Json) → List (String × Json)
  | [] => []
  | (key, value) :: members => (key, value.respelled) :: respelledMembers members

end

end Json

end RecordRules
