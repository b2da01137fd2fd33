/-
  Exact decimal numbers. A number keeps the number of decimal places that it was written with: 1.0
  and 1.00 are different as written and equal in value.
-/
import RecordRules.Digits

namespace RecordRules

/-- The number `digits * 10 ^ (-scale)`. -/
structure Decimal where
  digits : Int
  scale : Int
deriving DecidableEq, Repr, Inhabited

namespace Decimal

/-- Numbers with more decimal places, or more zeros before the point, are not accepted. -/
def scaleLimit : Nat := 4096

/-- The digits of a number at a scale that is at least its own. -/
def digitsAt (d : Decimal) (scale : Int) : Int := d.digits * Nat.pow 10 (scale - d.scale).toNat

/-- The order of two numbers by value: of their digits at the greater of their scales. -/
def compare (a b : Decimal) : Ordering :=
  let scale := max a.scale b.scale
  Ord.compare (a.digitsAt scale) (b.digitsAt scale)

/-- Whether a number is less than another in value. -/
def below (a b : Decimal) : Bool := a.compare b == .lt

example : (Decimal.mk 10 1).compare ⟨100, 2⟩ = .eq := by decide
example : (Decimal.mk 1 (-3)).compare ⟨999, 0⟩ = .gt := by decide

/-! ## Text of a number -/

/-- Digits with a point before the last so many of them, and zeros filled in. -/
def withPoint (ds : List Char) (places : Nat) : List Char :=
  if places = 0 then ds
  else
    let filled := List.replicate (places + 1 - ds.length) '0' ++ ds
    filled.take (filled.length - places) ++ '.' :: filled.drop (filled.length - places)

/-- The first digit, a point and the other digits; a single digit has no point. -/
def withLeadingPoint : List Char → List Char
  | d :: e :: ds => d :: '.' :: e :: ds
  | ds => ds

/-- The characters of a number without its sign. Very small numbers are written with the power of
    ten of their first digit, very great ones with that of their last. -/
def unsignedChars (ds : List Char) (scale : Int) : List Char :=
  let excess := scale - ds.length
  if excess > 5 then withLeadingPoint ds ++ ['E', '-'] ++ (Digits.ofNat (excess + 1).toNat).chars
  else if -scale > 15 then ds ++ ['e', '+'] ++ (Digits.ofNat (-scale).toNat).chars
  else if scale < 0 then ds ++ List.replicate (-scale).toNat '0'
  else withPoint ds scale.toNat

/-- The characters of a number. Zero is written without decimal places. -/
def chars (d : Decimal) : List Char :=
  (if d.digits < 0 then ['-'] else []) ++
    unsignedChars (Digits.ofNat d.digits.natAbs).chars (if d.digits = 0 then 0 else d.scale)

/-- The text of a number. -/
def text (d : Decimal) : String := String.ofList d.chars

end Decimal

end RecordRules
