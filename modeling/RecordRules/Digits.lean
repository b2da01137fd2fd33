/-
  Decimal digits, and the natural numbers that they write.
-/

namespace RecordRules

/-- A decimal digit. -/
abbrev Digit := Fin 10

namespace Digit

/-- The digit zero. -/
def zero : Digit := ⟨0, by decide⟩

/-- Whether a digit is zero. -/
def isZero (d : Digit) : Bool := d.val == 0

/-- The character of a digit. -/
def char (d : Digit) : Char := Char.ofNat (48 + d.val)

/-- The digit of a character. -/
def ofChar? (c : Char) : Option Digit :=
  if h : 48 ≤ c.toNat ∧ c.toNat < 58 then some ⟨c.toNat - 48, by omega⟩ else none

end Digit

/-- Digits, the first of which counts most. -/
abbrev Digits := List Digit

namespace Digits

/-- The number that digits write. -/
def value (ds : Digits) : Nat := ds.foldl (fun n d => 10 * n + d.val) 0

/-- The digits of a number before digits that are known already. -/
def before (n : Nat) (known : Digits) : Digits :=
  if h : n < 10 then ⟨n, h⟩ :: known
  else before (n / 10) (⟨n % 10, Nat.mod_lt _ (by decide)⟩ :: known)
termination_by n
decreasing_by omega

/-- The digits of a number, without leading zeros. -/
def ofNat (n : Nat) : Digits := before n []

/-- The characters of digits. -/
def chars (ds : Digits) : List Char := ds.map Digit.char

/-- The digits that a text starts with, and the rest of it. -/
def span : List Char → Digits × List Char
  | [] => ([], [])
  | c :: cs =>
    match Digit.ofChar? c with
    | some d => let (ds, rest) := span cs; (d :: ds, rest)
    | none => ([], c :: cs)

/-- The digits of a text of digits only. -/
def ofChars? : List Char → Option Digits
  | [] => some []
  | c :: cs => do
    let d ← Digit.ofChar? c
    return d :: (← ofChars? cs)

/-- The number of a text of at least one digit. -/
def natOf? (cs : List Char) : Option Nat :=
  match ofChars? cs with
  | some (d :: ds) => some (value (d :: ds))
  | _ => none

/-- How many zeros digits start with. -/
def zeros (ds : Digits) : Nat := (ds.takeWhile Digit.isZero).length

/-- How many zeros digits end with. -/
def zerosAtEnd (ds : Digits) : Nat := zeros ds.reverse

/-- The digits without the zeros at either end. -/
def significant (ds : Digits) : Digits :=
  ((ds.dropWhile Digit.isZero).reverse.dropWhile Digit.isZero).reverse

/-- Digits with the last one lowered by one. -/
def lowered : Digits → Digits
  | [] => []
  | [d] => [⟨d.val - 1, Nat.lt_of_le_of_lt (Nat.sub_le d.val 1) d.isLt⟩]
  | d :: ds => d :: lowered ds

/-- The digits of a number, with zeros before them up to a width. -/
def filled (width n : Nat) : Digits := List.replicate (width - (ofNat n).length) Digit.zero ++ ofNat n

/-- The text of a number in decimal digits. -/
def text (n : Nat) : String := String.ofList (ofNat n).chars

/-- The digits of a number, filled up with leading zeros to a width. -/
def padded (width n : Nat) : List Char :=
  let cs := (ofNat n).chars
  List.replicate (width - cs.length) '0' ++ cs

end Digits

example : (Digits.ofNat 1907).chars = ['1', '9', '0', '7'] := by decide +kernel
example : Digits.natOf? ['0', '4', '2'] = some 42 := by decide

end RecordRules
