/-
  Numeric text, plain or with an exponent. White space around it does not count. One plus sign is
  dropped first; what is left is a number whose point is taken out before its sign and its digits
  are read, so a sign may also stand right after a leading point.
-/
import RecordRules.Decimal
import RecordRules.Text.Blank

namespace RecordRules.Decimal

/-- The number of digits after one optional sign. -/
def integer? : List Char → Option Int
  | '+' :: cs => (Digits.natOf? cs).map Int.ofNat
  | '-' :: cs => (Digits.natOf? cs).map fun n => -Int.ofNat n
  | cs => (Digits.natOf? cs).map Int.ofNat

/-- Whether a character marks an exponent. -/
def isExponentMark (c : Char) : Bool := c = 'e' || c = 'E'

/-- What stands before the first exponent mark, and the exponent after it: zero without one. -/
def splitExponent : List Char → Option (List Char × Int)
  | [] => some ([], 0)
  | c :: cs =>
    if isExponentMark c then (integer? cs).map fun e => ([], e)
    else (splitExponent cs).map fun (base, e) => (c :: base, e)

/-- The characters without the first point, and how many of them stand after it. -/
def dropPoint : List Char → List Char × Nat
  | [] => ([], 0)
  | c :: cs =>
    if c = '.' then (cs, cs.length)
    else let (base, places) := dropPoint cs; (c :: base, places)

/-- The characters without one leading plus sign. -/
def dropPlus : List Char → List Char
  | '+' :: cs => cs
  | cs => cs

/-! ## Characters without marks -/

theorem dropPlus_eq_self {c : Char} (other : c ≠ '+') (cs : List Char) :
    dropPlus (c :: cs) = c :: cs := by
  unfold dropPlus
  split
  · next plus => exact absurd (List.cons.inj plus).1 other
  · rfl

theorem splitExponent_of_plain {cs : List Char} (plain : ∀ c ∈ cs, isExponentMark c = false) :
    splitExponent cs = some (cs, 0) := by
  induction cs with
  | nil => rfl
  | cons c cs ih =>
    rw [List.forall_mem_cons] at plain
    rw [splitExponent, plain.1, ih plain.2]
    rfl

theorem dropPoint_of_plain {cs : List Char} (plain : ∀ c ∈ cs, c ≠ '.') :
    dropPoint cs = (cs, 0) := by
  induction cs with
  | nil => rfl
  | cons c cs ih =>
    rw [List.forall_mem_cons] at plain
    rw [dropPoint, if_neg plain.1, ih plain.2]

theorem integer?_of_unsigned {c : Char} (other : c ≠ '-' ∧ c ≠ '+') (cs : List Char) :
    integer? (c :: cs) = (Digits.natOf? (c :: cs)).map Int.ofNat := by
  unfold integer?
  split
  · next plus => exact absurd (List.cons.inj plus).1 other.2
  · next minus => exact absurd (List.cons.inj minus).1 other.1
  · rfl

/-! ## Numbers -/

/-- The number of trimmed characters. -/
def ofChars? (cs : List Char) : Option Decimal := do
  let (base, exponent) ← splitExponent (dropPlus cs)
  let (plain, places) := dropPoint base
  let digits ← integer? plain
  let scale := (places : Int) - exponent
  if scale.natAbs ≤ scaleLimit then some ⟨digits, scale⟩ else none

/-- The number that a text writes. -/
def ofText? (s : String) : Option Decimal := ofChars? (Text.trimChars s.toList)

example : ofChars? ['-', '1', '.', '5', '0', 'e', '1'] = some ⟨-150, 1⟩ := by decide
example : ofChars? ['1', '-'] = none := by decide

end RecordRules.Decimal
