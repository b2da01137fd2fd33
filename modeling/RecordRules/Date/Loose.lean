/-
  Days in a looser writing: white space may stand before each number and around the hyphens, months
  and days may have one digit, and a signed year may have any number of digits.
-/
import RecordRules.Date
import RecordRules.Text.Blank

namespace RecordRules.Date

/-- Why a text writes no day. -/
inductive Flaw
  | outOfRange
  | invalid
  | tooShort
  | tooLong
deriving DecidableEq, Repr

/-- The wording of a flaw. -/
def Flaw.message : Flaw → String
  | outOfRange => "input is out of range"
  | invalid => "input contains invalid characters"
  | tooShort => "premature end of input"
  | tooLong => "trailing input"

/-- Reads at least one digit and, with a width, at most so many. -/
def number? (width : Option Nat) (cs : List Char) : Except Flaw (Nat × List Char) :=
  let ds := match width with
    | some w => (Digits.span cs).1.take w
    | none => (Digits.span cs).1
  match ds with
  | [] => .error (if cs.isEmpty then .tooShort else .invalid)
  | _ :: _ => .ok (Digits.value ds, cs.drop ds.length)

/-- Reads a year. It has to fit 32 bits. -/
def year? (cs : List Char) : Except Flaw (Int × List Char) := do
  let (year, rest) ← match Text.trimLeft cs with
    | '-' :: cs => (number? none cs).map fun (n, rest) => (-(n : Int), rest)
    | '+' :: cs => (number? none cs).map fun (n, rest) => ((n : Int), rest)
    | cs => (number? (some 4) cs).map fun (n, rest) => ((n : Int), rest)
  if -0x80000000 ≤ year ∧ year < 0x80000000 then return (year, rest) else throw .outOfRange

/-- Reads a number of at most two digits, from one to a greatest. -/
def part? (greatest : Nat) (cs : List Char) : Except Flaw (Nat × List Char) := do
  let (n, rest) ← number? (some 2) (Text.trimLeft cs)
  if 1 ≤ n ∧ n ≤ greatest then return (n, rest) else throw .outOfRange

/-- Reads a hyphen and white space before it. -/
def hyphen? (cs : List Char) : Except Flaw (List Char) :=
  match Text.trimLeft cs with
  | '-' :: rest => .ok rest
  | [] => .error .tooShort
  | _ :: _ => .error .invalid

/-- The first and the last year of the calendar. -/
def firstYear : Int := -262143
def lastYear : Int := 262142

/-- The day that characters write loosely. -/
def ofLooseChars (cs : List Char) : Except Flaw Date := do
  let (year, cs) ← year? cs
  let (month, cs) ← part? 12 (← hyphen? cs)
  let (day, cs) ← part? 31 (← hyphen? cs)
  if !(Text.trimLeft cs).isEmpty then throw .tooLong
  if year < firstYear ∨ lastYear < year then throw .outOfRange
  match of? year month day with
  | some d => return d
  | none => throw .outOfRange

/-- The day that a text writes loosely. -/
def ofLoose (s : String) : Except String Date := (ofLooseChars s.toList).mapError Flaw.message

end RecordRules.Date
